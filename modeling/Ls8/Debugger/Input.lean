import Ls8.Debugger.Keys
import Ls8.Text.Numeral
import Ls8.Text.Utf8

/-!
# Keys as octets

A terminal sends a key as one octet or several: a character in UTF-8, a control octet, or a sequence
that begins with an escape octet. Octets are held until they make up a key; then, and also if they
cannot become one, none is held any more.
-/

namespace Ls8.Input

open Debugger (Key)

/-- What the octets held so far are. -/
inductive Reading where
  | incomplete
  | key (key : Key)
  /-- No key: a malformed sequence, or an answer of the terminal. -/
  | nothing
deriving DecidableEq

/-- The octet that begins a sequence. -/
def escape : UInt8 := 0x1B

def isChar (octet : UInt8) (c : Char) : Bool :=
  octet.toNat == c.toNat

def isOneOf (octet : UInt8) (cs : String) : Bool :=
  cs.toList.any (isChar octet)

/-- The ASCII text of octets. -/
def text (octets : List UInt8) : List Char :=
  octets.map fun octet => Char.ofNat octet.toNat

/-- A character, read from a state of the UTF-8 machine on. -/
def character (state : Utf8.State) : List UInt8 → Reading
  | [] => .incomplete
  | octet :: rest =>
    match state.next octet.toNat with
    | (some c :: _, _) => .key (.char c)
    | (none :: _, _) => .nothing
    | ([], state) => character state rest

/-- A key without an escape octet. With the control key a letter is sent as its number in the
alphabet, and so are some digits after the letters; the tabulator, the line end and the key that
deletes have octets of their own. -/
def plain : List UInt8 → Reading
  | [] => .incomplete
  | octet :: rest =>
    let n := octet.toNat
    if n = 0x09 ∨ n = 0x0D ∨ n = 0x7F then .key .other
    else if n = 0 then .key (.char ' ')
    else if n ≤ 0x1A then .key (.char (Char.ofNat ('a'.toNat + (n - 1))))
    else if 0x1C ≤ n ∧ n ≤ 0x1F then .key (.char (Char.ofNat ('4'.toNat + (n - 0x1C))))
    else character .start (octet :: rest)

/-- The key of the letter at the end of a short sequence. -/
def letterKey (letter : UInt8) : Key :=
  if isChar letter 'A' then .up else if isChar letter 'B' then .down else .other

/-- A key of the keypad: what follows the escape octet and `O`. -/
def keypad : List UInt8 → Reading
  | [] => .incomplete
  | letter :: _ => if isOneOf letter "ABCDFHPQRS" then .key (letterKey letter) else .nothing

/-! ## Sequences with numbers -/

def fields (octets : List UInt8) : List (List Char) :=
  (text octets).splitOn ';'

/-- A field without its subordinate numbers, and those. -/
def parts (field : List Char) : List (List Char) :=
  field.splitOn ':'

/-- The modifier keys of a sequence, one more than their sum, and what happens to the key, as the
second field says. -/
def modifiers? (fields : List (List Char)) : Option (UInt8 × Option UInt8) :=
  match fields with
  | _ :: second :: _ =>
    match parts second with
    | modifiers :: kind :: _ => (Numeral.byte? modifiers).map (·, Numeral.byte? kind)
    | [modifiers] => (Numeral.byte? modifiers).map (·, none)
    | [] => none
  | _ => none

/-- The key, if it is pressed; that it is held or released has no meaning. -/
def pressed (fields : List (List Char)) (key : Key) : Reading :=
  match modifiers? fields with
  | some (_, some 2) | some (_, some 3) => .key .other
  | _ => .key key

/-- A cursor or function key with modifiers. The second field may be anything that ends in a digit
if it is no number. -/
def modified (octets : List UInt8) (letter : UInt8) : Reading :=
  let readable := (modifiers? (fields octets)).isSome ||
    octets.getLast?.any fun octet => isOneOf octet "0123456789"
  if readable && isOneOf letter "ABCDFHPQRS" then pressed (fields octets) (letterKey letter)
  else .nothing

/-- The numbers of the special keys, of which none has a meaning. -/
def isSpecial (n : UInt8) : Bool :=
  (1 ≤ n && n ≤ 8) || (11 ≤ n && n ≤ 15) || (17 ≤ n && n ≤ 21) || (23 ≤ n && n ≤ 26) ||
    n == 28 || n == 29 || (31 ≤ n && n ≤ 34)

def special (octets : List UInt8) : Reading :=
  match fields octets with
  | number :: _ => if (Numeral.byte? number).any isSpecial then .key .other else .nothing
  | [] => .nothing

/-- A number that is a code point. -/
def codePoint? (cs : List Char) : Option Nat :=
  (Numeral.unsigned? 10 cs).filter Nat.isValidChar

/-- The key of a code point. Some code points stand for the cursor keys of the keypad. -/
def codeKey (code : Nat) : Key :=
  if code = 57419 then .up
  else if code = 57420 then .down
  else if code = 0x09 ∨ code = 0x0D ∨ code = 0x1B ∨ code = 0x7F then .other
  else .char (Char.ofNat code)

/-- The code points of the shift keys themselves. -/
def isShiftKey (code : Nat) : Bool :=
  code == 57441 || code == 57447

/-- The shift key is down: its bit is set in the modifiers. -/
def isShifted (fields : List (List Char)) : Bool :=
  (modifiers? fields).any fun (modifiers, _) => 0 < modifiers && (modifiers.toNat - 1) % 2 == 1

/-- A key sent as its code point. With the shift key a second code point counts instead. -/
def coded (octets : List UInt8) : Reading :=
  match (fields octets).head?.map parts with
  | some (code :: others) =>
    match codePoint? code with
    | none => .nothing
    | some code =>
      let shifted := (others.head?.bind codePoint?).filter fun _ =>
        isShifted (fields octets) || isShiftKey code
      pressed (fields octets) (shifted.elim (codeKey code) fun code => .char (Char.ofNat code))
  | _ => .nothing

/-! ## Mice -/

/-- A sign for what a mouse does: the low two bits and the high two bits make up a button, and the
bit between them says that the mouse is moved. -/
def isMouse (sign : Nat) : Bool :=
  let button := sign % 4 + sign / 64 * 4
  let moved := sign / 32 % 2 == 1
  button < (if moved then 6 else 8)

/-- What a mouse did, which has no meaning, in a text of its sign and two coordinates; `base` is
added to the sign. -/
def mouse (base : Nat) (octets : List UInt8) : Reading :=
  match fields octets with
  | sign :: column :: row :: _ =>
    let known := (Numeral.byte? sign).any fun sign =>
      base ≤ sign.toNat && isMouse (sign.toNat - base)
    if known && (Numeral.word16? column).isSome && (Numeral.word16? row).isSome then .key .other
    else .nothing
  | _ => .nothing

/-! ## Control sequences -/

/-- The beginning and the end of pasted text, without the escape octet and the bracket. -/
def pasteStart : List Char := "200~".toList

def pasteEnd : List Char := "[201~".toList

/-- A sequence that begins with a digit. It goes on to an octet that is no digit, blank or sign. -/
def numbered (octets : List UInt8) : Reading :=
  match octets.getLast? with
  | none => .incomplete
  | some last =>
    let front := octets.dropLast
    if last.toNat < 64 ∨ 126 < last.toNat then .incomplete
    else if pasteStart.isPrefixOf (text octets) then
      if (Char.ofNat escape.toNat :: pasteEnd).isSuffixOf (text octets) then .key .other
      else .incomplete
    else if isChar last '~' then special front
    else if isChar last 'u' then coded front
    else if isChar last 'M' then mouse 32 front
    else if isChar last 'R' then .nothing
    else modified front last

/-- What follows the escape octet and a bracket. -/
def control : List UInt8 → Reading
  | [] => .incomplete
  | first :: rest =>
    if isOneOf first "ABCDFHIOPQSZ" then .key (letterKey first)
    else if isOneOf first "0123456789" then numbered (first :: rest)
    else if isChar first '[' then
      match rest with
      | [] => .incomplete
      | letter :: _ => if isOneOf letter "ABCDE" then .key .other else .nothing
    else if isChar first '?' then
      match rest.getLast? with
      | some last =>
        if isChar last 'c' || (isChar last 'u' && 2 ≤ rest.length) then .nothing else .incomplete
      | none => .incomplete
    else if isChar first '<' then
      if rest.getLast?.any fun last => isOneOf last "mM" then mouse 0 rest.dropLast
      else .incomplete
    else if isChar first 'M' then
      match rest with
      | sign :: _ :: _ :: _ =>
        if 32 ≤ sign.toNat && isMouse (sign.toNat - 32) then .key .other else .nothing
      | _ => .incomplete
    else .nothing

/-! ## Octets -/

/-- What octets are. With the escape octet in front a key without one stays the same. -/
def reading : List UInt8 → Reading
  | [] => .incomplete
  | octet :: rest =>
    if octet = escape then
      match rest with
      | [] => .incomplete
      | second :: more =>
        if second = escape then .key .other
        else if isChar second 'O' then keypad more
        else if isChar second '[' then control more
        else plain rest
    else plain (octet :: rest)

/-- The keys of octets that follow those held, and the octets held in the end. An escape octet
that nothing follows is a key of its own. -/
def keys (held : List UInt8) : List UInt8 → List Key × List UInt8
  | [] => if held = [escape] then ([.other], []) else ([], held)
  | octet :: rest =>
    let held := held ++ [octet]
    match reading held with
    | .incomplete => keys held rest
    | .nothing => keys [] rest
    | .key key => let (more, held) := keys [] rest; (key :: more, held)

end Ls8.Input
