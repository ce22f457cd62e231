/-!
# UTF-8

A machine that reads octets one at a time: it is between characters or owes some continuation
octets, the first of which may be restricted further (no overlong forms, no surrogates, nothing
above U+10FFFF). It reports each character, and each maximal ill-formed part as `none`.
`decode?` wants none of the latter, `decodeLossy` shows U+FFFD in their place.
-/

namespace Ls8.Utf8

/-- Where the reader stands between octets. -/
inductive State where
  /-- Between characters. -/
  | start
  /-- Inside a character whose bits so far are `bits`: `owed + 1` octets are missing, and the next
  one lies in `low` to `high`. -/
  | inside (owed low high bits : Nat)
deriving DecidableEq

/-- Reads an octet between characters. -/
def begin (b : Nat) : List (Option Char) × State :=
  if b < 0x80 then ([some (Char.ofNat b)], .start)
  else if b < 0xC2 then ([none], .start)
  else if b < 0xE0 then ([], .inside 0 0x80 0xBF (b - 0xC0))
  else if b = 0xE0 then ([], .inside 1 0xA0 0xBF 0)
  else if b = 0xED then ([], .inside 1 0x80 0x9F 0xD)
  else if b < 0xF0 then ([], .inside 1 0x80 0xBF (b - 0xE0))
  else if b = 0xF0 then ([], .inside 2 0x90 0xBF 0)
  else if b < 0xF4 then ([], .inside 2 0x80 0xBF (b - 0xF0))
  else if b = 0xF4 then ([], .inside 2 0x80 0x8F 4)
  else ([none], .start)

/-- Reads an octet. One that cannot continue the character ends an ill-formed part and is then
read as a first octet. -/
def State.next : State → Nat → List (Option Char) × State
  | .start, b => begin b
  | .inside owed low high bits, b =>
    if low ≤ b ∧ b ≤ high then
      match owed with
      | 0 => ([some (Char.ofNat (bits * 64 + (b - 0x80)))], .start)
      | owed + 1 => ([], .inside owed 0x80 0xBF (bits * 64 + (b - 0x80)))
    else
      let (read, state) := begin b
      (none :: read, state)

/-- What is left to report where the octets end. -/
def State.finish : State → List (Option Char)
  | .start => []
  | .inside .. => [none]

/-- The characters of an octet string, with `none` for each maximal ill-formed part. -/
def scan (state : State) : List UInt8 → List (Option Char)
  | [] => state.finish
  | b :: bs => (state.next b.toNat).1 ++ scan (state.next b.toNat).2 bs

/-- The text of a well-formed octet string. -/
def decode? (bytes : List UInt8) : Option (List Char) :=
  (scan .start bytes).mapM id

/-- The text of any octet string, ill-formed parts shown as U+FFFD. -/
def decodeLossy (bytes : List UInt8) : List Char :=
  (scan .start bytes).map (·.getD (Char.ofNat 0xFFFD))

def encode (cs : List Char) : List UInt8 :=
  cs.flatMap String.utf8EncodeChar

end Ls8.Utf8
