import Ls8.Assembly.Error
import Ls8.Opcode
import Ls8.Text.Basic
import Ls8.Text.Capital

/-!
# Assembly statements

A line is a label with a colon, a statement, both or neither, and a comment from the first
semicolon or number sign on. A statement is a mnemonic and operands between commas; it emits items,
each of which takes one byte: a byte known at once or the address of a label. Labels and mnemonics
are read in capitals.
-/

namespace Ls8.Assembly

open Text (capitals isBlank smallAscii splitWord trim)

/-- What a statement puts at one address. -/
inductive Item where
  | byte (value : UInt8)
  | address (label : String)
deriving DecidableEq

/-! ## Operands -/

/-- The number in a register's name: `R` in either case and a decimal number below 256. -/
def registerNumber? : List Char → Option UInt8
  | 'R' :: cs | 'r' :: cs => Numeral.byte? cs
  | _ => none

/-- A number: decimal, or after `0x` hexadecimal, or after `0b` binary. -/
def number? (cs : List Char) : Option Int :=
  match smallAscii cs with
  | '0' :: 'x' :: ds => Numeral.int64? 16 ds
  | '0' :: 'b' :: ds => Numeral.int64? 2 ds
  | ds => Numeral.int64? 10 ds

def byteItem (value : Int) : Except Fault Item :=
  if 0 ≤ value ∧ value < 256 then .ok (.byte (UInt8.ofNat value.toNat))
  else .error (.valueOutOfRange value)

def startsWithDigit : List Char → Bool
  | c :: _ => '0' ≤ c && c ≤ '9'
  | [] => false

/-- What an operand emits: a register's number, a number's value, or a label's address. -/
def readOperand (cs : List Char) : Except Fault Item :=
  if cs.isEmpty then .error .emptyOperand
  else
    match registerNumber? cs with
    | some register =>
      if register < 8 then .ok (.byte register) else .error (.invalidRegister (String.ofList cs))
    | none =>
      match number? cs with
      | some value => byteItem value
      | none =>
        if startsWithDigit cs then .error (.invalidNumber (String.ofList cs))
        else .ok (.address (String.ofList (capitals cs)))

/-! ## Statements -/

/-- The operands of a statement, given the trimmed text after the mnemonic. -/
def splitOperands (cs : List Char) : List (List Char) :=
  if cs.isEmpty then [] else (cs.splitOn ',').map trim

/-- What a statement with a mnemonic in capitals emits. -/
def readInstruction (mnemonic : List Char) (operands : List (List Char)) :
    Except Fault (List Item) :=
  if mnemonic = ['D', 'B'] then
    if operands.isEmpty then .error .missingData else operands.mapM readOperand
  else
    match Opcode.ofMnemonic? mnemonic with
    | none => .error (.unknownMnemonic (String.ofList mnemonic))
    | some op =>
      let expected := (operandCount op.byte).toNat
      if operands.length = expected then do
        return .byte op.byte :: (← operands.mapM readOperand)
      else .error (.operandCount (String.ofList mnemonic) expected operands.length)

/-- What a trimmed statement emits; an empty one emits nothing. -/
def readStatement (cs : List Char) : Except Fault (List Item) :=
  if cs.isEmpty then .ok []
  else
    let (mnemonic, rest) := splitWord cs
    readInstruction (capitals mnemonic) (splitOperands (trim rest))

/-! ## Lines -/

def stripComment (cs : List Char) : List Char :=
  cs.takeWhile fun c => c != ';' && c != '#'

structure Line where
  label : Option String
  /-- The trimmed text of the statement. -/
  statement : List Char
deriving DecidableEq

/-- The label that the text before a colon defines: one word, in capitals. -/
def readLabel (cs : List Char) : Except Fault String :=
  let label := capitals (trim cs)
  if label.isEmpty || label.any isBlank then .error (.badLabel (String.ofList cs))
  else .ok (String.ofList label)

/-- Takes a line apart at its first colon. -/
def readLine (text : List Char) : Except Fault Line :=
  let cs := trim (stripComment text)
  if cs.contains ':' then do
    let label ← readLabel (cs.takeWhile (· != ':'))
    return ⟨some label, trim ((cs.dropWhile (· != ':')).drop 1)⟩
  else .ok ⟨none, cs⟩

end Ls8.Assembly
