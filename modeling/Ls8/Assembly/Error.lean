import Ls8.Text.Numeral

/-!
# Assembly errors

What can be wrong with a line of assembly text. Faults fall into seven kinds; several faults of
form are one kind.
-/

namespace Ls8.Assembly

open Numeral (decimal signed)

/-- What is wrong with a line. -/
inductive Fault where
  /-- The text before a colon is empty or more than one word. -/
  | badLabel (text : String)
  /-- A data statement has no operand. -/
  | missingData
  /-- There is nothing where an operand should be. -/
  | emptyOperand
  /-- An operand starts like a number and is none. -/
  | invalidNumber (text : String)
  | unknownMnemonic (name : String)
  | operandCount (mnemonic : String) (expected found : Nat)
  /-- A register number is above 7. -/
  | invalidRegister (text : String)
  | undefinedLabel (label : String)
  | duplicateLabel (label : String)
  /-- A number or the address of a label is not a byte. -/
  | valueOutOfRange (value : Int)
deriving DecidableEq

inductive FaultKind where
  | form
  | mnemonic
  | operandCount
  | register
  | undefinedLabel
  | duplicateLabel
  | range
deriving DecidableEq

namespace Fault

def kind : Fault → FaultKind
  | badLabel _ | missingData | emptyOperand | invalidNumber _ => .form
  | unknownMnemonic _ => .mnemonic
  | operandCount .. => .operandCount
  | invalidRegister _ => .register
  | undefinedLabel _ => .undefinedLabel
  | duplicateLabel _ => .duplicateLabel
  | valueOutOfRange _ => .range

/-- A fault of form on a line. -/
def formMessage (line : String) (problem : String) : String :=
  "syntax error on line " ++ line ++ ": " ++ problem

def message (line : String) : Fault → String
  | badLabel text => formMessage line ("bad label '" ++ text ++ "'")
  | missingData => formMessage line "DB requires a value"
  | emptyOperand => formMessage line "empty operand"
  | invalidNumber text => formMessage line ("invalid number '" ++ text ++ "'")
  | unknownMnemonic name => "unknown mnemonic on line " ++ line ++ ": " ++ name
  | operandCount mnemonic expected found =>
    mnemonic ++ " on line " ++ line ++ " takes " ++ decimal expected ++ " operand(s), found " ++
      decimal found
  | invalidRegister text => "invalid register on line " ++ line ++ ": " ++ text
  | undefinedLabel label => "undefined label on line " ++ line ++ ": " ++ label
  | duplicateLabel label => "duplicate label on line " ++ line ++ ": " ++ label
  | valueOutOfRange value => "value out of range on line " ++ line ++ ": " ++ signed value

end Fault

/-- A fault and the line that has it; lines count from one. -/
structure Error where
  line : Nat
  fault : Fault
deriving DecidableEq

namespace Error

def kind (e : Error) : FaultKind :=
  e.fault.kind

def message (e : Error) : String :=
  e.fault.message (decimal e.line)

end Error

end Ls8.Assembly
