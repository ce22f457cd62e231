import Ls8.Assembly.Statement
import Ls8.Text.Basic

/-!
# Assembling a program

One pass over the lines emits bytes and collects labels. Where a label's address belongs, it leaves
a zero and a note; when all labels are known, the notes are settled in the order in which they were
made.
-/

namespace Ls8.Assembly

/-- A place that waits for the address of a label. -/
structure Reference where
  position : Nat
  label : String
  line : Nat
deriving DecidableEq

/-- What the pass over the lines has produced so far. -/
structure Draft where
  symbols : List (String × Nat) := []
  /-- The open places, in the order of the text. -/
  references : Array Reference := #[]
  output : Array UInt8 := #[]

namespace Draft

/-- Enters a label for the next address. -/
def define (d : Draft) (label : String) : Except Fault Draft :=
  if (d.symbols.lookup label).isSome then .error (.duplicateLabel label)
  else .ok { d with symbols := (label, d.output.size) :: d.symbols }

/-- Enters the label of a line, if it has one. -/
def define? (d : Draft) : Option String → Except Fault Draft
  | none => .ok d
  | some label => d.define label

def emit (d : Draft) (line : Nat) : Item → Draft
  | .byte value => { d with output := d.output.push value }
  | .address label =>
    { d with
      references := d.references.push ⟨d.output.size, label, line⟩
      output := d.output.push 0 }

def emitAll (d : Draft) (line : Nat) (items : List Item) : Draft :=
  items.foldl (fun d item => d.emit line item) d

/-- Takes in a line: its label first, then what its statement emits. -/
def addLine (d : Draft) (line : Nat) (text : List Char) : Except Fault Draft := do
  let ⟨label, statement⟩ ← readLine text
  let d ← d.define? label
  let items ← readStatement statement
  return d.emitAll line items

/-- Takes in lines, the first of which has the number `line`. -/
def addLines (d : Draft) (line : Nat) : List (List Char) → Except Error Draft
  | [] => .ok d
  | text :: rest =>
    match d.addLine line text with
    | .error fault => .error ⟨line, fault⟩
    | .ok d => d.addLines (line + 1) rest

end Draft

/-- The byte that a label stands for. -/
def labelByte (symbols : List (String × Nat)) (label : String) : Except Fault UInt8 :=
  match symbols.lookup label with
  | none => .error (.undefinedLabel label)
  | some address =>
    if address < 256 then .ok (UInt8.ofNat address) else .error (.valueOutOfRange address)

/-- Puts the address of its label at a place. -/
def settle (symbols : List (String × Nat)) (output : Array UInt8) (r : Reference) :
    Except Error (Array UInt8) :=
  match labelByte symbols r.label with
  | .ok byte => .ok (output.setIfInBounds r.position byte)
  | .error fault => .error ⟨r.line, fault⟩

def Draft.finish (d : Draft) : Except Error (List UInt8) := do
  return (← d.references.toList.foldlM (settle d.symbols) d.output).toList

end Assembly

/-- The bytes that an assembly text describes. -/
def assemble (source : String) : Except Assembly.Error (List UInt8) := do
  (← ({} : Assembly.Draft).addLines 1 (Text.lines source.toList)).finish

end Ls8
