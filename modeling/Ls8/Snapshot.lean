import Ls8.Json
import Ls8.Machine.Basic

/-!
# Snapshots

A machine and its parts as JSON documents. Written documents name every field; reading checks
sizes and ranges, ignores unknown fields, and also takes a machine or its registers as an array of
all fields in order. An instruction without operands is a name, one with operands an object with
the name as its only field.
-/

namespace Ls8.Snapshot

/-- Why a document is not a snapshot. -/
inductive Error where
  /-- The document has another form. -/
  | malformed
  /-- The cells of memory are not 256. -/
  | memorySize (e : Memory.SizeError)
deriving DecidableEq

/-- The text of an error, where it has one of its own. -/
def Error.message? : Error → Option String
  | malformed => none
  | memorySize e => some e.message

/-- What reading gives. -/
abbrev Reading (α : Type) := Except Error α

/-- A value that may be missing because the document has another form. -/
def require {α : Type} : Option α → Reading α
  | some a => .ok a
  | none => .error .malformed

/-! ## Alternatives -/

/-- A document that names one of several alternatives, perhaps with content. -/
def alternative? : Json → Option (String × Option Json)
  | .string name => some (name, none)
  | .object [(name, content)] => some (name, some content)
  | _ => none

/-- The name of an alternative without content. -/
def plainName? (j : Json) : Option String :=
  match alternative? j with
  | some (name, none) | some (name, some .null) => some name
  | _ => none

def readState (j : Json) : Reading RunState :=
  require ((plainName? j).bind RunState.ofName?)

def readOperation (j : Json) : Reading Operation :=
  require ((plainName? j).bind Operation.ofName?)

def readOpcode (j : Json) : Reading UInt8 :=
  require j.byte?

/-! ## Instructions -/

def ofInstruction : Instruction → Json
  | .hlt => .string "Hlt"
  | .ldi reg value => .object [("Ldi", .object [("reg", .ofByte reg), ("value", .ofByte value)])]
  | .prn reg => .object [("Prn", .object [("reg", .ofByte reg)])]
  | .mul a b => .object [("Mul", .object [("a", .ofByte a), ("b", .ofByte b)])]
  | .add a b => .object [("Add", .object [("a", .ofByte a), ("b", .ofByte b)])]
  | .pop reg => .object [("Pop", .object [("reg", .ofByte reg)])]
  | .push reg => .object [("Push", .object [("reg", .ofByte reg)])]
  | .call reg => .object [("Call", .object [("reg", .ofByte reg)])]
  | .ret => .string "Ret"

/-- A byte among the operands of an instruction. -/
def operand? (operands : Json) (name : String) : Option UInt8 :=
  (operands.field? name).bind Json.byte?

/-- The instruction of a name with operands. -/
def withOperands? (name : String) (operands : Json) : Option Instruction :=
  match name with
  | "Ldi" => do return .ldi (← operand? operands "reg") (← operand? operands "value")
  | "Prn" => do return .prn (← operand? operands "reg")
  | "Mul" => do return .mul (← operand? operands "a") (← operand? operands "b")
  | "Add" => do return .add (← operand? operands "a") (← operand? operands "b")
  | "Pop" => do return .pop (← operand? operands "reg")
  | "Push" => do return .push (← operand? operands "reg")
  | "Call" => do return .call (← operand? operands "reg")
  | _ => none

/-- The instruction that a document describes; its register numbers are not checked. -/
def instruction? (j : Json) : Option Instruction :=
  match plainName? j with
  | some "Hlt" => some .hlt
  | some "Ret" => some .ret
  | _ =>
    match alternative? j with
    | some (name, some operands) => withOperands? name operands
    | _ => none

def readInstruction (j : Json) : Reading Instruction :=
  require (instruction? j)

/-- The document of an instruction that may be missing. -/
def ofLast : Option Instruction → Json
  | none => .null
  | some i => ofInstruction i

/-- Reads an instruction that may be missing. -/
def readLast : Json → Reading (Option Instruction)
  | .null => .ok none
  | j => (readInstruction j).map some

/-! ## Parts of the machine -/

def ofRegisters (regs : Registers) : Json :=
  .object [("r", .ofBytes regs.r.toList), ("pc", .ofByte regs.pc), ("fl", .ofByte regs.fl)]

/-- Reads the general registers: exactly eight bytes. -/
def general? (j : Json) : Option (Vector UInt8 8) :=
  j.bytes?.bind fun values =>
    if h : values.length = 8 then some ⟨values.toArray, by simpa using h⟩ else none

def registersOf? (r pc fl : Json) : Option Registers := do
  return { r := ← general? r, pc := ← pc.byte?, fl := ← fl.byte? }

def readRegisters (j : Json) : Reading Registers :=
  require <|
    match j with
    | .array [r, pc, fl] => registersOf? r pc fl
    | .object _ => do registersOf? (← j.field? "r") (← j.field? "pc") (← j.field? "fl")
    | _ => none

def ofMemory (m : Memory) : Json :=
  .ofBytes m.toList

/-- Reads memory: exactly 256 bytes. -/
def readMemory (j : Json) : Reading Memory := do
  let cells ← require j.bytes?
  (Memory.ofList cells).mapError .memorySize

/-! ## The machine -/

def ofMachine (m : Machine) : Json :=
  .object [("regs", ofRegisters m.regs), ("mem", ofMemory m.mem), ("state", .string m.state.name),
    ("cycles", .ofNat m.cycles.toNat), ("last_instr", ofLast m.last)]

def readFields (regs mem state cycles last : Json) : Reading Machine := do
  return {
    regs := ← readRegisters regs
    mem := ← readMemory mem
    state := ← readState state
    cycles := UInt64.ofNat (← require (cycles.natural? UInt64.size))
    last := ← readLast last }

/-- Reads a machine. Only the field of the last instruction may be missing. -/
def readMachine (j : Json) : Reading Machine :=
  match j with
  | .array [regs, mem, state, cycles, last] => readFields regs mem state cycles last
  | .object _ => do
    readFields (← require (j.field? "regs")) (← require (j.field? "mem"))
      (← require (j.field? "state")) (← require (j.field? "cycles"))
      ((j.field? "last_instr").getD .null)
  | _ => .error .malformed

/-- A machine's document on one line. -/
def text (m : Machine) : String :=
  (ofMachine m).render

def prettyText (m : Machine) : String :=
  (ofMachine m).renderPretty

end Ls8.Snapshot
