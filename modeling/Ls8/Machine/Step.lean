import Ls8.Machine.Basic
import Ls8.Sink
import Ls8.Text.Utf8

/-!
# One instruction

A step fetches three bytes at the counter, decodes them, and either changes the machine as the
instruction says or leaves registers and memory alone and stops in the error state. Printing is
the one thing that can fail after decoding, so it is kept apart: `execute` says how the machine
changes, `printed` what goes to the sink.
-/

namespace Ls8

open Numeral (decimal hex)

/-- Why a step failed. -/
inductive StepError where
  | notRunning (state : RunState)
  /-- There is no instruction at the counter. -/
  | decode (address : UInt8) (cause : DecodeError)
  /-- The sink did not take what was printed. -/
  | output (cause : Refusal)
  /-- An operand names no register. No decoded instruction has such an operand. -/
  | missingRegister
deriving DecidableEq

namespace StepError

def message : StepError → String
  | notRunning state => "CPU not running: " ++ state.name
  | decode address cause => "at PC=0x" ++ hex address.toNat ++ ": " ++ cause.message
  | output cause => "output error: " ++ cause.message
  | missingRegister => "no such register"

/-- The machine met a byte that it has no rule for. -/
def isUnrecognized : StepError → Bool
  | decode _ cause => cause.isUnrecognized
  | _ => false

end StepError

/-- The machine and the sink after some work, and its result. -/
structure Outcome (α : Type) where
  machine : Machine
  sink : Sink
  result : Except StepError α

namespace Machine

def opcodeByte (m : Machine) : UInt8 :=
  m.mem.read m.regs.pc

/-- The instruction at the counter. -/
def fetch (m : Machine) : Except DecodeError Instruction :=
  Instruction.decode m.opcodeByte (m.mem.readOffset m.regs.pc 1) (m.mem.readOffset m.regs.pc 2)

/-- The machine after what an instruction does besides moving the counter on; none if an operand
names no register. A call reads its register after the push, so through the stack pointer it goes
to the new top. -/
def apply (m : Machine) : Instruction → Option Machine
  | .hlt => some { m with state := .halted }
  | .ldi reg value => m.setRegister? reg value
  | .prn reg => (m.regs.get? reg).map fun _ => m
  | .mul a b => m.compute? .mul a b
  | .add a b => m.compute? .add a b
  | .pop reg => m.drop.setRegister? reg m.top
  | .push reg => (m.regs.get? reg).map m.push
  | .call reg =>
    let pushed := m.push (m.regs.pc + 2)
    (pushed.regs.get? reg).map pushed.jump
  | .ret => some (m.drop.jump m.top)

/-- The machine with the counter behind the instruction `i` of `length` bytes, unless `i` has set
the counter. -/
def proceed (m : Machine) (i : Instruction) (length : UInt8) : Machine :=
  if i.setsCounter then m else { m with regs := m.regs.advance length }

def count (m : Machine) (i : Instruction) : Machine :=
  { m with cycles := m.cycles + 1, last := some i }

/-- The machine after an instruction. Its length is that of the byte at the counter before. -/
def execute (m : Machine) (i : Instruction) : Option Machine :=
  (m.apply i).map fun after => (after.proceed i (instructionLength m.opcodeByte)).count i

/-- A line with a byte in decimal. -/
def numberLine (value : UInt8) : List UInt8 :=
  Utf8.encode ((decimal value.toNat).toList ++ ['\n'])

/-- What an instruction prints. -/
def printed (m : Machine) : Instruction → List UInt8
  | .prn reg => (m.regs.get? reg).elim [] numberLine
  | _ => []

/-- The machine stopped by an error. -/
def fail (m : Machine) : Machine :=
  { m with state := .error }

/-- Executes the instruction at the counter. -/
def step (m : Machine) (out : Sink) : Outcome Instruction :=
  if m.state ≠ .running then ⟨m, out, .error (.notRunning m.state)⟩
  else
    match m.fetch with
    | .error cause => ⟨m.fail, out, .error (.decode m.regs.pc cause)⟩
    | .ok i =>
      match m.execute i with
      | none => ⟨m.fail, out, .error .missingRegister⟩
      | some after =>
        match out.write (m.printed i) with
        | (sink, some refusal) => ⟨m.fail, sink, .error (.output refusal)⟩
        | (sink, none) => ⟨after, sink, .ok i⟩

/-- What a step reports: the instruction it found, before executing it. -/
def stepRecords (m : Machine) : List Journal.Record :=
  if m.state ≠ .running then []
  else
    match m.fetch with
    | .error _ => []
    | .ok i => [⟨.trace, .execution, hex m.regs.pc.toNat ++ ": " ++ i.describe⟩]

end Machine

end Ls8
