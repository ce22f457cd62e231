import Ls8.Command.Arguments
import Ls8.Machine.Run
import Ls8.Snapshot
import Ls8.Text.Basic

/-!
# Running a program from the command line

The program's output goes to standard output, a line for each traced instruction to standard error.
A run that ends by an error ends the command with status one; a byte without a rule is reported on
standard output, any other error on standard error.
-/

namespace Ls8

open Numeral (decimal hex)

/-- What a command leaves: its status and what it wrote, log records apart. -/
structure Report where
  status : Nat := 0
  stdout : String := ""
  stderr : String := ""

namespace Report

/-- The report of two pieces of work, one after the other; the second decides the status. -/
def append (first second : Report) : Report where
  status := second.status
  stdout := first.stdout ++ second.stdout
  stderr := first.stderr ++ second.stderr

instance : Append Report := ⟨append⟩

def failure (message : String) : Report :=
  { status := 1, stderr := message ++ "\n" }

def success (text : String) : Report :=
  { stdout := text }

end Report

namespace RunOptions

/-- The greatest number of instructions that a run may have. -/
def bound (options : RunOptions) : UInt64 :=
  options.limit.getD (UInt64.ofNat Machine.maxCycles)

end RunOptions

namespace Machine

/-- The general registers after a traced instruction. -/
def Visit.registersText (v : Visit) : String :=
  "[" ++ ", ".intercalate (v.registers.r.toList.map fun value => hex value.toNat) ++ "]"

def Visit.line (v : Visit) : String :=
  hex v.address.toNat ++ ": " ++ Text.leftAligned 12 v.instruction.text ++ " R=" ++
    v.registersText ++ " SP=" ++ hex v.registers.sp.toNat ++ "\n"

end Machine

namespace Execution

open Machine (Visit)

/-- The run goes on: the machine does, and it has executed fewer instructions than it may. -/
def goesOn (options : RunOptions) (m : Machine) : Bool :=
  m.isRunning && m.cycles < options.bound

/-- At most `n` turns of a run. The instructions executed are put behind `visited` if they are
traced. -/
def turns (options : RunOptions) :
    Nat → Machine → Sink → Array Visit → Outcome Unit × Array Visit
  | 0, m, out, visited => (⟨m, out, .ok ()⟩, visited)
  | n + 1, m, out, visited =>
    if goesOn options m then
      match m.step out with
      | ⟨after, sink, .ok i⟩ =>
        turns options n after sink
          (if options.trace then visited.push ⟨m.regs.pc, i, after.regs⟩ else visited)
      | ⟨after, sink, .error e⟩ => (⟨after, sink, .error e⟩, visited)
    else (⟨m, out, .ok ()⟩, visited)

/-- At most `n` turns of a run, and what they leave on the outputs. -/
def portion (options : RunOptions) (m : Machine) (n : Nat) : Outcome Unit × Report :=
  let (o, visited) := turns options n m .unlimited #[]
  (o, {
    stdout := String.ofList (Utf8.decodeLossy o.sink.taken.toList)
    stderr := String.join (visited.toList.map Visit.line) })

def closing (options : RunOptions) (o : Outcome Unit) : Report :=
  match o.result with
  | .error e =>
    if e.isUnrecognized then { status := 1, stdout := "unrecognized instruction\n" }
    else .failure e.message
  | .ok () => {
      stdout := if options.dumpState then Snapshot.prettyText o.machine ++ "\n" else ""
      stderr :=
        if o.machine.isRunning then
          "Reached max cycles limit (" ++ decimal options.bound.toNat ++ ").\n"
        else "" }

/-- A whole run of a program. It has as many turns as it may have instructions. -/
def report (options : RunOptions) (program : List UInt8) : Report :=
  let (o, body) := portion options (.withProgram program) options.bound.toNat
  body ++ closing options o

/-- The number of turns between two writes. -/
def burst : Nat := 4096

theorem burst_pos : 0 < burst := by decide

/-- A run of at most `left` turns, written in bursts so that what it prints appears meanwhile;
answers the status. -/
def inBursts {μ : Type → Type} [Monad μ] (write : Report → μ Unit) (options : RunOptions)
    (m : Machine) (left : Nat) : μ Nat := do
  let (o, body) := portion options m (min burst left)
  write body
  if burst < left ∧ o.result.isOk ∧ goesOn options o.machine then
    inBursts write options o.machine (left - burst)
  else
    let last := closing options o
    write last
    return last.status
termination_by left
decreasing_by
  have := burst_pos
  omega

end Execution

end Ls8
