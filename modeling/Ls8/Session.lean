import Ls8.Assembly.Program
import Ls8.Image
import Ls8.Machine.Run
import Ls8.Snapshot

/-!
# Sessions

A machine together with the program it was started from and all that it has printed. Loading and
resetting start the program afresh. A source that does not assemble changes nothing.
-/

namespace Ls8

/-- A machine at work on a program. -/
structure Session where
  program : List UInt8
  machine : Machine
  output : Array UInt8

namespace Session

def new : Session :=
  ⟨[], .initial, #[]⟩

def start (program : List UInt8) : Session :=
  ⟨program, .withProgram program, #[]⟩

/-- The session after the machine worked on its output. -/
def after {α : Type} (s : Session) (o : Outcome α) : Session :=
  { s with machine := o.machine, output := o.sink.taken }

/-- A sink that never refuses, with the output so far. -/
def sink (s : Session) : Sink :=
  { Sink.unlimited with taken := s.output }

/-- Starts the program of an image text; answers its size. -/
def loadText (source : String) : Nat × Session :=
  let program := (Image.ofText source).bytes
  (program.length, start program)

/-- Starts the program of an assembly text, if there is one; answers its size. -/
def loadAssembly (s : Session) (source : String) : Except Assembly.Error Nat × Session :=
  match assemble source with
  | .ok program => (.ok program.length, start program)
  | .error e => (.error e, s)

def step (s : Session) : Except StepError Instruction × Session :=
  let o := s.machine.step s.sink
  (o.result, s.after o)

/-- Executes at most `max` instructions; answers the count of all instructions so far. -/
def run (s : Session) (max : Nat) : Except StepError UInt64 × Session :=
  let o := s.machine.runLimited s.sink max
  (o.result.map fun _ => o.machine.cycles, s.after o)

/-- Starts the program again. -/
def reset (s : Session) : Session :=
  start s.program

/-! ## Reading -/

/-- A general register; zero if there is none of that number. -/
def register (s : Session) (index : Nat) : UInt8 :=
  s.machine.regs.r[index]?.getD 0

/-- A cell of memory; zero outside memory. -/
def memoryAt (s : Session) (index : Nat) : UInt8 :=
  if index < 256 then s.machine.mem.read (UInt8.ofNat index) else 0

def outputText (s : Session) : String :=
  String.ofList (Utf8.decodeLossy s.output.toList)

def outputLines (s : Session) : List String :=
  (Text.lines (Utf8.decodeLossy s.output.toList)).map String.ofList

/-- The machine as a document. -/
def snapshot (s : Session) : String :=
  Snapshot.text s.machine

def runRecords (s : Session) (max : Nat) : List Journal.Record :=
  (Machine.runRecords (s.machine.allowance max) s.machine s.sink #[]).toList

end Session

end Ls8
