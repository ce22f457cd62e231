import Ls8.Command.Plan
import Ls8.Debugger.Input
import Ls8.Debugger.Terminal
import Ls8.Debugger.View

/-!
# The program

Carries the plan of the command line out on the files and the terminal of the system. Programs run
in bursts, so that what they print appears while they run.
-/

namespace Ls8

/-- The cause of an error that the system reports for a file. Some calls report the number with a
minus sign. -/
def FileError.ofSystem : IO.Error → FileError
  | .noFileOrDirectory .. => .missing
  | .inappropriateType _ code _ =>
    if code = 20 ∨ code = -20 then .notDirectory else .isDirectory
  | .invalidArgument _ code details =>
    if code = 36 ∨ code = -36 then .nameTooLong else .other details
  | e => .other e.toString

def Report.emit (report : Report) : IO Unit := do
  IO.print report.stdout
  (← IO.getStdout).flush
  IO.eprint report.stderr

def readFile (path : String) : IO (Except FileError (List UInt8)) := do
  match ← (IO.FS.readBinFile path).toBaseIO with
  | .ok content => return .ok content.toList
  | .error e => return .error (.ofSystem e)

def createFile (path : String) (content : List UInt8) : IO (Except FileError Unit) := do
  match ← (IO.FS.writeBinFile path (ByteArray.mk content.toArray)).toBaseIO with
  | .ok () => return .ok ()
  | .error e => return .error (.ofSystem e)

/-- The number in a variable of the environment. -/
def sizeFrom (name : String) (otherwise : Nat) : IO Nat := do
  return ((← IO.getEnv name).bind (·.toNat?)).getD otherwise

/-- The most octets that are read from the terminal at once. -/
def portion : USize := 1024

/-- Rounds of the debugger. Octets come from a task, so that a running machine goes on meanwhile;
`held` are those that make up no key yet. -/
partial def debugRounds (octets : Task (Except IO.Error ByteArray)) (held : List UInt8)
    (keys : List Debugger.Key) (d : Debugger) : IO UInt32 := do
  let rows := d.screen (← sizeFrom "COLUMNS" 80) (← sizeFrom "LINES" 24)
  IO.print (Terminal.draw rows)
  (← IO.getStdout).flush
  match keys with
  | key :: rest => if key.quits then return 0 else debugRounds octets held rest (d.round key)
  | [] =>
    if d.running && !(← IO.hasFinished octets) then
      IO.sleep 50
      debugRounds octets held [] d.tick
    else
      let received ← IO.ofExcept octets.get
      if received.isEmpty then return 0
      let (keys, held) := Input.keys held received.toList
      debugRounds (← IO.asTask ((← IO.getStdin).read portion)) held keys d

/-- Puts a program under the debugger; answers the status. -/
def debugOnTerminal (program : List UInt8) : IO UInt32 := do
  let input ← IO.getStdin
  if ← input.isTty then debugRounds (← IO.asTask (input.read portion)) [] [] (.start program)
  else
    IO.eprint (Report.failure "Debugger error: not a terminal").stderr
    return 1

/-- Carries a plan out; answers the status. -/
def Plan.carryOut : Plan → IO UInt32
  | .done report => do
    report.emit
    return report.status.toUInt32
  | .execute program options => do
    let status ← Execution.inBursts Report.emit options (.withProgram program) options.bound.toNat
    return status.toUInt32
  | .debug program => debugOnTerminal program
  | .read path next => do (next (← readFile path)).carryOut
  | .create path content next => do (next (← createFile path content)).carryOut

end Ls8

def main (arguments : List String) : IO UInt32 :=
  (Ls8.Plan.ofArguments arguments).carryOut
