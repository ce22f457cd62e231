/-!
# Journal records

What the machine reports about its work besides its results: a level, the part that reports, and a
text.
-/

namespace Ls8.Journal

/-- How important a record is. -/
inductive Level where
  | warn
  | debug
  | trace
deriving DecidableEq

def Level.name : Level → String
  | .warn => "WARN"
  | .debug => "DEBUG"
  | .trace => "TRACE"

/-- A higher rank is less important. -/
def Level.rank : Level → Nat
  | .warn => 0
  | .debug => 1
  | .trace => 2

/-- The parts of the program that report. -/
inductive Topic where
  | memory
  | arithmetic
  | execution
  | image
deriving DecidableEq

def Topic.name : Topic → String
  | .memory => "ls8::cpu::memory"
  | .arithmetic => "ls8::cpu::alu"
  | .execution => "ls8::cpu::execute"
  | .image => "ls8::asm::program"

structure Record where
  level : Level
  topic : Topic
  text : String
deriving DecidableEq

def Record.line (r : Record) : String :=
  r.level.name ++ " " ++ r.topic.name ++ ": " ++ r.text

/-- The records that a reader who asked for `level` sees. -/
def visible (level : Level) (records : List Record) : List Record :=
  records.filter fun r => r.level.rank ≤ level.rank

end Ls8.Journal
