import Ls8.Machine.Step

/-!
# Runs

Steps until the machine stops, a step fails or an allowance is used up.
-/

namespace Ls8

/-- The greatest count of executed instructions. -/
def Machine.maxCycles : Nat := UInt64.size - 1

namespace Machine

/-- At most `n` steps, as long as the machine goes on. -/
def runFor : Nat → Machine → Sink → Outcome Unit
  | 0, m, out => ⟨m, out, .ok ()⟩
  | n + 1, m, out =>
    if m.state = .running then
      match m.step out with
      | ⟨after, sink, .ok _⟩ => runFor n after sink
      | ⟨after, sink, .error e⟩ => ⟨after, sink, .error e⟩
    else ⟨m, out, .ok ()⟩

/-- The outcome of a run with the number of instructions executed since `start`. -/
def counted (start : Machine) (o : Outcome Unit) : Outcome UInt64 :=
  ⟨o.machine, o.sink, o.result.map fun _ => o.machine.cycles - start.cycles⟩

/-- The steps that an allowance comes to: the count of instructions does not go beyond its
greatest value. -/
def allowance (m : Machine) (max : Nat) : Nat :=
  min max (maxCycles - m.cycles.toNat)

/-- At most `max` instructions; answers how many were executed. -/
def runLimited (m : Machine) (out : Sink) (max : Nat) : Outcome UInt64 :=
  m.counted (runFor (m.allowance max) m out)

/-- Steps until the machine stops or a step fails. The count of instructions bounds the steps that
succeed, and one more may fail. -/
def run (m : Machine) (out : Sink) : Outcome UInt64 :=
  m.counted (runFor (maxCycles - m.cycles.toNat + 1) m out)

/-- An executed instruction: where it was, and the registers afterwards. -/
structure Visit where
  address : UInt8
  instruction : Instruction
  registers : Registers

/-- Up to `n` steps, until one fails, and the instructions executed, in order, after `visits`. -/
def traceFor : Nat → Machine → Sink → Array Visit → Outcome Unit × Array Visit
  | 0, m, out, visits => (⟨m, out, .ok ()⟩, visits)
  | n + 1, m, out, visits =>
    match m.step out with
    | ⟨after, sink, .ok i⟩ => traceFor n after sink (visits.push ⟨m.regs.pc, i, after.regs⟩)
    | ⟨after, sink, .error e⟩ => (⟨after, sink, .error e⟩, visits)

/-- The records of the steps that `runFor n` makes, after `records`. -/
def runRecords : Nat → Machine → Sink → Array Journal.Record → Array Journal.Record
  | 0, _, _, records => records
  | n + 1, m, out, records =>
    if m.state = .running then
      match m.step out with
      | ⟨after, sink, .ok _⟩ => runRecords n after sink (records ++ m.stepRecords)
      | ⟨_, _, .error _⟩ => records ++ m.stepRecords
    else records

/-- The records of the steps that `traceFor n` makes, after `records`. -/
def traceRecords : Nat → Machine → Sink → Array Journal.Record → Array Journal.Record
  | 0, _, _, records => records
  | n + 1, m, out, records =>
    match m.step out with
    | ⟨after, sink, .ok _⟩ => traceRecords n after sink (records ++ m.stepRecords)
    | ⟨_, _, .error _⟩ => records ++ m.stepRecords

end Machine

end Ls8
