import Ls8.Proofs.Machine.Run
import Ls8.Proofs.Snapshot.Reading

/-!
# Machines restored from snapshots

The document of a machine describes it and no other, so reading it gives the machine back, the last
instruction included (`snapshot_faithful`). It makes no difference how often a run stops for a snapshot
and goes on with what is read from it (`runRestored_eq`).
-/

namespace Ls8.Snapshot

open Json (holdsBytes_iff_eq_ofBytes holdsNumber_iff_eq_ofByte)

/-! ## The document of a machine -/

theorem describesInstruction_ofInstruction (i : Instruction) :
    DescribesInstruction (ofInstruction i) i := by
  cases i with
  | hlt | ret => exact .inl rfl
  | ldi | prn | mul | add | pop | push | call =>
    simp [DescribesInstruction, namedOperands, instructionName, ofInstruction, Json.field?,
      List.lookup_cons, holdsNumber_iff_eq_ofByte]

theorem describesLast_ofLast (last : Option Instruction) : DescribesLast (ofLast last) last := by
  cases last with
  | none => rfl
  | some i => exact describesInstruction_ofInstruction i

theorem describesRegisters_ofRegisters (regs : Registers) :
    DescribesRegisters (ofRegisters regs) regs :=
  ⟨_, _, _, .inr rfl, holdsBytes_iff_eq_ofBytes.mpr rfl, holdsNumber_iff_eq_ofByte.mpr rfl,
    holdsNumber_iff_eq_ofByte.mpr rfl⟩

theorem describes_ofMachine (m : Machine) : Describes (ofMachine m) m :=
  ⟨_, _, _, _, _, .inl (.inr rfl), describesRegisters_ofRegisters m.regs,
    holdsBytes_iff_eq_ofBytes.mpr rfl, .inl rfl, ⟨m.cycles.toNat_lt, rfl⟩,
    describesLast_ofLast m.last⟩

theorem readMachine_ofMachine (m : Machine) : readMachine (ofMachine m) = .ok m :=
  readMachine_eq_ok_iff.mpr (describes_ofMachine m)

/-! ## Interrupted runs -/

/-- A run in portions of so many steps. After each of them a snapshot is taken, and the run goes on
with the machine that is read from it. -/
def runRestored : List Nat → Machine → Sink → Reading (Outcome Unit)
  | [], m, out => .ok ⟨m, out, .ok ()⟩
  | n :: ns, m, out =>
    match m.runFor n out with
    | ⟨after, sink, .ok _⟩ => do runRestored ns (← readMachine (ofMachine after)) sink
    | o => .ok o

theorem runRestored_eq (ns : List Nat) (m : Machine) (out : Sink) :
    runRestored ns m out = .ok (m.runFor (ns.foldr (· + ·) 0) out) := by
  induction ns generalizing m out with
  | nil => rfl
  | cons n ns ih =>
    rw [List.foldr_cons, Machine.runFor_add, runRestored]
    rcases m.runFor n out with ⟨after, sink, e | u⟩
    · rfl
    · simp only [readMachine_ofMachine]
      exact ih after sink

/-- **Snapshots are faithful and checked.** Reading the document of a machine gives the machine back, so
a run that is interrupted for snapshots any number of times, and goes on with what is read from them,
is the run without them. And a document is read as a machine exactly if it describes the machine: it
holds eight general registers and 256 cells, each an integer from 0 to 255, and a count below 2 to the
64. Any other document is refused. -/
theorem snapshot_faithful (m : Machine) :
    readMachine (ofMachine m) = .ok m ∧
      (∀ ns out, runRestored ns m out = .ok (m.runFor (ns.foldr (· + ·) 0) out)) ∧
      ∀ j, readMachine j = .ok m ↔ Describes j m :=
  ⟨readMachine_ofMachine m, fun ns out => runRestored_eq ns m out, fun _ => readMachine_eq_ok_iff⟩

end Ls8.Snapshot
