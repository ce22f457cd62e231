import Ls8.Proofs.Machine.Attempts
import Ls8.Proofs.Text.Lines
import Ls8.Proofs.Text.Numeral
import Ls8.Proofs.Text.Utf8

/-!
# What a run prints

Before a sink that is never full, a step prints the line of the value that its `PRN` shows
(`sink_of_step`), and a run prints the lines of these values (`sink_runFor`). Cut into lines the text
gives back the numbers (`lines_numberLines`).
-/

namespace Ls8

namespace Machine

/-- The value that an attempt prints: that of the register, if it executes a `PRN`. -/
def Attempt.value? (a : Attempt) : Option UInt8 :=
  match a.outcome.result with
  | .ok (.prn reg) => some (a.machine.regs.value reg)
  | _ => none

/-- The values that attempts print, in order. -/
def printedValues (as : List Attempt) : List UInt8 :=
  as.filterMap Attempt.value?

variable {m after : Machine} {i : Instruction} {out sink : Sink} {e : StepError}

theorem printedValues_append (as bs : List Attempt) :
    printedValues (as ++ bs) = printedValues as ++ printedValues bs :=
  List.filterMap_append

theorem printedValues_cons (a : Attempt) (as : List Attempt) :
    printedValues (a :: as) = printedValues [a] ++ printedValues as :=
  printedValues_append [a] as

theorem printedValues_of_error (h : m.step out = ⟨after, sink, .error e⟩) :
    printedValues [⟨m, out⟩] = [] := by
  simp [printedValues, Attempt.value?, Attempt.outcome, h]

theorem printed_eq (h : m.step out = ⟨after, sink, .ok i⟩) :
    m.printed i = (printedValues [⟨m, out⟩]).flatMap numberLine := by
  obtain ⟨_, hf, _⟩ := step_eq_ok_iff.mp h
  cases i with
  | prn reg =>
    rw [printed_prn hf, ← numberLine_eq]
    simp [printedValues, Attempt.value?, Attempt.outcome, h]
  | hlt | ldi | mul | add | pop | push | call | ret =>
    simp [printed, printedValues, Attempt.value?, Attempt.outcome, h]

theorem sink_of_step (hout : out.room = none) {result : Except StepError Instruction}
    (h : m.step out = ⟨after, sink, result⟩) :
    sink = out.accept ((printedValues [⟨m, out⟩]).flatMap numberLine) := by
  cases result with
  | error e =>
    obtain ⟨rfl, _⟩ := step_error_of_room_none h hout
    rw [printedValues_of_error h, List.flatMap_nil, Sink.accept_nil]
  | ok i =>
    obtain ⟨_, _, _, hsink, _⟩ := step_eq_ok_iff.mp h
    rw [hsink, printed_eq h]

theorem sink_runFor (hout : out.room = none) (n : Nat) (m : Machine) :
    (runFor n m out).sink = out.accept ((printedValues (attempts n m out)).flatMap numberLine) := by
  induction n generalizing m out with
  | zero => exact Sink.accept_nil.symm
  | succ n ih =>
    by_cases hs : m.state = .running
    · rcases hstep : m.step out with ⟨after, sink, e | i⟩
      · rw [runFor_succ_of_error hstep, attempts_succ_of_error hs hstep]
        exact sink_of_step hout hstep
      · have hsink := sink_of_step hout hstep
        have hroom : sink.room = none := by rw [hsink, Sink.accept_room_none hout]
        rw [runFor_succ_of_ok hstep, attempts_succ_of_ok hstep, ih hroom, printedValues_cons,
          List.flatMap_append, Sink.accept_append, ← hsink]
    · rw [runFor_of_stopped hs, attempts_of_stopped hs]
      exact Sink.accept_nil.symm

theorem toList_taken_runFor (hout : out.room = none) (n : Nat) (m : Machine) :
    (runFor n m out).sink.taken.toList =
      out.taken.toList ++ (printedValues (attempts n m out)).flatMap numberLine := by
  rw [sink_runFor hout, Sink.toList_taken_of_hasRoom (Sink.hasRoom_of_room_none hout _)]

end Machine

/-! ## Reading the lines -/

theorem Text.lines_numberLines (values : List UInt8) :
    lines (Utf8.decodeLossy (values.flatMap Machine.numberLine)) =
      values.map fun value => (Numeral.decimal value.toNat).toList := by
  have htext : values.flatMap Machine.numberLine =
      Utf8.encode ((values.map fun value => (Numeral.decimal value.toNat).toList).flatMap
        (· ++ ['\n'])) := by
    rw [Utf8.encode, List.flatMap_assoc, List.flatMap_map]
    rfl
  rw [htext, Utf8.decodeLossy_encode]
  apply lines_flatMap
  · intro s hs
    obtain ⟨value, _, rfl⟩ := List.mem_map.mp hs
    exact Numeral.not_mem_decimal (by decide)
  · intro s hs hlast
    obtain ⟨value, _, rfl⟩ := List.mem_map.mp hs
    exact Numeral.not_mem_decimal (by decide) (List.mem_of_getLast? hlast)

end Ls8
