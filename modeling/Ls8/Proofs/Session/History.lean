import Mathlib.Data.List.Induction
import Ls8.Proofs.Machine.Run
import Ls8.Proofs.Session

/-!
# What a session depends on

However a session came about, it follows the program that was loaded last: each `Operation` starts a
program from its beginning, goes on with the one there is, or changes nothing (`Follows.operate`).
So of all that was done to a session, the last load that succeeded and the count of instructions
say what it is now (`session_determined`).
-/

namespace Ls8.Session

open Machine (Trace)

inductive Operation where
  | loadText (source : String)
  | loadAssembly (source : String)
  | step
  | run (max : Nat)
  | reset
  | read
deriving DecidableEq

def operate (s : Session) : Operation → Session
  | .loadText source => (loadText source).2
  | .loadAssembly source => (s.loadAssembly source).2
  | .step => s.step.2
  | .run max => (s.run max).2
  | .reset => s.reset
  | .read => s

/-- The program that an operation loads, if it is a load and succeeds. -/
def Operation.loaded? : Operation → Option (List UInt8)
  | .loadText source => some (Image.ofText source).bytes
  | .loadAssembly source => (assemble source).toOption
  | _ => none

/-- No step is asked for when the count of instructions is at its greatest value. A run stops there
by itself, so this is all that it takes for the count not to wrap around. -/
def KeepsCount (operations : List Operation) : Prop :=
  ∀ k, operations[k]? = some .step →
    ((operations.take k).foldl operate new).machine.cycles.toNat < Machine.maxCycles

variable {s : Session} {is : List Instruction}

/-! ## Loads -/

theorem loadAssembly_of_error {source : String} {e : Assembly.Error}
    (h : (s.loadAssembly source).1 = .error e) : (s.loadAssembly source).2 = s := by
  unfold loadAssembly at h ⊢
  split at h
  · cases h
  · rfl

theorem program_operate (s : Session) (op : Operation) :
    (s.operate op).program = op.loaded?.getD s.program := by
  cases op with
  | loadAssembly source =>
    rw [operate, loadAssembly, Operation.loaded?]
    cases assemble source with
    | ok program => rfl
    | error e => rfl
  | loadText | step | run | reset | read => rfl

theorem program_foldl_operate (operations : List Operation) (s : Session) :
    (operations.foldl operate s).program =
      (operations.filterMap Operation.loaded?).getLast?.getD s.program := by
  induction operations generalizing s with
  | nil => rfl
  | cons op operations ih =>
    rw [List.foldl_cons, ih, program_operate]
    cases h : op.loaded? with
    | none => rw [List.filterMap_cons_none h, Option.getD_none]
    | some program =>
      rw [List.filterMap_cons_some h, List.getLast?_cons, Option.getD_some, Option.getD_some]

/-! ## Runs -/

theorem run_snd (s : Session) (max : Nat) :
    (s.run max).2 = s.after (Machine.runFor (s.machine.allowance max) s.machine s.sink) := rfl

theorem Follows.after_runFor (n : Nat) (h : s.Follows is) :
    ∃ js, js.length ≤ is.length + n ∧ (s.after (Machine.runFor n s.machine s.sink)).Follows js := by
  induction n generalizing s is with
  | zero => exact ⟨is, Nat.le_refl _, h⟩
  | succ n ih =>
    by_cases hs : s.machine.state = .running
    · obtain ⟨js, hjs, hstepped⟩ := h.step
      rcases hstep : s.machine.step s.sink with ⟨after, sink, e | i⟩
      · rw [step_snd hstep] at hstepped
        rw [Machine.runFor_succ_of_error hstep]
        exact ⟨js, by omega, hstepped⟩
      · rw [step_snd hstep] at hstepped
        rw [Machine.runFor_succ_of_ok hstep]
        obtain ⟨_, _, _, hsink, _⟩ := Machine.step_eq_ok_iff.mp hstep
        have hsame : (s.after ⟨after, sink, .ok i⟩).sink = sink := sink_after hsink
        obtain ⟨ks, hks, hrest⟩ := ih (s := s.after ⟨after, sink, .ok i⟩) hstepped
        rw [hsame] at hrest
        exact ⟨ks, by omega, hrest⟩
    · rw [Machine.runFor_of_stopped hs]
      exact ⟨is, Nat.le_add_right _ _, h⟩

theorem Follows.run (max : Nat) (h : s.Follows is) :
    ∃ js, (s.run max).2.Follows js ∧ (is.length < UInt64.size → js.length < UInt64.size) := by
  obtain ⟨js, hjs, hfollows⟩ := h.after_runFor (s.machine.allowance max)
  refine ⟨js, run_snd s max ▸ hfollows, fun hfits => ?_⟩
  have hallowed : s.machine.allowance max ≤ Machine.maxCycles - s.machine.cycles.toNat :=
    Nat.min_le_right _ _
  have hmax : Machine.maxCycles = UInt64.size - 1 := rfl
  rw [h.toNat_cycles hfits] at hallowed
  omega

/-! ## Failures -/

theorem output_of_step_error {e : StepError} (h : s.step.1 = .error e) :
    s.step.2.output = s.output := by
  rcases hstep : s.machine.step s.sink with ⟨after, sink, e' | i⟩
  · obtain ⟨rfl, _⟩ := Machine.step_error_of_room_none hstep rfl
    rw [step_snd hstep]
    rfl
  · rw [Session.step, hstep] at h
    cases h

theorem exists_failure_of_run {max : Nat} {e : StepError} (h : (s.run max).1 = .error e) :
    let after := (s.run max).2
    ∃ is last, Trace s.machine s.sink is last after.sink ∧
      after.output.toList = s.output.toList ++ s.machine.output is ∧
      last.step after.sink = ⟨after.machine, after.sink, .error e⟩ := by
  rcases Machine.exists_trace (s.machine.allowance max) s.machine s.sink with
    ⟨is, last, written, hlength, htrace⟩ | ⟨is, hlt, last, written, after, sink, e', htrace, hfails⟩
  · rw [Session.run, Machine.runLimited, ← hlength, Machine.runFor_length htrace] at h
    cases h
  · have hrun := Machine.runFor_of_failure htrace hfails hlt
    obtain ⟨_, _, rfl⟩ := Machine.trace_iff.mp htrace
    obtain ⟨rfl, _⟩ := Machine.step_error_of_room_none hfails (Sink.accept_room_none rfl _)
    rw [Session.run, Machine.runLimited, hrun] at h
    -- the run does not take the failure for its own if the machine had halted
    split at h
    · cases h
      have htaken : (s.run max).2.output = s.output ++ s.machine.output is := by
        rw [run_snd, hrun, Session.after, Sink.accept_of_room_none rfl]
        rfl
      have hsame : (s.run max).2.sink = s.sink.accept (s.machine.output is) := by
        rw [run_snd, hrun, sink_after (by rfl)]
      simp only [htaken, hsame]
      rw [run_snd, hrun]
      exact ⟨is, last, htrace, by simp, hfails⟩
    · cases h

/-! ## Any operations -/

/-- Only a step can bring the count of instructions beyond its greatest value. -/
theorem Follows.operate (h : s.Follows is) (op : Operation) :
    ∃ js, (s.operate op).Follows js ∧
      (is.length < UInt64.size → (op = .step → s.machine.cycles.toNat < Machine.maxCycles) →
        js.length < UInt64.size) := by
  cases op with
  | loadText source => exact ⟨[], follows_start _, fun _ _ => by decide⟩
  | loadAssembly source =>
    rw [Session.operate, loadAssembly]
    cases assemble source with
    | ok program => exact ⟨[], follows_start program, fun _ _ => by decide⟩
    | error e => exact ⟨is, h, fun hfits _ => hfits⟩
  | step =>
    obtain ⟨js, hjs, hfollows⟩ := h.step
    refine ⟨js, hfollows, fun hfits hcount => ?_⟩
    have hless := hcount rfl
    rw [h.toNat_cycles hfits, Machine.maxCycles] at hless
    omega
  | run max =>
    obtain ⟨js, hfollows, hbound⟩ := h.run max
    exact ⟨js, hfollows, fun hfits _ => hbound hfits⟩
  | reset => exact ⟨[], follows_start _, fun _ _ => by decide⟩
  | read => exact ⟨is, h, fun hfits _ => hfits⟩

theorem keepsCount_concat {operations : List Operation} {op : Operation}
    (h : KeepsCount (operations ++ [op])) :
    KeepsCount operations ∧
      (op = .step → (operations.foldl operate new).machine.cycles.toNat < Machine.maxCycles) := by
  constructor
  · intro k hk
    obtain ⟨hlt, _⟩ := List.getElem?_eq_some_iff.mp hk
    have hbefore := h k (by rw [List.getElem?_append_left hlt, hk])
    rwa [List.take_append_of_le_length (Nat.le_of_lt hlt)] at hbefore
  · rintro rfl
    have hlast := h operations.length (by rw [List.getElem?_concat_length])
    rwa [List.take_left] at hlast

theorem follows_foldl_operate (operations : List Operation) :
    ∃ is, (operations.foldl operate new).Follows is ∧
      (KeepsCount operations → is.length < UInt64.size) := by
  -- on the list from its end, where the last operation finds the session that the others left
  induction operations using List.reverseRecOn with
  | nil => exact ⟨[], follows_start [], fun _ => by decide⟩
  | append_singleton operations op ih =>
    obtain ⟨is, hfollows, hfits⟩ := ih
    obtain ⟨js, hafter, hbound⟩ := hfollows.operate op
    rw [List.foldl_append, List.foldl_cons, List.foldl_nil]
    refine ⟨js, hafter, fun hcount => ?_⟩
    obtain ⟨hbefore, hstep⟩ := keepsCount_concat hcount
    exact hbound (hfits hbefore) hstep

/-- **A session depends on its program and its count.** After any operations on a new session the
program is the one that the last successful load brought, or none. Machine and output are those of
the program after as many instructions as the machine has counted; and after one more step, which
failed, exactly if the machine is in the error state. (The count is the number of these instructions
up to a multiple of its range, and is exact if no step made it wrap around.)

A load that fails changes nothing. A step that fails leaves the output as it was; a run that fails
adds to it what the instructions before the failure print. -/
theorem session_determined (operations : List Operation) :
    let s := operations.foldl operate new
    s.program = (operations.filterMap Operation.loaded?).getLast?.getD [] ∧
    (∃ is last, Trace (.withProgram s.program) .unlimited is last s.sink ∧
      s.machine.cycles = UInt64.ofNat is.length ∧
      (KeepsCount operations → s.machine.cycles.toNat = is.length) ∧
      (s.machine.state ≠ .error ∧ s.machine = last ∨
        s.machine.state = .error ∧ ∃ e, last.step s.sink = ⟨s.machine, s.sink, .error e⟩)) ∧
    ∀ before : Session,
      (∀ source e, (before.loadAssembly source).1 = .error e →
        (before.loadAssembly source).2 = before) ∧
      (∀ e, before.step.1 = .error e → before.step.2.output = before.output) ∧
      ∀ max e, (before.run max).1 = .error e →
        let after := (before.run max).2
        ∃ is last, Trace before.machine before.sink is last after.sink ∧
          after.output.toList = before.output.toList ++ before.machine.output is ∧
          last.step after.sink = ⟨after.machine, after.sink, .error e⟩ := by
  intro s
  obtain ⟨is, hfollows, hbound⟩ := follows_foldl_operate operations
  have hcycles := hfollows.cycles
  have hcount (hkeeps : KeepsCount operations) := hfollows.toNat_cycles (hbound hkeeps)
  obtain ⟨last, htrace, hend⟩ := hfollows
  exact ⟨program_foldl_operate operations new, ⟨is, last, htrace, hcycles, hcount, hend⟩,
    fun before => ⟨fun source e => loadAssembly_of_error, fun e => output_of_step_error,
      fun max e => exists_failure_of_run⟩⟩

/-- A program that is loaded, stepped, started again and run to a byte without a name, with a load
of a word that is no instruction in between. -/
theorem session_determined_after_failed_load :
    let source := "10000010\n00000000\n00001000\n01000111\n00000000\n11111111"
    let operations : List Operation :=
      [.run 3, .loadText source, .step, .loadAssembly "NOP", .reset, .step, .run 9, .step, .read]
    let s := operations.foldl operate new
    KeepsCount operations ∧ s.program = [0x82, 0, 8, 0x47, 0, 0xFF] ∧ s.machine.state = .error ∧
      s.output.toList = [0x38, 0x0A] ∧
      ∃ is last, Trace (.withProgram s.program) .unlimited is last s.sink ∧ is.length = 2 := by
  intro source operations s
  have hkeeps : KeepsCount operations := by
    have hsteps : ∀ k < 9, operations[k]? = some .step →
        ((operations.take k).foldl operate new).machine.cycles.toNat < Machine.maxCycles := by
      decide +kernel
    intro k hk
    exact hsteps k (List.getElem?_eq_some_iff.mp hk).1 hk
  obtain ⟨hprogram, ⟨is, last, htrace, _, hcount, _⟩, _⟩ := session_determined operations
  have htwo : s.machine.cycles.toNat = 2 := by decide +kernel
  have hloaded : s.program = [0x82, 0, 8, 0x47, 0, 0xFF] := hprogram.trans (by decide +kernel)
  exact ⟨hkeeps, hloaded, by decide +kernel, by decide +kernel, is, last, htrace,
    (hcount hkeeps).symm.trans htwo⟩

end Ls8.Session
