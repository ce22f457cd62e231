import Ls8.Proofs.Machine.Trace

/-!
# Runs, step by step

How a run with an allowance begins: a machine that has stopped stays as it is, and a step that
succeeds is followed by a run with one step less. So a run goes along a trace (`runFor_of_trace`),
to the end of its allowance or to the step that fails (`runFor_succ_of_error`), and two runs in a
row are one (`runFor_add`).
-/

namespace Ls8.Machine

variable {m last after : Machine} {i : Instruction} {is : List Instruction}
  {out written sink : Sink} {e : StepError} {n : Nat}

theorem runFor_of_stopped (h : m.state ≠ .running) (n : Nat) :
    runFor n m out = ⟨m, out, .ok ()⟩ := by
  cases n with
  | zero => rfl
  | succ n => rw [runFor, if_neg h]

theorem runFor_succ_of_ok (h : m.step out = ⟨after, sink, .ok i⟩) (n : Nat) :
    runFor (n + 1) m out = runFor n after sink := by
  rw [runFor, if_pos (step_eq_ok_iff.mp h).1, h]

/-- A step that fails ends a run. That a machine has stopped is no failure of the run. -/
theorem runFor_succ_of_error (h : m.step out = ⟨after, sink, .error e⟩) (n : Nat) :
    runFor (n + 1) m out = ⟨after, sink, if m.state = .running then .error e else .ok ()⟩ := by
  by_cases hs : m.state = .running
  · rw [runFor, if_pos hs, if_pos hs, h]
  · rcases step_eq_error_iff.mp h with ⟨_, rfl, rfl, _⟩ | ⟨hs', _⟩
    · rw [runFor, if_neg hs, if_neg hs]
    · exact absurd hs' hs

theorem runFor_of_trace (h : Trace m out is after sink) (n : Nat) :
    runFor (is.length + n) m out = runFor n after sink := by
  induction h with
  | nil m out => rw [List.length_nil, Nat.zero_add]
  | cons hstep _ ih => rw [List.length_cons, Nat.succ_add, runFor_succ_of_ok hstep, ih]

theorem runFor_length (h : Trace m out is after sink) :
    runFor is.length m out = ⟨after, sink, .ok ()⟩ :=
  runFor_of_trace h 0

theorem runFor_of_failure (h : Trace m out is last written)
    (hfails : last.step written = ⟨after, sink, .error e⟩) (hn : is.length < n) :
    runFor n m out = ⟨after, sink, if last.state = .running then .error e else .ok ()⟩ := by
  obtain ⟨k, rfl⟩ : ∃ k, n = is.length + (k + 1) := ⟨n - is.length - 1, by omega⟩
  rw [runFor_of_trace h, runFor_succ_of_error hfails]

theorem StopsAfter.exists_outcome (h : m.StopsAfter out is) :
    ∃ o : Outcome Unit, o.machine.state ≠ .running ∧
      o.machine.cycles = m.cycles + UInt64.ofNat is.length ∧
      ∀ n, is.length < n → runFor n m out = o := by
  obtain ⟨last, written, after, sink, e, htrace, hfails⟩ := h
  obtain ⟨hstate, hcycles⟩ := step_error_stops hfails
  exact ⟨⟨after, sink, if last.state = .running then .error e else .ok ()⟩, hstate,
    hcycles.trans htrace.cycles, fun n hn => runFor_of_failure htrace hfails hn⟩

theorem exists_cycles_runFor (n : Nat) (m : Machine) (out : Sink) :
    ∃ k ≤ n, (runFor n m out).machine.cycles = m.cycles + UInt64.ofNat k := by
  rcases exists_trace n m out with ⟨is, last, written, rfl, htrace⟩ | ⟨is, hlt, hstops⟩
  · refine ⟨is.length, Nat.le_refl _, ?_⟩
    rw [runFor_length htrace]
    exact htrace.cycles
  · obtain ⟨o, _, hcycles, hrun⟩ := hstops.exists_outcome
    refine ⟨is.length, Nat.le_of_lt hlt, ?_⟩
    rw [hrun n hlt]
    exact hcycles

theorem runFor_add (n k : Nat) (m : Machine) (out : Sink) :
    runFor (n + k) m out =
      match runFor n m out with
      | ⟨after, sink, .ok _⟩ => runFor k after sink
      | ⟨after, sink, .error e⟩ => ⟨after, sink, .error e⟩ := by
  induction n generalizing m out with
  | zero => rw [Nat.zero_add, runFor]
  | succ n ih =>
    by_cases hs : m.state = .running
    · rw [Nat.succ_add]
      rcases hstep : m.step out with ⟨after, sink, e | i⟩
      · rw [runFor_succ_of_error hstep, runFor_succ_of_error hstep, if_pos hs]
      · rw [runFor_succ_of_ok hstep, runFor_succ_of_ok hstep, ih]
    · rw [runFor_of_stopped hs, runFor_of_stopped hs]
      exact (runFor_of_stopped hs k).symm

end Ls8.Machine
