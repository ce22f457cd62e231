import Ls8.Proofs.Machine.Run

/-!
# Steps that are tried

A step is an `Attempt` whatever comes of it: it succeeds, fails, or finds that the machine has
stopped. `Linked` strings attempts together, each of them on the machine that the one before has
left. A run is such a row of attempts (`linked_attempts`), so what every attempt keeps up, a run
keeps up.
-/

namespace Ls8.Machine

/-- A machine that is to take a step, and the sink to print to. -/
structure Attempt where
  machine : Machine
  sink : Sink

def Attempt.outcome (a : Attempt) : Outcome Instruction :=
  a.machine.step a.sink

/-- An instruction is executed. -/
def Attempt.Succeeds (a : Attempt) : Prop :=
  ∃ i, a.outcome.result = .ok i

/-- Attempts, one after the other, take one machine to another. The sinks may be different ones. -/
inductive Linked : Machine → List Attempt → Machine → Prop
  | nil (m : Machine) : Linked m [] m
  | cons (a : Attempt) {as : List Attempt} {after : Machine} :
      Linked a.outcome.machine as after → Linked a.machine (a :: as) after

/-- The steps that `runFor n` tries. -/
def attempts : Nat → Machine → Sink → List Attempt
  | 0, _, _ => []
  | n + 1, m, out =>
    if m.state = .running then
      ⟨m, out⟩ ::
        match m.step out with
        | ⟨after, sink, .ok _⟩ => attempts n after sink
        | ⟨_, _, .error _⟩ => []
    else []

variable {m middle after : Machine} {i : Instruction} {as bs : List Attempt} {out sink : Sink}
  {e : StepError}

theorem linked_singleton (m : Machine) (out : Sink) :
    Linked m [⟨m, out⟩] (m.step out).machine :=
  .cons ⟨m, out⟩ (.nil _)

theorem Linked.append (h : Linked m as middle) (hs : Linked middle bs after) :
    Linked m (as ++ bs) after := by
  induction h with
  | nil m => exact hs
  | cons a _ ih => exact .cons a (ih hs)

theorem attempts_of_stopped (h : m.state ≠ .running) (n : Nat) : attempts n m out = [] := by
  cases n with
  | zero => rfl
  | succ n => rw [attempts, if_neg h]

theorem attempts_succ_of_ok (h : m.step out = ⟨after, sink, .ok i⟩) (n : Nat) :
    attempts (n + 1) m out = ⟨m, out⟩ :: attempts n after sink := by
  rw [attempts, if_pos (step_eq_ok_iff.mp h).1, h]

theorem attempts_succ_of_error (hs : m.state = .running)
    (h : m.step out = ⟨after, sink, .error e⟩) (n : Nat) :
    attempts (n + 1) m out = [⟨m, out⟩] := by
  rw [attempts, if_pos hs, h]

theorem Attempt.succeeds_of_running {a : Attempt} (h : a.outcome.machine.state = .running) :
    a.Succeeds := by
  rcases hstep : a.outcome with ⟨after, sink, e | i⟩
  · rw [hstep] at h
    exact absurd h (step_error_stops hstep).1
  · exact ⟨i, by rw [hstep]⟩

theorem linked_attempts (n : Nat) (m : Machine) (out : Sink) :
    Linked m (attempts n m out) (runFor n m out).machine := by
  induction n generalizing m out with
  | zero => exact .nil m
  | succ n ih =>
    by_cases hs : m.state = .running
    · have hfirst := linked_singleton m out
      rcases hstep : m.step out with ⟨after, sink, e | i⟩
      · rw [attempts_succ_of_error hs hstep, runFor_succ_of_error hstep]
        rwa [hstep] at hfirst
      · rw [attempts_succ_of_ok hstep, runFor_succ_of_ok hstep]
        rw [hstep] at hfirst
        exact hfirst.append (ih after sink)
    · rw [attempts_of_stopped hs, runFor_of_stopped hs]
      exact .nil m

end Ls8.Machine
