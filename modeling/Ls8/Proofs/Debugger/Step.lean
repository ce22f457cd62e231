import Ls8.Debugger.Basic
import Ls8.Proofs.Machine.Attempts
import Ls8.Proofs.Session

/-!
# Steps and ticks of the debugger

A debugger whose machine runs takes the next step of its session (`session_step`). A tick is a step if
the debugger `goesOn`, and else changes the session in nothing (`tick_of_goesOn`,
`tick_of_not_goesOn`). Either way breakpoints and view stay (`Goes`).
-/

namespace Ls8.Debugger

open Machine (Attempt)

/-- The step that the session takes next. -/
def attempt (d : Debugger) : Attempt :=
  ⟨d.machine, d.session.sink⟩

/-- The next tick executes an instruction. -/
def goesOn (d : Debugger) : Bool :=
  d.running && d.machine.isRunning && !d.breakpoints.contains d.pc

/-- A debugger that differs in what it shows and whether it goes on, and may have taken a step. -/
def Goes (d after : Debugger) : Prop :=
  ∃ running status,
    after = { d with running, status } ∨
      after = { d with session := d.session.step.2, running, status }

variable {d after : Debugger}

namespace Goes

theorem session (h : d.Goes after) :
    after.session = d.session ∨ after.session = d.session.step.2 := by
  obtain ⟨running, status, rfl | rfl⟩ := h
  · exact .inl rfl
  · exact .inr rfl

theorem scroll (h : d.Goes after) : after.scroll = d.scroll := by
  obtain ⟨running, status, rfl | rfl⟩ := h <;> rfl

theorem breakpoints (h : d.Goes after) : after.breakpoints = d.breakpoints := by
  obtain ⟨running, status, rfl | rfl⟩ := h <;> rfl

end Goes

/-! ## A step -/

theorem goes_step (d : Debugger) : d.Goes d.step := by
  unfold step
  split
  · rcases h : d.session.step with ⟨e | i, session⟩
    · exact ⟨_, _, .inr (by rw [h])⟩
    · exact ⟨_, _, .inr (by rw [h])⟩
  · exact ⟨_, _, .inl rfl⟩

theorem session_step (h : d.machine.isRunning) : d.step.session = d.session.step.2 := by
  rw [step, if_pos h]
  rcases d.session.step with ⟨e | i, session⟩ <;> rfl

theorem session_step_of_stopped (h : ¬d.machine.isRunning) : d.step.session = d.session := by
  rw [step, if_neg h]

theorem attempt_step (h : d.machine.isRunning) :
    d.step.attempt = ⟨d.attempt.outcome.machine, d.attempt.outcome.sink⟩ := by
  rw [attempt, machine, session_step h, Session.sink_step]
  rfl

theorem running_step (h : d.machine.isRunning) :
    d.step.running ↔ d.running ∧ d.attempt.Succeeds := by
  have hresult : d.session.step.1 = d.attempt.outcome.result := rfl
  rw [step, if_pos h, Attempt.Succeeds, ← hresult]
  rcases d.session.step with ⟨e | i, session⟩ <;> simp

/-! ## A tick -/

theorem goesOn_iff :
    d.goesOn ↔ d.running ∧ d.machine.isRunning ∧ ¬d.breakpoints.contains d.pc := by
  simp [goesOn, and_assoc]

theorem tick_of_goesOn (h : d.goesOn) : d.tick = d.step := by
  obtain ⟨hrunning, hmachine, hbreakpoint⟩ := goesOn_iff.mp h
  rw [tick, if_neg (by simp [hrunning]), if_neg (by simp [hmachine]), if_neg hbreakpoint]

theorem tick_of_not_goesOn (h : ¬d.goesOn) :
    ∃ status, d.tick = { d with running := false, status } := by
  unfold tick
  split
  · rename_i hrunning
    have hstopped : d.running = false := by simpa using hrunning
    exact ⟨d.status, by rw [← hstopped]⟩
  · split
    · exact ⟨_, rfl⟩
    · split
      · exact ⟨_, rfl⟩
      · simp_all [goesOn]

theorem goes_tick (d : Debugger) : d.Goes d.tick := by
  by_cases h : d.goesOn
  · rw [tick_of_goesOn h]
    exact goes_step d
  · obtain ⟨status, htick⟩ := tick_of_not_goesOn h
    exact ⟨false, status, .inl htick⟩

end Ls8.Debugger
