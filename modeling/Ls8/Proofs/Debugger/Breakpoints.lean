import Mathlib.Data.ENat.Lattice
import Ls8.Proofs.Debugger.Calls
import Ls8.Proofs.Machine.Locality

/-!
# Where ticks stop

The machine comes to a stop at the first of its states in which it does not run or stands at a
breakpoint; `distance` is the number of steps to there. Up to there each tick is a step
(`onCourse_of_le`). The first tick from there on makes no step, and the debugger does not go on
afterwards (`onCourse_of_stopsAt`). `ticks_stop_first`: what any number of ticks does.
-/

namespace Ls8.Debugger

open Machine (Attempt)

/-- The step that is next after `k` steps of the machine, whatever these return. -/
def attemptAfter (d : Debugger) (k : ℕ) : Attempt :=
  let (m, out) := Machine.afterSteps k d.machine d.session.sink
  ⟨m, out⟩

/-- After `k` steps the machine does not run or stands at a breakpoint. -/
def StopsAt (d : Debugger) (k : ℕ) : Prop :=
  (d.attemptAfter k).machine.state ≠ .running ∨
    (d.attemptAfter k).machine.regs.pc ∈ d.breakpoints

instance (d : Debugger) (k : ℕ) : Decidable (d.StopsAt k) :=
  inferInstanceAs (Decidable (_ ∨ _))

/-- The number of steps to where the machine comes to a stop; infinite if it never does. -/
noncomputable def distance (d : Debugger) : ℕ∞ :=
  ⨅ (k : ℕ) (_ : d.StopsAt k), (k : ℕ∞)

/-- `n` ticks try the first `made` steps of the machine and lead to where these do. -/
structure OnCourse (d : Debugger) (n made : ℕ) : Prop where
  tried : d.attempts (List.replicate n .tick) = (List.range made).map d.attemptAfter
  attempt : (tick^[n] d).attempt = d.attemptAfter made
  breakpoints : (tick^[n] d).breakpoints = d.breakpoints

variable {d : Debugger} {n made : ℕ}

theorem le_distance_iff : (n : ℕ∞) ≤ d.distance ↔ ∀ k, d.StopsAt k → n ≤ k := by
  simp [distance, le_iInf_iff]

theorem not_stopsAt_of_lt {k : ℕ} (h : (n : ℕ∞) ≤ d.distance) (hk : k < n) : ¬d.StopsAt k :=
  fun hstops => Nat.not_le_of_lt hk (le_distance_iff.mp h k hstops)

theorem distance_eq (h : d.StopsAt made) (hfirst : ∀ k, d.StopsAt k → made ≤ k) :
    d.distance = made :=
  le_antisymm (iInf₂_le made h) (le_distance_iff.mpr hfirst)

theorem attemptAfter_succ (d : Debugger) (k : ℕ) :
    d.attemptAfter (k + 1) =
      ⟨(d.attemptAfter k).outcome.machine, (d.attemptAfter k).outcome.sink⟩ := rfl

theorem succeeds_attemptAfter {k : ℕ} (h : ¬d.StopsAt (k + 1)) : (d.attemptAfter k).Succeeds := by
  obtain ⟨hstate, -⟩ := not_or.mp h
  exact Attempt.succeeds_of_running (not_not.mp hstate)

/-! ## Ticks in a row -/

theorem foldl_perform_replicate (n : ℕ) (d : Debugger) :
    (List.replicate n Call.tick).foldl perform d = tick^[n] d := by
  induction n generalizing d with
  | zero => rfl
  | succ n ih => exact ih d.tick

theorem attempts_replicate_succ (n : ℕ) (d : Debugger) :
    d.attempts (List.replicate (n + 1) .tick) =
      d.attempts (List.replicate n .tick) ++
        if (tick^[n] d).goesOn then [(tick^[n] d).attempt] else [] := by
  rw [List.replicate_succ', attempts_append, foldl_perform_replicate]
  simp [attempts, tries]

namespace OnCourse

theorem goesOn_iff (h : d.OnCourse n made) :
    (tick^[n] d).goesOn ↔ (tick^[n] d).running ∧ ¬d.StopsAt made := by
  have hmachine : (tick^[n] d).machine = (d.attemptAfter made).machine :=
    congrArg Attempt.machine h.attempt
  rw [Debugger.goesOn_iff, pc, Machine.isRunning, hmachine, h.breakpoints, StopsAt]
  simp

theorem zero (d : Debugger) : d.OnCourse 0 0 := ⟨rfl, rfl, rfl⟩

theorem step (h : d.OnCourse n made) (hgoes : (tick^[n] d).goesOn) :
    d.OnCourse (n + 1) (made + 1) := by
  have hrunning := (Debugger.goesOn_iff.mp hgoes).2.1
  refine ⟨?_, ?_, ?_⟩
  · rw [attempts_replicate_succ, if_pos hgoes, h.tried, h.attempt, List.range_succ, List.map_append]
    rfl
  · rw [Function.iterate_succ_apply', tick_of_goesOn hgoes, attempt_step hrunning, h.attempt,
      attemptAfter_succ]
  · rw [Function.iterate_succ_apply', tick_of_goesOn hgoes, (goes_step _).breakpoints,
      h.breakpoints]

theorem rest (h : d.OnCourse n made) (hgoes : ¬(tick^[n] d).goesOn) :
    d.OnCourse (n + 1) made ∧ (tick^[n + 1] d).running = false := by
  obtain ⟨status, htick⟩ := tick_of_not_goesOn hgoes
  refine ⟨⟨?_, ?_, ?_⟩, ?_⟩
  · rw [attempts_replicate_succ, if_neg hgoes, h.tried, List.append_nil]
  · rw [Function.iterate_succ_apply', htick]
    exact h.attempt
  · rw [Function.iterate_succ_apply', htick]
    exact h.breakpoints
  · rw [Function.iterate_succ_apply', htick]

end OnCourse

/-- Up to the stop each tick is a step, and all but the last one succeed. -/
theorem onCourse_of_le (hd : d.running) (h : (n : ℕ∞) ≤ d.distance) :
    d.OnCourse n n ∧
      ((tick^[n] d).running ↔
        ∀ a ∈ (d.attempts (List.replicate n .tick)).getLast?, a.Succeeds) := by
  induction n with
  | zero => exact ⟨.zero d, by simp [hd, attempts]⟩
  | succ n ih =>
    have hstop := not_stopsAt_of_lt h n.lt_succ_self
    obtain ⟨hcourse, hrunning⟩ := ih (le_trans (by exact_mod_cast n.le_succ) h)
    have hgoes : (tick^[n] d).running := by
      rw [hrunning, hcourse.tried]
      cases n with
      | zero => simp
      | succ k =>
        rw [List.range_succ, List.map_append]
        simpa using succeeds_attemptAfter hstop
    have hon := hcourse.goesOn_iff.mpr ⟨hgoes, hstop⟩
    refine ⟨hcourse.step hon, ?_⟩
    rw [Function.iterate_succ_apply', tick_of_goesOn hon,
      running_step (goesOn_iff.mp hon).2.1, attempts_replicate_succ, if_pos hon]
    simp [hgoes]

theorem onCourse_of_stopsAt (hd : d.running) (h : d.StopsAt made)
    (hfirst : ∀ k, d.StopsAt k → made ≤ k) (hn : made < n) :
    d.OnCourse n made ∧ (tick^[n] d).running = false := by
  induction n, hn using Nat.le_induction with
  | base =>
    have hcourse := (onCourse_of_le hd (distance_eq h hfirst).ge).1
    exact hcourse.rest fun hgoes => (hcourse.goesOn_iff.mp hgoes).2 h
  | succ n _ ih =>
    obtain ⟨hcourse, hrunning⟩ := ih
    refine hcourse.rest fun hgoes => ?_
    have := (hcourse.goesOn_iff.mp hgoes).1
    simp [hrunning] at this

theorem exists_onCourse (hd : d.running) (n : ℕ) :
    ∃ made : ℕ, (made : ℕ∞) = min (n : ℕ∞) d.distance ∧ d.OnCourse n made ∧
      ((tick^[n] d).running ↔ (n : ℕ∞) ≤ d.distance ∧
        ∀ a ∈ (d.attempts (List.replicate n .tick)).getLast?, a.Succeeds) := by
  classical
  by_cases hn : (n : ℕ∞) ≤ d.distance
  · obtain ⟨hcourse, hrunning⟩ := onCourse_of_le hd hn
    exact ⟨n, (min_eq_left hn).symm, hcourse, hrunning.trans (and_iff_right hn).symm⟩
  · obtain ⟨k, hk, hkn⟩ : ∃ k, d.StopsAt k ∧ k < n := by
      simpa [le_distance_iff] using hn
    have hexists : ∃ k, d.StopsAt k := ⟨k, hk⟩
    have hmade := Nat.find_spec hexists
    have hfirst : ∀ k, d.StopsAt k → Nat.find hexists ≤ k := fun k => Nat.find_min' hexists
    obtain ⟨hcourse, hrunning⟩ :=
      onCourse_of_stopsAt hd hmade hfirst (Nat.lt_of_le_of_lt (hfirst k hk) hkn)
    refine ⟨Nat.find hexists, ?_, hcourse, ?_⟩
    · rw [min_eq_right (le_of_not_ge hn), distance_eq hmade hfirst]
    · simp [hrunning, hn]

/-- **Ticks stop first at a breakpoint.** Let the debugger go on for `n` ticks. They try as many
steps as lead to where the machine comes to a stop, but `n` at most, and take machine and output to
where that many steps do. So no step is tried at a breakpoint. The debugger still goes on afterwards
if the ticks do not outnumber these steps and the last step has succeeded. Breakpoints stay. -/
theorem ticks_stop_first (d : Debugger) (hd : d.running) (n : ℕ) :
    let tried := d.attempts (List.replicate n .tick)
    let after := tick^[n] d
    ∃ made : ℕ, (made : ℕ∞) = min (n : ℕ∞) d.distance ∧
      tried = (List.range made).map d.attemptAfter ∧
      after.machine = (d.attemptAfter made).machine ∧
      after.session.output = (d.attemptAfter made).sink.taken ∧
      (∀ a ∈ tried, a.machine.state = .running ∧ a.machine.regs.pc ∉ d.breakpoints) ∧
      (after.running ↔ (n : ℕ∞) ≤ d.distance ∧ ∀ a ∈ tried.getLast?, a.Succeeds) ∧
      after.breakpoints = d.breakpoints := by
  intro tried after
  obtain ⟨made, hmade, hcourse, hrunning⟩ := exists_onCourse hd n
  have hdistance : (made : ℕ∞) ≤ d.distance := hmade ▸ min_le_right _ _
  refine ⟨made, hmade, hcourse.tried, congrArg Attempt.machine hcourse.attempt,
    congrArg (·.sink.taken) hcourse.attempt, fun a ha => ?_, hrunning, hcourse.breakpoints⟩
  rw [show tried = _ from hcourse.tried] at ha
  obtain ⟨k, hk, rfl⟩ := List.mem_map.mp ha
  obtain ⟨hstate, hpc⟩ := not_or.mp (not_stopsAt_of_lt hdistance (List.mem_range.mp hk))
  exact ⟨not_not.mp hstate, hpc⟩

/-- A breakpoint at the halt, two steps from the start: only the third tick ends going on. -/
theorem ticks_stop_first_before_halt :
    let d : Debugger :=
      { start [0x82, 0, 8, 0x47, 0, 0x01] with breakpoints := [5], running := true }
    d.distance = 2 ∧ (tick^[2] d).running = true ∧ (tick^[3] d).running = false ∧
      (tick^[3] d).session.output = #[0x38, 0x0A] := by
  intro d
  have hdistance : d.distance = (2 : ℕ) := by
    refine distance_eq (by decide +kernel) fun k hk => ?_
    match k with
    | 0 => exact absurd hk (by decide +kernel)
    | 1 => exact absurd hk (by decide +kernel)
    | k + 2 => omega
  obtain ⟨two, htwo, htried, _, _, _, hrunning, _⟩ := ticks_stop_first d rfl 2
  obtain ⟨three, hthree, _, _, houtput, _, hstopped, _⟩ := ticks_stop_first d rfl 3
  rw [hdistance, Nat.cast_le] at hrunning hstopped
  rw [hdistance, min_eq_right (Nat.cast_le.mpr (by decide))] at htwo hthree
  obtain rfl : two = 2 := Nat.cast_inj.mp htwo
  obtain rfl : three = 2 := Nat.cast_inj.mp hthree
  refine ⟨hdistance, hrunning.mpr ⟨le_rfl, ?_⟩, ?_, ?_⟩
  · rw [htried]
    rintro a ⟨⟩
    exact ⟨.prn 0, by decide +kernel⟩
  · exact Bool.eq_false_iff.mpr fun hgoes => absurd (hstopped.mp hgoes).1 (by decide)
  · rw [houtput]
    decide +kernel

end Ls8.Debugger
