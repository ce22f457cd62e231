import Ls8.Proofs.Machine.Run

/-!
# Runs with an allowance

An allowance is a bound on the instructions of one run. `runs_compose`: two runs with allowances are
one run with their sum; a run uses its allowance up unless the machine stops before; and a run
without a bound, if it ends, is the run with any allowance that is not used up.

The run stops at a bound on the count of instructions (`runFor_until`), and the count does not go
beyond its greatest value. So all of this needs a count with room for the instructions that are
asked for: at the greatest count a run with an allowance executes nothing (`runLimited_at_maxCycles`).
-/

namespace Ls8.Machine

variable {m : Machine} {is : List Instruction} {out : Sink}

theorem allowance_eq_sub (n : Nat) :
    m.allowance n = min (m.cycles.toNat + n) maxCycles - m.cycles.toNat := by
  rw [allowance]
  omega

theorem allowance_eq {n : Nat} (h : m.cycles.toNat + n < UInt64.size) : m.allowance n = n := by
  rw [allowance_eq_sub, maxCycles]
  omega

theorem lt_allowance {n N : Nat} (h : m.cycles.toNat + n + 1 < UInt64.size) (hN : n + 1 ≤ N) :
    n < m.allowance N := by
  rw [allowance_eq_sub, maxCycles]
  omega

theorem toNat_add_ofNat {c : UInt64} {k : Nat} (h : c.toNat + k < UInt64.size) :
    (c + UInt64.ofNat k).toNat = c.toNat + k := by
  rw [UInt64.toNat_add, UInt64.toNat_ofNat', Nat.add_mod_mod]
  exact Nat.mod_eq_of_lt h

theorem runFor_until {bound : Nat} (h : bound < UInt64.size) :
    runFor (bound - m.cycles.toNat) m out =
      if m.state = .running ∧ m.cycles.toNat < bound then
        match m.step out with
        | ⟨after, sink, .ok _⟩ => runFor (bound - after.cycles.toNat) after sink
        | ⟨after, sink, .error e⟩ => ⟨after, sink, .error e⟩
      else ⟨m, out, .ok ()⟩ := by
  by_cases hs : m.state = .running
  · by_cases hbound : m.cycles.toNat < bound
    · obtain ⟨k, hk⟩ : ∃ k, bound - m.cycles.toNat = k + 1 := ⟨bound - m.cycles.toNat - 1, by omega⟩
      rw [hk, runFor, if_pos hs, if_pos ⟨hs, hbound⟩]
      rcases hstep : m.step out with ⟨after, sink, e | i⟩
      · rfl
      · obtain ⟨_, _, _, _, rfl⟩ := step_eq_ok_iff.mp hstep
        have hcycles : (m.next i).cycles.toNat = m.cycles.toNat + 1 := by
          rw [next_cycles]
          exact toNat_add_ofNat (k := 1) (by omega)
        have hleft : bound - (m.next i).cycles.toNat = k := by omega
        simp only [hleft]
    · rw [if_neg (fun h => hbound h.2), Nat.sub_eq_zero_of_le (Nat.le_of_not_lt hbound), runFor]
  · rw [if_neg (fun h => hs h.1), runFor_of_stopped hs]

theorem runLimited_at_maxCycles (h : m.cycles.toNat = maxCycles) (n : Nat) :
    m.runLimited out n = ⟨m, out, .ok 0⟩ := by
  rw [runLimited, allowance, h, Nat.sub_self, Nat.min_zero, runFor, counted, Except.map,
    UInt64.sub_self]

theorem runLimited_add {n k : Nat} (h : m.cycles.toNat + n + k < UInt64.size) :
    m.runLimited out (n + k) =
      match m.runLimited out n with
      | ⟨middle, sink, .ok count⟩ =>
        let o := middle.runLimited sink k
        ⟨o.machine, o.sink, o.result.map (count + ·)⟩
      | ⟨after, sink, .error e⟩ => ⟨after, sink, .error e⟩ := by
  rw [runLimited, runLimited, allowance_eq (by omega), allowance_eq (by omega), runFor_add]
  rcases hfirst : runFor n m out with ⟨middle, sink, e | u⟩
  · rfl
  · obtain ⟨j, hj, hcycles⟩ := exists_cycles_runFor n m out
    rw [hfirst] at hcycles
    have hroom : middle.cycles.toNat + k < UInt64.size := by
      rw [hcycles, toNat_add_ofNat (by omega)]
      omega
    simp only [counted, Except.map, runLimited, allowance_eq hroom]
    rcases runFor k middle sink with ⟨last, written, e | u⟩
    · rfl
    · have hcount : last.cycles - m.cycles =
          middle.cycles - m.cycles + (last.cycles - middle.cycles) := by grind
      simp only [hcount]

theorem runLimited_exact {n : Nat} (h : m.cycles.toNat + n < UInt64.size) :
    let o := m.runLimited out n
    (∃ is, is.length = n ∧ Trace m out is o.machine o.sink ∧ o.result = .ok (UInt64.ofNat n)) ∨
      ∃ is, is.length < n ∧ m.StopsAfter out is ∧ o.machine.state ≠ .running ∧
        o.machine.cycles = m.cycles + UInt64.ofNat is.length := by
  rw [runLimited, allowance_eq h]
  rcases exists_trace n m out with ⟨is, last, written, rfl, htrace⟩ | ⟨is, hlt, hstops⟩
  · left
    have hcount : last.cycles - m.cycles = UInt64.ofNat is.length := by
      rw [htrace.cycles, UInt64.add_comm, UInt64.add_sub_cancel]
    rw [runFor_length htrace, counted, Except.map, hcount]
    exact ⟨is, rfl, htrace, rfl⟩
  · right
    obtain ⟨o, hstate, hcycles, hrun⟩ := hstops.exists_outcome
    rw [hrun n hlt]
    exact ⟨is, hlt, hstops, hstate, hcycles⟩

/-- A run with an allowance beyond the instructions of a machine that stops is the run without a
bound. -/
theorem StopsAfter.runLimited_eq_run {N : Nat} (hstops : m.StopsAfter out is)
    (h : m.cycles.toNat + is.length + 1 < UInt64.size) (hN : is.length + 1 ≤ N) :
    m.runLimited out N = m.run out := by
  obtain ⟨o, _, _, hrun⟩ := hstops.exists_outcome
  have hbeyond : is.length < maxCycles - m.cycles.toNat + 1 := by
    rw [maxCycles]
    omega
  rw [runLimited, hrun _ (lt_allowance h hN), run, hrun _ hbeyond]

/-- **Runs compose.** While the count of instructions has room for what is asked for, two runs in a
row are one, with the same machine, sink and error, and the counts of the two add up; a run executes
all the instructions that it may, or the machine stops after fewer. If the machine stops at all,
after the instructions `is`, then a run without a bound comes to this end, and so does a run with
any allowance beyond the number of these instructions. -/
theorem runs_compose (m : Machine) (out : Sink) :
    (∀ n k, m.cycles.toNat + n + k < UInt64.size →
      m.runLimited out (n + k) =
        match m.runLimited out n with
        | ⟨middle, sink, .ok count⟩ =>
          let o := middle.runLimited sink k
          ⟨o.machine, o.sink, o.result.map (count + ·)⟩
        | ⟨after, sink, .error e⟩ => ⟨after, sink, .error e⟩) ∧
    (∀ n, m.cycles.toNat + n < UInt64.size →
      let o := m.runLimited out n
      (∃ is, is.length = n ∧ Trace m out is o.machine o.sink ∧ o.result = .ok (UInt64.ofNat n)) ∨
        ∃ is, is.length < n ∧ m.StopsAfter out is ∧ o.machine.state ≠ .running ∧
          o.machine.cycles = m.cycles + UInt64.ofNat is.length) ∧
    ∀ is, m.StopsAfter out is → m.cycles.toNat + is.length + 1 < UInt64.size →
      let o := m.run out
      o.machine.state ≠ .running ∧ o.machine.cycles = m.cycles + UInt64.ofNat is.length ∧
        ∀ N, is.length + 1 ≤ N → m.runLimited out N = o := by
  refine ⟨fun n k h => runLimited_add h, fun n h => runLimited_exact h, fun is hstops h => ?_⟩
  obtain ⟨o, hstate, hcycles, hrun⟩ := hstops.exists_outcome
  have hunbounded : m.run out = m.counted o := by
    rw [run, hrun _ (by rw [maxCycles]; omega)]
  rw [hunbounded]
  refine ⟨hstate, hcycles, fun N hN => ?_⟩
  rw [runLimited, hrun _ (lt_allowance h hN)]

/-- A program that loads 72 and prints it, and a sink that is full after both digits. -/
theorem runs_compose_full_sink :
    let m := withProgram [0x82, 0, 72, 0x47, 0, 0x01]
    let out := Sink.limited 2 .error
    m.StopsAfter out [.ldi 0 72] ∧ m.runLimited out 2 = m.run out ∧
      m.runLimited out (1 + 2) =
        match m.runLimited out 1 with
        | ⟨middle, sink, .ok count⟩ =>
          let o := middle.runLimited sink 2
          ⟨o.machine, o.sink, o.result.map (count + ·)⟩
        | ⟨after, sink, .error e⟩ => ⟨after, sink, .error e⟩ := by
  intro m out
  have hload : m.step out = ⟨m.next (.ldi 0 72), out, .ok (.ldi 0 72)⟩ :=
    step_eq_ok_iff.mpr ⟨rfl, fetch_eq_ok_iff.mpr (by decide +kernel), rfl, rfl, rfl⟩
  have hprint : (m.next (.ldi 0 72)).step out =
      ⟨(m.next (.ldi 0 72)).fail, ⟨#[0x37, 0x32], some 0, .error⟩, .error (.output .error)⟩ :=
    step_eq_error_iff.mpr <| .inr ⟨by decide +kernel, rfl, .inr
      ⟨0, fetch_eq_ok_iff.mpr (by decide +kernel), by decide +kernel, by decide +kernel, rfl⟩⟩
  have hstops : m.StopsAfter out [.ldi 0 72] :=
    ⟨_, _, _, _, _, .cons hload (.nil _ _), hprint⟩
  obtain ⟨hadd, _, hrun⟩ := runs_compose m out
  exact ⟨hstops, (hrun _ hstops (by decide +kernel)).2.2 2 (by decide),
    hadd 1 2 (by decide +kernel)⟩

end Ls8.Machine
