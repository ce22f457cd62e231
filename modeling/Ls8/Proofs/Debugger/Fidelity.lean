import Ls8.Debugger.Keys
import Ls8.Proofs.Debugger.Step

/-!
# The debugger leaves its program alone

Breakpoints, pauses and views decide when the machine takes a step, never what the step does. Each
`Action` leaves the session as it is, or steps it, or starts it again (`session_act`). So after any
actions the session follows its program (`debugger_follows`).
-/

namespace Ls8.Debugger

open Machine (Trace)

/-- What can be done with the debugger. -/
inductive Action where
  | step
  | run
  | tick
  | pause
  | toggleBreakpoint
  | addBreakpoint (address : UInt8)
  | reset
  | scroll (row : Nat)
  | read
  | press (key : Key)

/-- The debugger after an action. -/
def act (d : Debugger) : Action → Debugger
  | .step => d.step
  | .run => d.run
  | .tick => d.tick
  | .pause => d.pause
  | .toggleBreakpoint => d.toggleBreakpoint
  | .addBreakpoint address => d.addBreakpoint address
  | .reset => d.reset
  | .scroll row => { d with scroll := row }
  | .read => d
  | .press key => d.press key

variable {d : Debugger}

/-! ## What an action does -/

theorem session_toggleBreakpoint (d : Debugger) : d.toggleBreakpoint.session = d.session := by
  unfold toggleBreakpoint
  split <;> rfl

theorem session_press (d : Debugger) (key : Key) :
    (d.press key).session = d.session ∨ (d.press key).session = d.session.step.2 ∨
      (d.press key).session = d.session.reset := by
  unfold press
  split
  · exact (goes_step { d with running := false }).session.imp_right .inl
  · exact .inl rfl
  · exact .inl rfl
  · exact .inl (session_toggleBreakpoint d)
  · exact .inr (.inr rfl)
  · exact .inl rfl
  · split
    · exact .inl rfl
    · exact .inl rfl
  · exact .inl rfl

theorem session_act (d : Debugger) (action : Action) :
    (d.act action).session = d.session ∨ (d.act action).session = d.session.step.2 ∨
      (d.act action).session = d.session.reset := by
  cases action with
  | step => exact (goes_step d).session.imp_right .inl
  | tick => exact (goes_tick d).session.imp_right .inl
  | toggleBreakpoint => exact .inl (session_toggleBreakpoint d)
  | reset => exact .inr (.inr rfl)
  | press key => exact session_press d key
  | run | pause | addBreakpoint | scroll | read => exact .inl rfl

/-! ## Any actions -/

theorem follows_act {is : List Instruction} (h : d.session.Follows is) (action : Action) :
    (d.act action).session.program = d.session.program ∧
      ∃ js, js.length ≤ is.length + 1 ∧ (d.act action).session.Follows js := by
  rcases session_act d action with heq | heq | heq
  · rw [heq]
    exact ⟨rfl, is, Nat.le_succ _, h⟩
  · rw [heq]
    exact ⟨rfl, h.step⟩
  · rw [heq]
    exact ⟨rfl, [], Nat.zero_le _, Session.follows_start _⟩

theorem follows_actions (actions : List Action) {is : List Instruction}
    (h : d.session.Follows is) :
    (actions.foldl act d).session.program = d.session.program ∧
      ∃ js, js.length ≤ is.length + actions.length ∧ (actions.foldl act d).session.Follows js := by
  induction actions generalizing d is with
  | nil => exact ⟨rfl, is, Nat.le_refl _, h⟩
  | cons action actions ih =>
    obtain ⟨hprogram, js, hjs, hfollows⟩ := follows_act h action
    obtain ⟨hrest, ks, hks, hend⟩ := ih hfollows
    refine ⟨hrest.trans hprogram, ks, ?_, hend⟩
    rw [List.length_cons]
    omega

/-! ## Scrolling -/

theorem scroll_press (h : d.scroll ≤ maxScroll) (key : Key) : (d.press key).scroll ≤ maxScroll := by
  unfold press
  split
  · rw [(goes_step _).scroll]
    exact h
  · exact h
  · exact h
  · unfold toggleBreakpoint
    split <;> exact h
  · exact h
  · exact Nat.le_trans (Nat.sub_le _ _) h
  · split
    · rename_i hless
      exact hless
    · exact h
  · exact h

theorem foldl_round (keys : List Key) (d : Debugger) :
    keys.foldl round d = (keys.flatMap fun key => [.press key, .tick]).foldl act d := by
  induction keys generalizing d with
  | nil => rfl
  | cons key keys ih => exact ih (d.round key)

theorem scroll_rounds (keys : List Key) (h : d.scroll ≤ maxScroll) :
    (keys.foldl round d).scroll ≤ maxScroll := by
  refine List.foldlRecOn (motive := fun d => d.scroll ≤ maxScroll) keys round h fun d hd key _ => ?_
  rw [round, (goes_tick _).scroll]
  exact scroll_press hd key

/-- **The debugger follows its program.** After any actions the program is as it was at the start,
and machine and output are those of the program after as many instructions as the machine has
counted; and after one more step, which failed, exactly if the machine is in the error state.
(The count is exact until it wraps around, which takes as many actions.) The rounds of the key loop
are such actions, and never scroll beyond the last row. -/
theorem debugger_follows (program : List UInt8) (actions : List Action) :
    let d := actions.foldl act (start program)
    d.session.program = program ∧
    (∃ is last, Trace (.withProgram program) .unlimited is last d.session.sink ∧
      d.machine.cycles = UInt64.ofNat is.length ∧
      (actions.length < UInt64.size → d.machine.cycles.toNat = is.length) ∧
      (d.machine.state ≠ .error ∧ d.machine = last ∨
        d.machine.state = .error ∧
          ∃ e, last.step d.session.sink = ⟨d.machine, d.session.sink, .error e⟩)) ∧
    ∀ keys : List Key,
      keys.foldl round (start program) =
          (keys.flatMap fun key => [.press key, .tick]).foldl act (start program) ∧
        (keys.foldl round (start program)).scroll ≤ 31 := by
  intro d
  obtain ⟨hprogram, is, hle, hfollows⟩ :=
    follows_actions (d := start program) actions (Session.follows_start program)
  have hcycles := hfollows.cycles
  obtain ⟨last, htrace, hend⟩ := hfollows
  rw [hprogram] at htrace
  refine ⟨hprogram, ⟨is, last, htrace, hcycles, fun hcount => ?_, hend⟩, fun keys =>
    ⟨foldl_round keys _, scroll_rounds keys (Nat.zero_le _)⟩⟩
  rw [List.length_nil, Nat.zero_add] at hle
  have hfits : is.length < UInt64.size := Nat.lt_of_le_of_lt hle hcount
  have hmachine : d.machine.cycles = UInt64.ofNat is.length := hcycles
  rw [hmachine, UInt64.toNat_ofNat', Nat.mod_eq_of_lt hfits]

/-- A program that stops at a breakpoint, goes on by hand and runs into a byte without a name. -/
theorem debugger_follows_to_error :
    let program : List UInt8 := [0x82, 0, 8, 0x47, 0, 0xFF]
    let actions : List Action :=
      [.addBreakpoint 3, .run, .tick, .tick, .tick, .step, .press (.char 's'), .read, .step]
    let d := actions.foldl act (start program)
    actions.length < UInt64.size ∧ d.machine.state = .error ∧
      d.session.output.toList = [0x38, 0x0A] ∧
      ∃ is last, Trace (.withProgram program) .unlimited is last d.session.sink ∧
        is.length = 2 := by
  intro program actions d
  have hlength : actions.length < UInt64.size := by decide +kernel
  have htwo : d.machine.cycles.toNat = 2 := by decide +kernel
  obtain ⟨_, ⟨is, last, htrace, _, hcount, _⟩, _⟩ := debugger_follows program actions
  exact ⟨hlength, by decide +kernel, by decide +kernel, is, last, htrace,
    (hcount hlength).symm.trans htwo⟩

end Ls8.Debugger
