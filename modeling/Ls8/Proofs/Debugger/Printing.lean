import Ls8.Proofs.Debugger.Calls
import Ls8.Proofs.Debugger.Fidelity
import Ls8.Proofs.Machine.Printing

/-!
# What the debugger has printed

The debugger's output has the lines of the steps that were tried since the program was last started,
whatever else was done in between: one action adds those of its own step, or clears the output
(`output_act`, `output_actions`). Its lines are therefore the printed values, one for each `PRN`
(`output_of_values`).
-/

namespace Ls8.Debugger

open Machine (Attempt Linked numberLine printedValues)

def Action.restarts : Action → Bool
  | .reset | .press (.char 'x') => true
  | _ => false

/-- The step that an action tries, if it tries one. -/
def attemptsOf (d : Debugger) : Action → List Attempt
  | .step | .press (.char 's') => d.tries .step
  | .tick => d.tries .tick
  | _ => []

/-- The steps that actions try, without those before the program is started again. -/
def attemptsSinceReset (d : Debugger) : List Action → List Attempt
  | [] => []
  | action :: actions =>
    (if actions.any Action.restarts then [] else d.attemptsOf action) ++
      (d.act action).attemptsSinceReset actions

/-! ## One action -/

theorem step_cases (d : Debugger) :
    Action.step.restarts = false ∧ d.attemptsOf .step = [] ∧ d.step.session = d.session ∨
      Action.step.restarts = false ∧ d.attemptsOf .step = [d.attempt] ∧
        d.step.session = d.session.step.2 := by
  by_cases h : d.machine.isRunning
  · exact .inr ⟨rfl, if_pos h, session_step h⟩
  · exact .inl ⟨rfl, if_neg h, session_step_of_stopped h⟩

theorem act_cases (d : Debugger) (action : Action) :
    action.restarts = true ∧ d.attemptsOf action = [] ∧
        (d.act action).session = d.session.reset ∨
      action.restarts = false ∧ d.attemptsOf action = [] ∧ (d.act action).session = d.session ∨
      action.restarts = false ∧ d.attemptsOf action = [d.attempt] ∧
        (d.act action).session = d.session.step.2 := by
  cases action with
  | step => exact .inr (step_cases d)
  | tick =>
    by_cases hgoes : d.goesOn
    · rw [attemptsOf, tries, if_pos hgoes, act, tick_of_goesOn hgoes]
      exact .inr (.inr ⟨rfl, rfl, session_step (goesOn_iff.mp hgoes).2.1⟩)
    · obtain ⟨status, htick⟩ := tick_of_not_goesOn hgoes
      rw [attemptsOf, tries, if_neg hgoes, act, htick]
      exact .inr (.inl ⟨rfl, rfl, rfl⟩)
  | press key =>
    rw [act]
    unfold press
    split
    · exact .inr (step_cases { d with running := false })
    · exact .inr (.inl ⟨rfl, rfl, rfl⟩)
    · exact .inr (.inl ⟨rfl, rfl, rfl⟩)
    · exact .inr (.inl ⟨rfl, rfl, session_toggleBreakpoint d⟩)
    · exact .inl ⟨rfl, rfl, rfl⟩
    · exact .inr (.inl ⟨rfl, rfl, rfl⟩)
    · exact .inr (.inl ⟨rfl, rfl, by split <;> rfl⟩)
    · exact .inr (.inl ⟨by simp_all [Action.restarts], by simp_all [attemptsOf], rfl⟩)
  | reset => exact .inl ⟨rfl, rfl, rfl⟩
  | toggleBreakpoint => exact .inr (.inl ⟨rfl, rfl, session_toggleBreakpoint d⟩)
  | run | pause | addBreakpoint | scroll | read => exact .inr (.inl ⟨rfl, rfl, rfl⟩)

theorem output_session_step (d : Debugger) :
    d.session.step.2.output.toList =
      d.session.output.toList ++ (printedValues [d.attempt]).flatMap numberLine := by
  rcases hstep : d.machine.step d.session.sink with ⟨after, sink, result⟩
  have hsink := Machine.sink_of_step rfl hstep
  rw [Session.step_snd hstep, hsink, Sink.accept_of_room_none rfl]
  exact Array.toList_appendList

theorem output_act (d : Debugger) (action : Action) :
    (d.act action).session.output.toList =
      (if action.restarts then [] else d.session.output.toList) ++
        (printedValues (d.attemptsOf action)).flatMap numberLine := by
  rcases act_cases d action with ⟨hrestarts, hattempts, hsession⟩ |
    ⟨hrestarts, hattempts, hsession⟩ | ⟨hrestarts, hattempts, hsession⟩
  · rw [hrestarts, hattempts, hsession]
    rfl
  · rw [hrestarts, hattempts, hsession]
    exact (List.append_nil _).symm
  · rw [hrestarts, hattempts, hsession]
    exact output_session_step d

theorem linked_act (d : Debugger) (action : Action) :
    Linked (if action.restarts then .withProgram d.session.program else d.machine)
      (d.attemptsOf action) (d.act action).machine := by
  rw [machine, machine]
  rcases act_cases d action with ⟨hrestarts, hattempts, hsession⟩ |
    ⟨hrestarts, hattempts, hsession⟩ | ⟨hrestarts, hattempts, hsession⟩
  · rw [hrestarts, hattempts, hsession]
    exact .nil _
  · rw [hrestarts, hattempts, hsession]
    exact .nil _
  · rw [hrestarts, hattempts, hsession]
    exact Machine.linked_singleton d.machine d.session.sink

theorem program_act (d : Debugger) (action : Action) :
    (d.act action).session.program = d.session.program := by
  rcases session_act d action with h | h | h <;> rw [h] <;> rfl

/-! ## Any actions -/

theorem output_actions (d : Debugger) (actions : List Action) :
    (actions.foldl act d).session.output.toList =
      (if actions.any Action.restarts then [] else d.session.output.toList) ++
        (printedValues (d.attemptsSinceReset actions)).flatMap numberLine := by
  induction actions generalizing d with
  | nil => exact (List.append_nil _).symm
  | cons action actions ih =>
    rw [List.foldl_cons, ih, output_act, attemptsSinceReset, List.any_cons]
    by_cases hrest : actions.any Action.restarts
    · simp [hrest]
    · by_cases haction : action.restarts
      · simp [hrest, haction, Machine.printedValues_append]
      · simp [hrest, haction, Machine.printedValues_append]

theorem linked_actions (d : Debugger) (actions : List Action) :
    Linked (if actions.any Action.restarts then .withProgram d.session.program else d.machine)
      (d.attemptsSinceReset actions) (actions.foldl act d).machine := by
  induction actions generalizing d with
  | nil => exact .nil _
  | cons action actions ih =>
    have hrest := ih (d.act action)
    rw [program_act] at hrest
    rw [List.foldl_cons, attemptsSinceReset, List.any_cons]
    by_cases h : actions.any Action.restarts
    · rw [if_pos h] at hrest ⊢
      rwa [h, Bool.or_true, if_pos rfl, List.nil_append]
    · rw [if_neg h] at hrest ⊢
      rw [Bool.eq_false_iff.mpr h, Bool.or_false]
      exact (linked_act d action).append hrest

theorem outputLines_eq {s : Session} {values : List UInt8}
    (h : s.output.toList = values.flatMap numberLine) :
    s.outputLines = values.map fun value => toString value.toNat := by
  rw [Session.outputLines, h, Text.lines_numberLines, List.map_map]
  apply List.map_congr_left
  intro value _
  exact String.ofList_toList

/-- **The output has the printed values and nothing else.** A run of a machine, however it ends, adds
to a sink that never refuses one line for each `PRN` that it executes, in order: the value of the
register at that moment, in decimal. So the lines of the debugger's output, whatever was done with it
since it had none, are the values that were printed since the program was last started, and are read
back as such. -/
theorem output_of_values :
    (∀ (m : Machine) (max : Nat) (out : Sink), out.room = none →
      let attempts := Machine.attempts (m.allowance max) m out
      let o := m.runLimited out max
      Linked m attempts o.machine ∧
        o.sink.taken.toList = out.taken.toList ++ (printedValues attempts).flatMap fun value =>
          Utf8.encode (toString value.toNat ++ "\n").toList) ∧
    ∀ (d : Debugger) (actions : List Action), d.session.output = #[] →
      let attempts := d.attemptsSinceReset actions
      let after := actions.foldl act d
      Linked (if actions.any Action.restarts then .withProgram d.session.program else d.machine)
          attempts after.machine ∧
        after.session.outputLines = (printedValues attempts).map (fun value => toString value.toNat) ∧
        after.session.outputLines.map (fun line => Numeral.byte? line.toList) =
          (printedValues attempts).map some := by
  constructor
  · intro m max out hout attempts o
    refine ⟨Machine.linked_attempts _ m out, ?_⟩
    simp only [← Machine.numberLine_eq]
    exact Machine.toList_taken_runFor hout _ m
  · intro d actions hempty attempts after
    have htext : after.session.output.toList = (printedValues attempts).flatMap numberLine := by
      have houtput := output_actions d actions
      rwa [hempty, ite_self, List.nil_append] at houtput
    have hlines := outputLines_eq htext
    refine ⟨linked_actions d actions, hlines, ?_⟩
    rw [hlines, List.map_map]
    apply List.map_congr_left
    intro value _
    exact Numeral.byte?_decimal value

/-- Two numbers and then a byte without a name, once in a run that follows a prompt, and once with
breaks and a reset. -/
theorem output_of_values_after_reset :
    let program : List UInt8 := [0x82, 0, 100, 0x47, 0, 0x82, 1, 7, 0x47, 1, 0xFF]
    let m : Machine := .withProgram program
    let out : Sink := { taken := #[0x3E] }
    let o := m.runLimited out 9
    let actions : List Action :=
      [.run, .tick, .tick, .press (.char 'x'), .step, .press (.char 's'), .addBreakpoint 8, .run,
        .tick, .tick, .step, .step]
    let after := actions.foldl act (start program)
    out.room = none ∧ o.machine.state = .error ∧
      o.sink.taken.toList = [0x3E, 0x31, 0x30, 0x30, 0x0A, 0x37, 0x0A] ∧
      (start program).session.output = #[] ∧ after.machine.state = .error ∧
      after.session.outputLines = ["100", "7"] := by
  intro program m out o actions after
  obtain ⟨hrun, hactions⟩ := output_of_values
  refine ⟨rfl, by decide +kernel, (hrun m 9 out rfl).2.trans ?_, rfl, by decide +kernel,
    (hactions (start program) actions rfl).2.1.trans ?_⟩
  · decide +kernel
  · decide +kernel

end Ls8.Debugger
