import Ls8.Proofs.Machine.Attempts

/-!
# The life of a machine

From one reset to the next a machine counts the instructions that it executes, remembers the last of
them, and stops for good at a halt or at a failure. `Accounts` says this of a machine and the results
of the steps that it has tried. An attempt keeps it up (`Accounts.attempt`), and so does a row of them
(`Accounts.linked`). What else can be done with a machine leaves count, last instruction and run
state alone or begins another life (`accounts_act`). `life_accounted`: so it is after any actions.
-/

namespace Ls8

/-- The step found no instruction, or could not print. -/
def StepError.IsFault : StepError → Prop
  | decode .. | output _ => True
  | notRunning _ | missingRegister => False

namespace Machine

abbrev StepResult := Except StepError Instruction

inductive Action where
  | step (out : Sink)
  | run (out : Sink) (max : Nat)
  | reset
  | load (program : List UInt8)
  | push (value : UInt8)
  | pop
  | write (address value : UInt8)
  | setRegister (index value : UInt8)
  | setCounter (address : UInt8)
  | setFlags (value : UInt8)

/-- The machine after an action. A register that does not exist is not set. -/
def act (m : Machine) : Action → Machine
  | .step out => (m.step out).machine
  | .run out max => (m.runLimited out max).machine
  | .reset => m.reset
  | .load program => m.load program
  | .push value => m.push value
  | .pop => m.pop.2
  | .write address value => { m with mem := m.mem.write address value }
  | .setRegister index value => (m.setRegister? index value).getD m
  | .setCounter address => m.jump address
  | .setFlags value => { m with regs.fl := value }

/-- The steps that an action tries. -/
def tries (m : Machine) : Action → List Attempt
  | .step out => [⟨m, out⟩]
  | .run out max => attempts (m.allowance max) m out
  | _ => []

/-- A machine with what the steps have returned that it has tried since its last reset. -/
structure Life where
  machine : Machine
  results : List StepResult

namespace Life

/-- A machine at the start of a program. Without a program it is the one after power-on. -/
def start (program : List UInt8) : Life :=
  ⟨.withProgram program, []⟩

/-- The life after an action. With a reset another one begins. -/
def act (l : Life) (action : Action) : Life where
  machine := l.machine.act action
  results :=
    match action with
    | .step _ | .run .. => l.results ++ (l.machine.tries action).map (·.outcome.result)
    | .reset => []
    | _ => l.results

end Life

/-- The instructions that were executed, going by what the steps returned. -/
def executed (results : List StepResult) : List Instruction :=
  results.filterMap Except.toOption

/-- Count, last instruction and run state are as the results of the steps say. -/
structure Accounts (m : Machine) (results : List StepResult) : Prop where
  cycles : m.cycles = UInt64.ofNat (executed results).length
  last : m.last = (executed results).getLast?
  halted : m.state = .halted ↔ m.last = some .hlt
  error : m.state = .error ↔ ∃ e, .error e ∈ results ∧ e.IsFault

/-- The machine stays as it is until a reset. -/
structure AtRest (m : Machine) : Prop where
  step : ∀ out, m.step out = ⟨m, out, .error (.notRunning m.state)⟩
  run : ∀ out max, m.runLimited out max = ⟨m, out, .ok 0⟩
  lasting : ∀ actions : List Action, .reset ∉ actions → (actions.foldl act m).state = m.state
  reset : m.reset.state = .running

variable {m after : Machine} {as : List Attempt} {results : List StepResult} {out : Sink}

theorem withProgram_nil : withProgram [] = initial := rfl

@[simp] theorem executed_snoc_ok (i : Instruction) :
    executed (results ++ [.ok i]) = executed results ++ [i] := by
  simp [executed, Except.toOption]

@[simp] theorem executed_snoc_error (e : StepError) :
    executed (results ++ [.error e]) = executed results := by
  simp [executed, Except.toOption]

theorem accounts_withProgram (program : List UInt8) : Accounts (withProgram program) [] where
  cycles := rfl
  last := rfl
  halted := by simp [withProgram, load, initial]
  error := by simp [withProgram, load, initial]

theorem accounts_initial : Accounts initial [] :=
  withProgram_nil ▸ accounts_withProgram []

theorem Accounts.congr (h : Accounts m results) (hcycles : after.cycles = m.cycles)
    (hlast : after.last = m.last) (hstate : after.state = m.state) : Accounts after results where
  cycles := hcycles ▸ h.cycles
  last := hlast ▸ h.last
  halted := by
    rw [hstate, hlast]
    exact h.halted
  error := by
    rw [hstate]
    exact h.error

/-! ## One action -/

theorem Accounts.attempt (h : Accounts m results) (out : Sink) :
    Accounts (m.step out).machine (results ++ [(m.step out).result]) := by
  obtain ⟨hcycles, hlast, hhalted, herror⟩ := h
  rcases hstep : m.step out with ⟨after, sink, e | i⟩
  · rcases step_eq_error_iff.mp hstep with ⟨hs, rfl, _, rfl⟩ | ⟨hs, rfl, hcause⟩
    · refine ⟨?_, ?_, hhalted, ?_⟩
      · rw [executed_snoc_error, hcycles]
      · rw [executed_snoc_error, hlast]
      · rw [herror]
        simp [StepError.IsFault, or_and_right, exists_or]
    · have hfault : e.IsFault := by
        rcases hcause with ⟨_, _, _, rfl⟩ | ⟨_, _, _, _, rfl⟩ <;> trivial
      have hlast' : m.last ≠ some .hlt := fun hhlt => by
        simp [hhalted.mpr hhlt] at hs
      refine ⟨?_, ?_, ?_, ?_⟩
      · rw [executed_snoc_error]
        exact hcycles
      · rw [executed_snoc_error]
        exact hlast
      · simpa [fail] using hlast'
      · simp only [fail, true_iff]
        exact ⟨e, by simp, hfault⟩
  · obtain ⟨hs, _, _, _, rfl⟩ := step_eq_ok_iff.mp hstep
    have hlast' : (m.next i).last = some i := rfl
    have hclean : ¬∃ e, .error e ∈ results ∧ e.IsFault := by
      rw [← herror, hs]
      simp
    refine ⟨?_, ?_, ?_, ?_⟩
    · rw [next_cycles, hcycles, executed_snoc_ok, List.length_append, UInt64.ofNat_add]
      rfl
    · rw [executed_snoc_ok, List.getLast?_concat]
      exact hlast'
    · rw [next_state, hlast', hs]
      split <;> simp [*]
    · have hstate : (m.next i).state ≠ .error := by
        rw [next_state, hs]
        split <;> simp
      exact iff_of_false hstate (by simpa using hclean)

theorem Accounts.linked (h : Linked m as after) (hm : Accounts m results) :
    Accounts after (results ++ as.map (·.outcome.result)) := by
  induction h generalizing results with
  | nil m => simpa using hm
  | cons a _ ih =>
    rw [List.map_cons, List.append_cons]
    exact ih (hm.attempt a.sink)

theorem setRegister?_getD (m : Machine) (index value : UInt8) :
    (m.setRegister? index value).getD m = { m with regs := m.regs.update index value } := by
  rw [setRegister?, Registers.update]
  cases m.regs.set? index value <;> rfl

theorem accounts_act {l : Life} (h : Accounts l.machine l.results) (action : Action) :
    Accounts (l.act action).machine (l.act action).results := by
  cases action with
  | step out => exact h.linked (linked_singleton l.machine out)
  | run out max => exact h.linked (linked_attempts _ l.machine out)
  | reset => exact accounts_initial
  | load | push | pop | write | setCounter | setFlags => exact h.congr rfl rfl rfl
  | setRegister index value =>
    simp only [Life.act, act, setRegister?_getD]
    exact h.congr rfl rfl rfl

theorem accounts_foldl_act (actions : List Action) {l : Life} (h : Accounts l.machine l.results) :
    Accounts (actions.foldl Life.act l).machine (actions.foldl Life.act l).results := by
  induction actions generalizing l with
  | nil => exact h
  | cons action actions ih => exact ih (accounts_act h action)

/-! ## Machines that have stopped -/

theorem runLimited_of_stopped (h : m.state ≠ .running) (out : Sink) (max : Nat) :
    m.runLimited out max = ⟨m, out, .ok 0⟩ := by
  rw [runLimited, runFor_of_stopped h, counted, Except.map, UInt64.sub_self]

theorem state_act_of_stopped (h : m.state ≠ .running) {action : Action} (ha : action ≠ .reset) :
    (m.act action).state = m.state := by
  cases action with
  | step out => rw [act, step_of_stopped h]
  | run out max => rw [act, runLimited_of_stopped h]
  | reset => exact absurd rfl ha
  | load | push | pop | write | setCounter | setFlags => rfl
  | setRegister index value => rw [act, setRegister?_getD]

theorem state_foldl_act_of_stopped {actions : List Action} (h : m.state ≠ .running)
    (ha : .reset ∉ actions) : (actions.foldl act m).state = m.state := by
  induction actions generalizing m with
  | nil => rfl
  | cons action actions ih =>
    obtain ⟨hfirst, hrest⟩ := not_or.mp (ha ∘ List.mem_cons.mpr)
    have hstate := state_act_of_stopped h (Ne.symm hfirst)
    rw [List.foldl_cons, ih (hstate ▸ h) hrest, hstate]

theorem atRest_of_stopped (h : m.state ≠ .running) : m.AtRest where
  step := step_of_stopped h
  run := runLimited_of_stopped h
  lasting _ := state_foldl_act_of_stopped h
  reset := rfl

/-! ## A whole life -/

theorem machine_foldl_act (actions : List Action) (l : Life) :
    (actions.foldl Life.act l).machine = actions.foldl act l.machine := by
  induction actions generalizing l with
  | nil => rfl
  | cons action actions ih => exact ih (l.act action)

theorem Accounts.cycles_of_fits (h : Accounts m results)
    (hfits : (executed results).length < UInt64.size) :
    m.cycles.toNat = (executed results).length ∧ (m.last = none ↔ m.cycles = 0) := by
  have hcount : m.cycles.toNat = (executed results).length := by
    rw [h.cycles, UInt64.toNat_ofNat_of_lt' hfits]
  refine ⟨hcount, ?_⟩
  rw [h.last, List.getLast?_eq_none_iff, ← List.length_eq_zero_iff, ← hcount]
  exact UInt64.toNat_inj (b := 0)

/-- **A machine accounts for its life.** Do anything with a machine that is new or at the start of a
program, in any order and with any sinks. Count, last instruction and run state are then as the steps
since the last reset say, those of runs among them. The count is exact as long as it fits, and there
is a last instruction then unless the count is zero. Once the machine has stopped, steps and runs
change nothing, and only with a reset does it go on. -/
theorem life_accounted (program : List UInt8) (actions : List Action) :
    let l := actions.foldl Life.act (.start program)
    l.machine = actions.foldl act (withProgram program) ∧
      Accounts l.machine l.results ∧
      ((executed l.results).length < UInt64.size →
        l.machine.cycles.toNat = (executed l.results).length ∧
          (l.machine.last = none ↔ l.machine.cycles = 0)) ∧
      (l.machine.state ≠ .running → l.machine.AtRest) := by
  intro l
  have haccounts : Accounts l.machine l.results :=
    accounts_foldl_act actions (accounts_withProgram program)
  exact ⟨machine_foldl_act actions _, haccounts, haccounts.cycles_of_fits, atRest_of_stopped⟩

/-- A line is refused, after one instruction and a jump over the next, and a push comes afterwards. -/
theorem life_accounted_refused_line :
    let actions : List Action :=
      [.run .unlimited 1, .setCounter 4, .step (.limited 0 .nothing), .push 5]
    let l := actions.foldl Life.act (.start [0x82, 0, 8, 0x01, 0x47, 0])
    l.results = [.ok (.ldi 0 8), .error (.output .nothing)] ∧
      l.machine.cycles.toNat = 1 ∧ l.machine.last = some (.ldi 0 8) ∧ l.machine.state = .error ∧
      l.machine.AtRest := by
  intro actions l
  obtain ⟨_, haccounts, hfits, hrest⟩ := life_accounted [0x82, 0, 8, 0x01, 0x47, 0] actions
  have hresults : l.results = [.ok (.ldi 0 8), .error (.output .nothing)] := by rfl
  have hdone : executed l.results = [.ldi 0 8] := by rw [hresults]; rfl
  have herror : l.machine.state = .error :=
    haccounts.error.mpr ⟨.output .nothing, by rw [hresults]; simp, trivial⟩
  refine ⟨hresults, ?_, ?_, herror, hrest (by rw [herror]; decide)⟩
  · rw [(hfits (by rw [hdone]; decide)).1, hdone]
    rfl
  · rw [haccounts.last, hdone]
    rfl

end Machine

end Ls8
