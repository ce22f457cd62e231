import Ls8.Proofs.Debugger.Step
import Ls8.Proofs.Machine.RegisterUse
import Ls8.Proofs.Snapshot.Restoring

/-!
# Calls that execute instructions

A machine goes on by itself, in its session or under the debugger, in any order. Whatever the
`Call`, it is a row of attempts at a step (`linked_perform`), and so are any calls one after the
other (`linked_calls`). `registers_in_range`: none of these attempts asks for a register that does
not exist, from whatever machine the calls begin.
-/

namespace Ls8.Debugger

open Machine (Attempt Linked)

/-- What makes the machine go on. -/
inductive Call where
  | machineStep (out : Sink)
  | machineRun (out : Sink) (max : Nat)
  | sessionStep
  | sessionRun (max : Nat)
  | step
  | tick

/-- The debugger after a call. -/
def perform (d : Debugger) : Call → Debugger
  | .machineStep out => { d with session.machine := (d.machine.step out).machine }
  | .machineRun out max => { d with session.machine := (d.machine.runLimited out max).machine }
  | .sessionStep => { d with session := d.session.step.2 }
  | .sessionRun max => { d with session := (d.session.run max).2 }
  | .step => d.step
  | .tick => d.tick

/-- The steps that a call tries. -/
def tries (d : Debugger) : Call → List Attempt
  | .machineStep out => [⟨d.machine, out⟩]
  | .machineRun out max => Machine.attempts (d.machine.allowance max) d.machine out
  | .sessionStep => [d.attempt]
  | .sessionRun max => Machine.attempts (d.machine.allowance max) d.machine d.session.sink
  | .step => if d.machine.isRunning then [d.attempt] else []
  | .tick => if d.goesOn then [d.attempt] else []

/-- The steps that calls try, one call after the other. -/
def attempts (d : Debugger) : List Call → List Attempt
  | [] => []
  | call :: calls => d.tries call ++ (d.perform call).attempts calls

variable {d : Debugger}

theorem linked_step (h : d.machine.isRunning) : Linked d.machine [d.attempt] d.step.machine := by
  rw [machine, machine, session_step h]
  exact Machine.linked_singleton d.machine d.session.sink

theorem linked_perform (d : Debugger) (call : Call) :
    Linked d.machine (d.tries call) (d.perform call).machine := by
  cases call with
  | machineStep out => exact Machine.linked_singleton d.machine out
  | sessionStep => exact Machine.linked_singleton d.machine d.session.sink
  | machineRun out max => exact Machine.linked_attempts _ d.machine out
  | sessionRun max => exact Machine.linked_attempts _ d.machine d.session.sink
  | step =>
    by_cases h : d.machine.isRunning
    · rw [tries, if_pos h]
      exact linked_step h
    · rw [tries, if_neg h, perform, machine, machine, session_step_of_stopped h]
      exact .nil _
  | tick =>
    by_cases h : d.goesOn
    · rw [tries, if_pos h, perform, tick_of_goesOn h]
      exact linked_step (goesOn_iff.mp h).2.1
    · obtain ⟨status, htick⟩ := tick_of_not_goesOn h
      rw [tries, if_neg h, perform, htick]
      exact .nil _

theorem attempts_append (d : Debugger) (calls more : List Call) :
    d.attempts (calls ++ more) = d.attempts calls ++ (calls.foldl perform d).attempts more := by
  induction calls generalizing d with
  | nil => rfl
  | cons call calls ih =>
    rw [List.cons_append, attempts, attempts, List.foldl_cons, ih, List.append_assoc]

theorem linked_calls (d : Debugger) (calls : List Call) :
    Linked d.machine (d.attempts calls) (calls.foldl perform d).machine := by
  induction calls generalizing d with
  | nil => exact .nil _
  | cons call calls ih => exact (linked_perform d call).append (ih (d.perform call))

/-- **Every register asked for exists.** Let calls make a machine go on in any order, whatever its
registers, its memory and its last instruction are, as in a machine that was read from a snapshot,
and whatever the sinks. The machine comes from one state to the other by the steps that the calls
try. None of these asks for a register above 7, so none fails for that reason, and the instruction
that it returns, if it does, names registers up to 7 only. -/
theorem registers_in_range (d : Debugger) (calls : List Call) :
    Linked d.machine (d.attempts calls) (calls.foldl perform d).machine ∧
      ∀ a ∈ d.attempts calls,
        (∀ r ∈ a.machine.asked, r < 8) ∧
          a.outcome.result ≠ .error .missingRegister ∧
          ∀ i, a.outcome.result = .ok i → ∀ r ∈ i.registers, r < 8 :=
  ⟨linked_calls d calls, fun a _ =>
    ⟨a.machine.asked_lt, a.machine.step_ne_missingRegister a.sink, fun _ =>
      Machine.registers_lt_of_step⟩⟩

/-- A machine that was read from a snapshot with an impossible last instruction, and that puts an
opcode before a number which is no register. -/
theorem registers_in_range_restored :
    let m : Machine :=
      { Machine.withProgram [0xA0, 0, 1, 0x45, 0, 0, 9] with
        regs := ⟨#v[0x40, 6, 0, 0, 0, 0, 0, 6], 0, 0⟩
        last := some (.mul 200 9) }
    let d : Debugger := { start [] with session := ⟨[], m, #[]⟩, running := true }
    let calls : List Call := [.machineStep (.limited 0 .nothing), .tick, .sessionRun 5]
    Snapshot.readMachine (Snapshot.ofMachine m) = .ok m ∧
      (d.attempts calls).map (·.machine.asked) = [[0, 1, 0], [0], []] ∧
      ∀ a ∈ d.attempts calls, ∀ r ∈ a.machine.asked, r < 8 := by
  intro m d calls
  exact ⟨Snapshot.readMachine_ofMachine m, by decide +kernel, fun a ha =>
    ((registers_in_range d calls).2 a ha).1⟩

end Ls8.Debugger
