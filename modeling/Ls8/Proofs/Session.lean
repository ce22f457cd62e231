import Ls8.Proofs.Machine.Trace
import Ls8.Session

/-!
# Sessions follow their programs

`Follows`: a session stands where its program comes to by executing some instructions, after one
more step if that one failed. It does so at its start, and a step keeps it up with one instruction
more at most (`Follows.step`).
-/

namespace Ls8.Session

open Machine (Trace)

/-- Machine and output are those of the program after executing `is` from its start. If the machine
is in the error state, one more step has failed since and brought it there. -/
def Follows (s : Session) (is : List Instruction) : Prop :=
  ∃ last, Trace (.withProgram s.program) .unlimited is last s.sink ∧
    (s.machine.state ≠ .error ∧ s.machine = last ∨
      s.machine.state = .error ∧ ∃ e, last.step s.sink = ⟨s.machine, s.sink, .error e⟩)

variable {s : Session} {is : List Instruction}

theorem follows_start (program : List UInt8) : (start program).Follows [] :=
  ⟨_, .nil _ _, .inl ⟨by simp [start, Machine.withProgram, Machine.load, Machine.initial], rfl⟩⟩

theorem Follows.cycles (h : s.Follows is) : s.machine.cycles = UInt64.ofNat is.length := by
  obtain ⟨last, htrace, hend⟩ := h
  have hlast : last.cycles = UInt64.ofNat is.length := by
    rw [htrace.cycles]
    exact UInt64.zero_add _
  rcases hend with ⟨_, rfl⟩ | ⟨_, e, hstep⟩
  · exact hlast
  · rw [← hlast, (Machine.step_error_stops hstep).2]

theorem Follows.toNat_cycles (h : s.Follows is) (hfits : is.length < UInt64.size) :
    s.machine.cycles.toNat = is.length := by
  rw [h.cycles, UInt64.toNat_ofNat_of_lt' hfits]

theorem step_snd {after : Machine} {sink : Sink} {result : Except StepError Instruction}
    (h : s.machine.step s.sink = ⟨after, sink, result⟩) :
    s.step.2 = { s with machine := after, output := sink.taken } := by
  rw [step, h]
  rfl

theorem sink_after {α : Type} {o : Outcome α} {text : List UInt8}
    (h : o.sink = s.sink.accept text) : (s.after o).sink = o.sink := by
  rw [sink, after, h, Sink.accept_of_room_none rfl]
  rfl

theorem sink_step (s : Session) : s.step.2.sink = (s.machine.step s.sink).sink := by
  rcases hstep : s.machine.step s.sink with ⟨after, sink, e | i⟩
  · obtain ⟨rfl, _⟩ := Machine.step_error_of_room_none hstep rfl
    rw [step_snd hstep]
    rfl
  · obtain ⟨_, _, _, hsink, _⟩ := Machine.step_eq_ok_iff.mp hstep
    rw [step_snd hstep]
    exact sink_after (o := ⟨after, sink, Except.ok i⟩) hsink

theorem Follows.step (h : s.Follows is) :
    ∃ js, js.length ≤ is.length + 1 ∧ s.step.2.Follows js := by
  obtain ⟨last, htrace, hend⟩ := h
  rcases hstep : s.machine.step s.sink with ⟨after, sink, e | i⟩
  · rw [step_snd hstep]
    rcases Machine.step_eq_error_iff.mp hstep with ⟨_, rfl, rfl, _⟩ | ⟨hs, rfl, _⟩
    · exact ⟨is, Nat.le_succ _, last, htrace, hend⟩
    · obtain ⟨rfl, _⟩ := Machine.step_error_of_room_none hstep rfl
      rcases hend with ⟨_, rfl⟩ | ⟨herror, _⟩
      · exact ⟨is, Nat.le_succ _, s.machine, htrace, .inr ⟨rfl, e, hstep⟩⟩
      · simp [hs] at herror
  · obtain ⟨hs, _, _, hsink, rfl⟩ := Machine.step_eq_ok_iff.mp hstep
    rw [step_snd hstep]
    rcases hend with ⟨_, rfl⟩ | ⟨herror, _⟩
    · have hsame := sink_after (o := ⟨s.machine.next i, sink, .ok i⟩) hsink
      have hnext : (s.machine.next i).state ≠ .error := by
        rw [Machine.next_state, hs]
        split <;> simp
      refine ⟨is ++ [i], by simp, s.machine.next i, ?_, .inl ⟨hnext, rfl⟩⟩
      exact hsame ▸ htrace.snoc hstep
    · simp [hs] at herror

end Ls8.Session
