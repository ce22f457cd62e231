import Ls8.Proofs.Machine.Step
import Ls8.Proofs.Output

/-!
# Steps that fail

A step fails because the machine has stopped, because there is no instruction at the counter, or
because the sink does not take all of a number that is printed (`step_eq_error_iff`). Nothing is
executed before one of these turns up, so `step_error_atomic`: a step that fails changes the run
state and nothing else of the machine.
-/

namespace Ls8.Machine

variable {m after : Machine} {i : Instruction} {out sink : Sink} {e : StepError}

theorem exists_prn_of_printed (h : m.printed i ≠ []) : ∃ reg, i = .prn reg := by
  cases i with
  | prn reg => exact ⟨reg, rfl⟩
  | hlt | ldi | mul | add | pop | push | call | ret => exact absurd rfl h

theorem printed_prn {reg : UInt8} (h : m.fetch = .ok (.prn reg)) :
    m.printed (.prn reg) = Utf8.encode (toString (m.regs.value reg).toNat ++ "\n").toList := by
  have hreg : reg < 8 := (fetch_eq_ok_iff.mp h).2 reg (by simp [Instruction.registers])
  rw [printed, Registers.get?_of_lt hreg, Option.elim_some, numberLine_eq]

/-- **A step fails** exactly when the machine has stopped, when there is no instruction at the
counter, or when the sink has no room for the number to print. -/
theorem step_eq_error_iff :
    m.step out = ⟨after, sink, .error e⟩ ↔
      m.state ≠ .running ∧ after = m ∧ sink = out ∧ e = .notRunning m.state ∨
      m.state = .running ∧ after = m.fail ∧
        ((∃ cause, m.fetch = .error cause ∧ sink = out ∧ e = .decode m.regs.pc cause) ∨
          ∃ reg, m.fetch = .ok (.prn reg) ∧ ¬ out.hasRoom (m.printed (.prn reg)) ∧
            sink = out.accept (m.printed (.prn reg)) ∧ e = .output out.refusal) := by
  by_cases hs : m.state = .running
  · cases hf : m.fetch with
    | error cause =>
      simp only [step, hs, hf]
      grind
    | ok i =>
      rw [step_of_fetch hs hf]
      by_cases hroom : out.hasRoom (m.printed i)
      · rw [if_pos hroom]
        grind
      · have hprinted : m.printed i ≠ [] := fun h => hroom (h ▸ Sink.hasRoom_nil)
        obtain ⟨reg, rfl⟩ := exists_prn_of_printed hprinted
        rw [if_neg hroom]
        grind
  · simp only [step, hs]
    grind

theorem step_of_stopped (h : m.state ≠ .running) (out : Sink) :
    m.step out = ⟨m, out, .error (.notRunning m.state)⟩ :=
  step_eq_error_iff.mpr (.inl ⟨h, rfl, rfl, rfl⟩)

theorem step_of_fetch_error {cause : DecodeError} (hs : m.state = .running)
    (hf : m.fetch = .error cause) (out : Sink) :
    m.step out = ⟨m.fail, out, .error (.decode m.regs.pc cause)⟩ :=
  step_eq_error_iff.mpr (.inr ⟨hs, rfl, .inl ⟨cause, hf, rfl, rfl⟩⟩)

theorem step_of_room_none (hs : m.state = .running) (hf : m.fetch = .ok i)
    (hout : out.room = none) :
    m.step out = ⟨m.next i, out.accept (m.printed i), .ok i⟩ :=
  step_eq_ok_iff.mpr ⟨hs, hf, Sink.hasRoom_of_room_none hout _, rfl, rfl⟩

theorem step_eq_decode {address : UInt8} {cause : DecodeError}
    (h : m.step out = ⟨after, sink, .error (.decode address cause)⟩) :
    m.fetch = .error cause ∧ address = m.regs.pc := by
  rcases step_eq_error_iff.mp h with ⟨_, _, _, heq⟩ | ⟨_, _, ⟨cause', hf, _, heq⟩ | ⟨_, _, _, _, heq⟩⟩
  · cases heq
  · cases heq
    exact ⟨hf, rfl⟩
  · cases heq

theorem step_error_stops (h : m.step out = ⟨after, sink, .error e⟩) :
    after.state ≠ .running ∧ after.cycles = m.cycles := by
  rcases step_eq_error_iff.mp h with ⟨hs, rfl, _⟩ | ⟨_, rfl, _⟩
  · exact ⟨hs, rfl⟩
  · exact ⟨by simp [fail], rfl⟩

theorem step_error_of_room_none (h : m.step out = ⟨after, sink, .error e⟩) (hout : out.room = none) :
    sink = out ∧ ∀ other : Sink, m.step other = ⟨after, other, .error e⟩ := by
  rcases step_eq_error_iff.mp h with
    ⟨hs, rfl, rfl, rfl⟩ | ⟨hs, rfl, ⟨cause, hf, rfl, rfl⟩ | ⟨reg, _, hfull, _⟩⟩
  · exact ⟨rfl, fun other => step_eq_error_iff.mpr (.inl ⟨hs, rfl, rfl, rfl⟩)⟩
  · exact ⟨rfl, fun other => step_eq_error_iff.mpr (.inr ⟨hs, rfl, .inl ⟨cause, hf, rfl, rfl⟩⟩)⟩
  · exact absurd (Sink.hasRoom_of_room_none hout _) hfull

/-- **A failed step is atomic.** Registers, memory, the count of instructions and the last one are
as they were. A machine that has stopped stays as it is, and so does the sink; else the machine is
in the error state, either because there is no instruction at the counter, and then the sink is as
it was, or because of a number to print, and then the sink has taken a proper part of its line. -/
theorem step_error_atomic (h : m.step out = ⟨after, sink, .error e⟩) :
    after.regs = m.regs ∧ after.mem = m.mem ∧ after.cycles = m.cycles ∧ after.last = m.last ∧
      ((∃ state, e = .notRunning state) ↔ m.state ≠ .running) ∧
      (m.state ≠ .running → e = .notRunning m.state ∧ after.state = m.state ∧ sink = out) ∧
      (m.state = .running → after.state = .error ∧
        ((∃ cause, m.fetch = .error cause ∧ e = .decode m.regs.pc cause ∧ sink = out) ∨
          ∃ reg, ∃ written : List UInt8, m.fetch = .ok (.prn reg) ∧ e = .output out.refusal ∧
            let line := Utf8.encode (toString (m.regs.value reg).toNat ++ "\n").toList
            sink.taken = out.taken ++ written ∧ written <+: line ∧
              written.length < line.length)) := by
  rcases step_eq_error_iff.mp h with ⟨hs, rfl, rfl, rfl⟩ | ⟨hs, rfl, hcause⟩
  · simp [hs]
  · refine ⟨rfl, rfl, rfl, rfl, ?_, fun hstopped => absurd hs hstopped, fun _ => ⟨rfl, ?_⟩⟩
    · rcases hcause with ⟨cause, _, _, rfl⟩ | ⟨reg, _, _, _, rfl⟩ <;> simp [hs]
    · rcases hcause with ⟨cause, hf, rfl, rfl⟩ | ⟨reg, hf, hroom, rfl, rfl⟩
      · exact .inl ⟨cause, hf, rfl, rfl⟩
      · obtain ⟨written, htaken, hbegin, hlength⟩ := Sink.exists_taken_of_no_room hroom
        rw [printed_prn hf] at hbegin hlength
        exact .inr ⟨reg, written, hf, rfl, htaken, hbegin, hlength⟩

theorem step_error_after_digit :
    let m : Machine :=
      { withProgram [0x47, 2] with regs := ⟨#v[0, 0, 72, 0, 0, 0, 0, 0xF4], 0, 0⟩ }
    ∃ after sink, m.step (.limited 1 .nothing) = ⟨after, sink, .error (.output .nothing)⟩ ∧
      after.regs = m.regs ∧ after.mem = m.mem ∧ after.cycles = m.cycles ∧ after.last = m.last ∧
      sink.taken.toList = [0x37] := by
  intro m
  have h : m.step (.limited 1 .nothing) =
      ⟨m.fail, ⟨#[0x37], some 0, .nothing⟩, .error (.output .nothing)⟩ :=
    step_eq_error_iff.mpr <| .inr ⟨rfl, rfl, .inr
      ⟨2, fetch_eq_ok_iff.mpr (by decide +kernel), by decide +kernel, by decide +kernel, rfl⟩⟩
  obtain ⟨hregs, hmem, hcycles, hlast, _⟩ := step_error_atomic h
  exact ⟨_, _, h, hregs, hmem, hcycles, hlast, rfl⟩

end Ls8.Machine
