import Ls8.Proofs.Machine.Failure

/-!
# Instructions executed in a row

`Trace` follows a machine and one sink through steps that succeed. What the machine does on the way
does not depend on the sink, so a trace is a run of the machine whose `output` the sink has room for
(`trace_iff`). However many steps are asked for, either so many are executed or the machine stops
after fewer (`exists_trace`).
-/

namespace Ls8.Machine

/-- `m` executes some instructions in a row, all of them printing to `out`. -/
inductive Trace : Machine → Sink → List Instruction → Machine → Sink → Prop
  | nil (m : Machine) (out : Sink) : Trace m out [] m out
  | cons {m middle after : Machine} {out written sink : Sink} {i : Instruction}
      {is : List Instruction} :
      m.step out = ⟨middle, written, .ok i⟩ → Trace middle written is after sink →
        Trace m out (i :: is) after sink

/-- The text that instructions print when they are executed in a row. -/
def output (m : Machine) : List Instruction → List UInt8
  | [] => []
  | i :: is => m.printed i ++ (m.next i).output is

/-- After executing `is` the next step fails: the machine has stopped, or it stops now. -/
def StopsAfter (m : Machine) (out : Sink) (is : List Instruction) : Prop :=
  ∃ last written after sink e,
    Trace m out is last written ∧ last.step written = ⟨after, sink, .error e⟩

variable {m middle after : Machine} {i : Instruction} {is js : List Instruction}
  {out written sink : Sink}

@[simp] theorem output_nil : m.output [] = [] := rfl

@[simp] theorem output_cons : m.output (i :: is) = m.printed i ++ (m.next i).output is := rfl

theorem output_append (h : Runs m is middle) :
    m.output (is ++ js) = m.output is ++ middle.output js := by
  induction h with
  | nil m => rfl
  | cons hstep _ ih =>
    obtain ⟨_, _, rfl⟩ := executes_iff.mp hstep
    simp [ih]

/-! ## Traces and runs -/

theorem trace_cons_iff :
    Trace m out (i :: is) after sink ↔
      ∃ middle written, m.step out = ⟨middle, written, .ok i⟩ ∧
        Trace middle written is after sink := by
  constructor
  · rintro ⟨⟩
    exact ⟨_, _, ‹_›, ‹_›⟩
  · rintro ⟨middle, written, h, hs⟩
    exact .cons h hs

/-- A trace is a run for whose output the sink has room. -/
theorem trace_iff :
    Trace m out is after sink ↔
      Runs m is after ∧ out.hasRoom (m.output is) ∧ sink = out.accept (m.output is) := by
  induction is generalizing m out with
  | nil =>
    constructor
    · rintro ⟨⟩
      exact ⟨.nil _, Sink.hasRoom_nil, Sink.accept_nil.symm⟩
    · rintro ⟨⟨⟩, _, rfl⟩
      rw [output_nil, Sink.accept_nil]
      exact .nil _ _
  | cons i is ih =>
    rw [trace_cons_iff, runs_cons_iff, output_cons, Sink.hasRoom_append, Sink.accept_append]
    constructor
    · rintro ⟨middle, written, hstep, hrest⟩
      obtain ⟨hs, hf, hroom, rfl, rfl⟩ := step_eq_ok_iff.mp hstep
      obtain ⟨hruns, hrooms, rfl⟩ := ih.mp hrest
      exact ⟨⟨_, executes_iff.mpr ⟨hs, hf, rfl⟩, hruns⟩, ⟨hroom, hrooms⟩, rfl⟩
    · rintro ⟨⟨middle, hexec, hruns⟩, ⟨hroom, hrooms⟩, rfl⟩
      obtain ⟨hs, hf, rfl⟩ := executes_iff.mp hexec
      exact ⟨_, _, step_eq_ok_iff.mpr ⟨hs, hf, hroom, rfl, rfl⟩, ih.mpr ⟨hruns, hrooms, rfl⟩⟩

theorem Trace.append (h : Trace m out is middle written) (hs : Trace middle written js after sink) :
    Trace m out (is ++ js) after sink := by
  obtain ⟨hruns, hroom, rfl⟩ := trace_iff.mp h
  obtain ⟨hrest, hrooms, rfl⟩ := trace_iff.mp hs
  refine trace_iff.mpr ⟨runs_append_iff.mpr ⟨middle, hruns, hrest⟩, ?_, ?_⟩
  · rw [output_append hruns, Sink.hasRoom_append]
    exact ⟨hroom, hrooms⟩
  · rw [output_append hruns, Sink.accept_append]

theorem Trace.snoc (h : Trace m out is middle written)
    (hstep : middle.step written = ⟨after, sink, .ok i⟩) : Trace m out (is ++ [i]) after sink :=
  h.append (.cons hstep (.nil after sink))

/-! ## What a trace counts -/

theorem Trace.cycles (h : Trace m out is after sink) :
    after.cycles = m.cycles + UInt64.ofNat is.length := by
  induction h with
  | nil m out => exact (UInt64.add_zero m.cycles).symm
  | @cons m middle after out written sink i is hstep _ ih =>
    obtain ⟨_, _, _, _, rfl⟩ := step_eq_ok_iff.mp hstep
    rw [ih, next_cycles, List.length_cons, Nat.add_comm is.length, UInt64.ofNat_add, UInt64.add_assoc]
    rfl

theorem exists_trace (n : Nat) (m : Machine) (out : Sink) :
    (∃ is last written, is.length = n ∧ Trace m out is last written) ∨
      ∃ is, is.length < n ∧ m.StopsAfter out is := by
  induction n generalizing m out with
  | zero => exact .inl ⟨[], m, out, rfl, .nil m out⟩
  | succ n ih =>
    rcases hstep : m.step out with ⟨middle, written, e | i⟩
    · exact .inr ⟨[], by simp, m, out, middle, written, e, .nil m out, hstep⟩
    · rcases ih middle written with ⟨is, last, sink, hlength, h⟩ | ⟨is, hlength, hstops⟩
      · exact .inl ⟨i :: is, last, sink, by simp [hlength], .cons hstep h⟩
      · obtain ⟨last, sink, after, rest, e, h, hfails⟩ := hstops
        exact .inr ⟨i :: is, by simpa using hlength, last, sink, after, rest, e, .cons hstep h,
          hfails⟩

/-! ## What a trace visits -/

/-- Instructions executed in a row, each with its address and the registers after it. -/
def visits (m : Machine) : List Instruction → List Visit
  | [] => []
  | i :: is => ⟨m.regs.pc, i, (m.next i).regs⟩ :: (m.next i).visits is

theorem map_instruction_visits (m : Machine) (is : List Instruction) :
    (m.visits is).map (·.instruction) = is := by
  induction is generalizing m with
  | nil => rfl
  | cons i is ih => exact congrArg (i :: ·) (ih (m.next i))

theorem exists_trace_of_traceFor {n : Nat} {before visited : Array Visit}
    (h : traceFor n m out before = (⟨after, sink, .ok ()⟩, visited)) :
    ∃ is, is.length = n ∧ Trace m out is after sink ∧
      visited.toList = before.toList ++ m.visits is := by
  induction n generalizing m out before with
  | zero =>
    cases h
    exact ⟨[], rfl, .nil _ _, (List.append_nil _).symm⟩
  | succ n ih =>
    rcases hstep : m.step out with ⟨middle, written, e | i⟩
    · rw [traceFor, hstep] at h
      cases h
    · rw [traceFor, hstep] at h
      obtain ⟨is, hlength, htrace, hvisited⟩ := ih h
      obtain ⟨_, _, _, _, rfl⟩ := step_eq_ok_iff.mp hstep
      refine ⟨i :: is, congrArg (· + 1) hlength, .cons hstep htrace, ?_⟩
      rw [hvisited, Array.toList_push, List.append_assoc]
      rfl

end Ls8.Machine
