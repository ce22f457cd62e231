import Ls8.Proofs.Machine.Run

/-!
# Sinks that fill up

A run before a sink with a limit is the run before a sink without one, as far as the output fits.
`runLimited_cut`: if the output does not fit, the sink ends with as much of it as it can take, and
the machine stands at the instruction that prints the first octet that was not taken.

What the machine executes does not depend on the sink as long as there is room
(`exists_output_runFor`). So the two runs are compared at one list of instructions, and this list is
cut where its output passes the limit (`exists_cut`).
-/

namespace Ls8.Machine

variable {m : Machine} {is : List Instruction} {limit : Nat} {refusal : Refusal}

theorem exists_output_runFor (n : Nat) (m : Machine) :
    ∃ is last after result, Runs m is last ∧ is.length ≤ n ∧
      ∀ out : Sink, out.hasRoom (m.output is) →
        runFor n m out = ⟨after, out.accept (m.output is), result⟩ := by
  rcases exists_trace n m .unlimited with ⟨is, last, written, rfl, htrace⟩ | ⟨is, hlt, hstops⟩
  · obtain ⟨hruns, _⟩ := trace_iff.mp htrace
    exact ⟨is, last, last, .ok (), hruns, Nat.le_refl _, fun out hroom =>
      runFor_length (trace_iff.mpr ⟨hruns, hroom, rfl⟩)⟩
  · obtain ⟨last, written, after, sink, e, htrace, hstep⟩ := hstops
    obtain ⟨hruns, _, rfl⟩ := trace_iff.mp htrace
    obtain ⟨_, hfails⟩ := step_error_of_room_none hstep (Sink.accept_room_none rfl _)
    refine ⟨is, last, after, if last.state = .running then .error e else .ok (), hruns,
      Nat.le_of_lt hlt, fun out hroom => ?_⟩
    exact runFor_of_failure (trace_iff.mpr ⟨hruns, hroom, rfl⟩) (hfails _) hlt

theorem exists_output_runLimited (n : Nat) (m : Machine) :
    ∃ is last after result, Runs m is last ∧ is.length ≤ m.allowance n ∧
      ∀ out : Sink, out.hasRoom (m.output is) →
        m.runLimited out n = ⟨after, out.accept (m.output is), result⟩ := by
  obtain ⟨is, last, after, result, hruns, hle, hrun⟩ := exists_output_runFor (m.allowance n) m
  refine ⟨is, last, after, result.map fun _ => after.cycles - m.cycles, hruns, hle,
    fun out hroom => ?_⟩
  rw [runLimited, hrun out hroom, counted]

theorem exists_cut (h : limit < (m.output is).length) :
    ∃ before reg after, is = before ++ .prn reg :: after ∧ (m.output before).length ≤ limit ∧
      limit < (m.output (before ++ [.prn reg])).length := by
  induction is generalizing m limit with
  | nil => simp at h
  | cons i is ih =>
    by_cases hfirst : limit < (m.printed i).length
    · have hprinted : m.printed i ≠ [] := List.ne_nil_of_length_pos (by omega)
      obtain ⟨reg, rfl⟩ := exists_prn_of_printed hprinted
      exact ⟨[], reg, is, rfl, Nat.zero_le _, by simpa using hfirst⟩
    · rw [output_cons, List.length_append] at h
      have hrest : limit - (m.printed i).length < ((m.next i).output is).length := by omega
      obtain ⟨before, reg, after, rfl, hbefore, hafter⟩ := ih hrest
      refine ⟨i :: before, reg, after, rfl, ?_, ?_⟩
      · rw [output_cons, List.length_append]
        omega
      · rw [List.cons_append, output_cons, List.length_append]
        omega

/-- A run before a limited sink goes as far as there is room, and fails at the next output. -/
theorem runFor_cut {before after : List Instruction} {reg : UInt8} {middle last : Machine} {n : Nat}
    (refusal : Refusal) (hfirst : Runs m before middle) (hrest : Runs middle (.prn reg :: after) last)
    (hle : before.length < n) (hbefore : (m.output before).length ≤ limit)
    (hafter : limit < (m.output before ++ middle.printed (.prn reg)).length) :
    runFor n m (.limited limit refusal) =
      ⟨middle.fail,
        (Sink.limited limit refusal).accept (m.output before ++ middle.printed (.prn reg)),
        .error (.output refusal)⟩ := by
  obtain ⟨_, hexec, _⟩ := runs_cons_iff.mp hrest
  obtain ⟨hs, hf, _⟩ := executes_iff.mp hexec
  have hroom : (Sink.limited limit refusal).hasRoom (m.output before) :=
    Sink.hasRoom_limited.mpr hbefore
  have hfull : ¬ ((Sink.limited limit refusal).accept (m.output before)).hasRoom
      (middle.printed (.prn reg)) := by
    intro h
    have hfits := Sink.hasRoom_limited.mp ((Sink.hasRoom_append _ _).mpr ⟨hroom, h⟩)
    omega
  have hfails := step_eq_error_iff.mpr (.inr ⟨hs, rfl, .inr ⟨reg, hf, hfull, rfl, rfl⟩⟩)
  rw [runFor_of_failure (trace_iff.mpr ⟨hfirst, hroom, rfl⟩) hfails hle, if_pos hs,
    Sink.accept_append, Sink.accept_refusal]
  rfl

/-- **A full sink cuts a run at one place.** Let `text` be the output of a run before a sink that is
never full. Before a sink for `limit` octets the run has the same result, machine and output if the
text fits. Else the sink ends with the first `limit` octets of it, the run fails with the refusal,
and the machine, but for its run state, is the one just before the instruction of the first run that
prints the first octet beyond them. -/
theorem runLimited_cut (m : Machine) (n limit : Nat) (refusal : Refusal) :
    let free := m.runLimited .unlimited n
    let cut := m.runLimited (.limited limit refusal) n
    let text := free.sink.taken.toList
    (text.length ≤ limit →
      cut.result = free.result ∧ cut.machine = free.machine ∧
        cut.sink.taken = free.sink.taken) ∧
    (limit < text.length →
      cut.sink.taken.toList = text.take limit ∧ cut.result = .error (.output refusal) ∧
        ∃ before reg after middle written last,
          Trace m .unlimited before middle written ∧
          Trace middle written (.prn reg :: after) last free.sink ∧
          (before ++ .prn reg :: after).length ≤ n ∧
          cut.machine = { middle with state := .error } ∧
          let line := Utf8.encode (toString (middle.regs.value reg).toNat ++ "\n").toList
          written.taken.size ≤ limit ∧ limit < written.taken.size + line.length) := by
  obtain ⟨is, last, after, result, hruns, hle, hrun⟩ := exists_output_runLimited n m
  have hfree := hrun .unlimited (Sink.hasRoom_of_room_none rfl _)
  intro free cut text
  -- `is` is what the run executes before a sink that is never full, and `text` is its output
  have htext : text = m.output is := by
    simp only [text, free, hfree, Sink.toList_taken_unlimited]
  refine ⟨fun hfits => ?_, fun hlong => ?_⟩
  · have hcut := hrun (.limited limit refusal) (Sink.hasRoom_limited.mpr (htext ▸ hfits))
    simp only [cut, free, hcut, hfree, true_and]
    apply Array.toList_inj.mp
    rw [Sink.toList_taken_limited, Sink.toList_taken_unlimited]
    exact List.take_of_length_le (htext ▸ hfits)
  · rw [htext] at hlong
    obtain ⟨before, reg, rest, rfl, hbefore, hafter⟩ := exists_cut hlong
    obtain ⟨middle, hfirst, hrest⟩ := runs_append_iff.mp hruns
    obtain ⟨_, hexec, _⟩ := runs_cons_iff.mp hrest
    obtain ⟨_, hf, _⟩ := executes_iff.mp hexec
    rw [output_append hfirst, output_cons, output_nil, List.append_nil] at hafter
    rw [output_append hfirst, output_cons, ← List.append_assoc] at htext
    have hlt : before.length < m.allowance n := by
      rw [List.length_append, List.length_cons] at hle
      omega
    have hallowed : m.allowance n ≤ n := Nat.min_le_left _ _
    simp only [cut, runLimited, runFor_cut refusal hfirst hrest hlt hbefore hafter, counted]
    refine ⟨?_, rfl, before, reg, rest, middle, Sink.unlimited.accept (m.output before), last,
      trace_iff.mpr ⟨hfirst, Sink.hasRoom_of_room_none rfl _, rfl⟩,
      trace_iff.mpr ⟨hrest, Sink.hasRoom_of_room_none (Sink.accept_room_none rfl _) _, ?_⟩,
      Nat.le_trans hle hallowed, rfl, ?_⟩
    · rw [Sink.toList_taken_limited, htext, List.take_append_of_le_length (Nat.le_of_lt hafter)]
    · simp only [free, hfree]
      rw [← Sink.accept_append, output_append hfirst]
    · rw [printed_prn hf, List.length_append] at hafter
      rw [← Array.length_toList, Sink.toList_taken_unlimited]
      exact ⟨hbefore, hafter⟩

theorem runLimited_cut_second_number :
    let m := withProgram [0x82, 0, 72, 0x47, 0, 0x47, 0, 0x01]
    let text := (m.runLimited .unlimited 9).sink.taken.toList
    let cut := m.runLimited (.limited 4 .nothing) 9
    4 < text.length ∧ cut.sink.taken.toList = text.take 4 ∧
      cut.result = .error (.output .nothing) ∧ cut.machine.regs.pc = 5 := by
  intro m text cut
  have hlong : 4 < text.length := by decide +kernel
  obtain ⟨htaken, hresult, _⟩ := (runLimited_cut m 9 4 .nothing).2 hlong
  exact ⟨hlong, htaken, hresult, by decide +kernel⟩

end Ls8.Machine
