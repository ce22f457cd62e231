import Ls8.Command.Plan
import Ls8.Proofs.Assembly.Disassembly
import Ls8.Proofs.Machine.Allowance
import Ls8.Proofs.Text.Utf8

/-!
# Running a program from the command line

The command has a loop of its own, with a limit of its own. `turns_fst`: the loop goes where the
core's run goes. `Performs`: what it executes and traces does not depend on what was printed and
traced before. So the report is that of the core's run (`report_eq`), and a run in bursts leaves the
same report (`run_inBursts_report`).
-/

namespace Ls8

open Machine (Runs Trace Visit runFor)

namespace Machine

/-! ## Texts -/

theorem exists_encode_output (m : Machine) (is : List Instruction) :
    ∃ cs, m.output is = Utf8.encode cs := by
  induction is generalizing m with
  | nil => exact ⟨[], rfl⟩
  | cons i is ih =>
    obtain ⟨cs, hcs⟩ := ih (m.next i)
    have hprinted : ∃ ds, m.printed i = Utf8.encode ds := by
      cases i with
      | prn reg =>
        rw [printed]
        cases m.regs.get? reg with
        | none => exact ⟨[], rfl⟩
        | some value => exact ⟨_, rfl⟩
      | _ => exact ⟨[], rfl⟩
    obtain ⟨ds, hds⟩ := hprinted
    exact ⟨ds ++ cs, by rw [output_cons, hcs, hds, Utf8.encode_append]⟩

theorem encode_decodeLossy_output (m : Machine) (is : List Instruction) :
    Utf8.encode (Utf8.decodeLossy (m.output is)) = m.output is := by
  obtain ⟨cs, hcs⟩ := m.exists_encode_output is
  rw [hcs, Utf8.decodeLossy_encode]

theorem Trace.encode_decodeLossy_taken {m last : Machine} {is : List Instruction} {sink : Sink}
    (h : Trace m .unlimited is last sink) :
    Utf8.encode (Utf8.decodeLossy sink.taken.toList) = sink.taken.toList := by
  obtain ⟨_, _, rfl⟩ := trace_iff.mp h
  rw [Sink.toList_taken_unlimited]
  exact encode_decodeLossy_output m is

theorem decodeLossy_output_append (m m' : Machine) (is js : List Instruction) :
    Utf8.decodeLossy (m.output is ++ m'.output js) =
      Utf8.decodeLossy (m.output is) ++ Utf8.decodeLossy (m'.output js) := by
  obtain ⟨cs, hcs⟩ := m.exists_encode_output is
  obtain ⟨ds, hds⟩ := m'.exists_encode_output js
  rw [hcs, hds, ← Utf8.encode_append, Utf8.decodeLossy_encode, Utf8.decodeLossy_encode,
    Utf8.decodeLossy_encode]

end Machine

theorem Instruction.feed_not_mem_text (i : Instruction) : '\n' ∉ i.text.toList := by
  rw [Listing.toList_instructionText]
  exact Assembly.not_mem_plainStatement (Assembly.isWord_mnemonic _) (Listing.isWord_operandTexts i)
    (by decide)

namespace Machine.Visit

theorem feed_not_mem_hex (value : UInt8) : '\n' ∉ (Numeral.hex value.toNat).toList :=
  (Assembly.isWord_hex value.toNat).not_mem (by decide)

theorem feed_not_mem_registersText (v : Visit) : '\n' ∉ v.registersText.toList := by
  have hmiddle : '\n' ∉ (", ".intercalate
      (v.registers.r.toList.map fun value => Numeral.hex value.toNat)).toList := by
    rw [String.toList_intercalate]
    intro hmem
    rcases Assembly.mem_intercalate hmem with hcomma | ⟨w, hw, hfeed⟩
    · revert hcomma
      decide
    · simp only [List.map_map, List.mem_map] at hw
      obtain ⟨value, _, rfl⟩ := hw
      exact feed_not_mem_hex value hfeed
  simpa [registersText] using hmiddle

theorem exists_line (v : Visit) :
    ∃ body : String, v.line = body ++ "\n" ∧ '\n' ∉ body.toList := by
  refine ⟨_, rfl, ?_⟩
  have htext : '\n' ∉ (Text.leftAligned 12 v.instruction.text).toList := by
    simp [Text.leftAligned, List.rightpad, v.instruction.feed_not_mem_text]
  simp [feed_not_mem_hex, htext, feed_not_mem_registersText]

end Machine.Visit

namespace Report

theorem append_assoc (first second third : Report) :
    first ++ second ++ third = first ++ (second ++ third) := by
  show Report.mk _ _ _ = Report.mk _ _ _
  congr 1
  · exact String.append_assoc
  · exact String.append_assoc

theorem empty_append (report : Report) : ({} : Report) ++ report = report := by
  show Report.mk report.status ("" ++ report.stdout) ("" ++ report.stderr) = report
  rw [String.empty_append, String.empty_append]

end Report

namespace Execution

variable {options : RunOptions} {m : Machine} {out : Sink} {n : Nat}

/-! ## The loop -/

theorem goesOn_iff :
    goesOn options m ↔ m.state = .running ∧ m.cycles.toNat < options.bound.toNat := by
  simp [goesOn, Machine.isRunning, UInt64.lt_iff_toNat_lt]

/-- The loop of the command goes where the core's run goes, up to its own limit. -/
theorem turns_fst (options : RunOptions) (n : Nat) (m : Machine) (out : Sink)
    (visited : Array Visit) :
    (turns options n m out visited).1 =
      runFor (min n (options.bound.toNat - m.cycles.toNat)) m out := by
  induction n generalizing m out visited with
  | zero => rw [turns, Nat.zero_min, runFor]
  | succ n ih =>
    by_cases hgo : goesOn options m
    · obtain ⟨hs, hbound⟩ := goesOn_iff.mp hgo
      have hturns : min (n + 1) (options.bound.toNat - m.cycles.toNat) =
          min n (options.bound.toNat - (m.cycles.toNat + 1)) + 1 := by omega
      rw [turns, if_pos hgo, hturns]
      rcases hstep : m.step out with ⟨after, sink, e | i⟩
      · rw [Machine.runFor_succ_of_error hstep, if_pos hs]
      · rw [Machine.runFor_succ_of_ok hstep]
        obtain ⟨_, _, _, _, rfl⟩ := Machine.step_eq_ok_iff.mp hstep
        have hsize : options.bound.toNat < UInt64.size := options.bound.toNat_lt
        have hcycles : (m.next i).cycles.toNat = m.cycles.toNat + 1 := by
          rw [Machine.next_cycles]
          exact Machine.toNat_add_ofNat (k := 1) (by omega)
        rw [← hcycles]
        exact ih _ _ _
    · rw [turns, if_neg hgo]
      by_cases hs : m.state = .running
      · have hbound : ¬m.cycles.toNat < options.bound.toNat :=
          fun hlt => hgo (goesOn_iff.mpr ⟨hs, hlt⟩)
        rw [Nat.sub_eq_zero_of_le (Nat.le_of_not_lt hbound), Nat.min_zero, runFor]
      · rw [Machine.runFor_of_stopped hs]

/-- The instructions that are traced when `is` are executed. -/
def traced (options : RunOptions) (m : Machine) (is : List Instruction) : List Visit :=
  if options.trace then m.visits is else []

theorem traced_nil : traced options m [] = [] := by
  rw [traced, Machine.visits, ite_self]

theorem turns_of_not_goesOn (h : ¬goesOn options m) (n : Nat) (visited : Array Visit) :
    turns options n m out visited = (⟨m, out, .ok ()⟩, visited) := by
  cases n with
  | zero => rfl
  | succ n => rw [turns, if_neg h]

/-- In at most `n` turns the loop executes `is`, which lead to `last`. It ends there, or by the next
step, which fails. What was printed and traced before makes no difference. -/
structure Performs (options : RunOptions) (n : Nat) (m : Machine) (is : List Instruction)
    (last after : Machine) (result : Except StepError Unit) : Prop where
  runs : Runs m is last
  ends : result = .ok () ∧ after = last ∨
    ∃ e, result = .error e ∧ ∀ out, last.step out = ⟨after, out, .error e⟩
  outcome : ∀ out visited, out.room = none →
    (turns options n m out visited).1 = ⟨after, out.accept (m.output is), result⟩
  visited : ∀ out visited, out.room = none →
    (turns options n m out visited).2.toList = visited.toList ++ traced options m is

theorem Performs.nothing {after : Machine} {result : Except StepError Unit}
    (hends : result = .ok () ∧ after = m ∨
      ∃ e, result = .error e ∧ ∀ out, m.step out = ⟨after, out, .error e⟩)
    (hturns : ∀ out visited, turns options n m out visited = (⟨after, out, result⟩, visited)) :
    Performs options n m [] m after result := by
  refine ⟨.nil m, hends, fun out visited _ => ?_, fun out visited _ => ?_⟩
  · rw [hturns, Machine.output_nil, Sink.accept_nil]
  · rw [hturns, traced_nil, List.append_nil]

theorem Performs.cons {is : List Instruction} {last after : Machine} {i : Instruction}
    {result : Except StepError Unit} (hgo : goesOn options m) (hf : m.fetch = .ok i)
    (h : Performs options n (m.next i) is last after result) :
    Performs options (n + 1) m (i :: is) last after result := by
  have hs := (goesOn_iff.mp hgo).1
  refine ⟨.cons (Machine.executes_iff.mpr ⟨hs, hf, rfl⟩) h.runs, h.ends, fun out visited hout => ?_,
    fun out visited hout => ?_⟩
  · rw [turns, if_pos hgo, Machine.step_of_room_none hs hf hout, Machine.output_cons,
      Sink.accept_append]
    exact h.outcome _ _ (Sink.accept_room_none hout _)
  · rw [turns, if_pos hgo, Machine.step_of_room_none hs hf hout]
    refine (h.visited _ _ (Sink.accept_room_none hout _)).trans ?_
    rw [traced, traced]
    split
    · rw [Array.toList_push, List.append_assoc]
      rfl
    · rfl

theorem exists_performs (options : RunOptions) (n : Nat) (m : Machine) :
    ∃ is last after result, Performs options n m is last after result := by
  induction n generalizing m with
  | zero => exact ⟨_, _, _, _, .nothing (.inl ⟨rfl, rfl⟩) fun _ _ => rfl⟩
  | succ n ih =>
    by_cases hgo : goesOn options m
    · cases hf : m.fetch with
      | error cause =>
        have hfails := Machine.step_of_fetch_error (goesOn_iff.mp hgo).1 hf
        refine ⟨_, _, _, _, .nothing (.inr ⟨_, rfl, hfails⟩) fun out visited => ?_⟩
        rw [turns, if_pos hgo, hfails]
      | ok i =>
        obtain ⟨is, last, after, result, h⟩ := ih (m.next i)
        exact ⟨i :: is, last, after, result, h.cons hgo hf⟩
    · exact ⟨_, _, _, _, .nothing (.inl ⟨rfl, rfl⟩) fun out => turns_of_not_goesOn hgo (n + 1)⟩

theorem turns_add (n k : Nat) (m : Machine) (out : Sink) (visited : Array Visit) :
    turns options (n + k) m out visited =
      match turns options n m out visited with
      | (⟨after, sink, .ok _⟩, visited) => turns options k after sink visited
      | (⟨after, sink, .error e⟩, visited) => (⟨after, sink, .error e⟩, visited) := by
  induction n generalizing m out visited with
  | zero => rw [Nat.zero_add, turns]
  | succ n ih =>
    by_cases hgo : goesOn options m
    · rw [Nat.succ_add, turns, if_pos hgo, turns, if_pos hgo]
      rcases m.step out with ⟨after, sink, e | i⟩
      · rfl
      · exact ih _ _ _
    · rw [turns_of_not_goesOn hgo, turns_of_not_goesOn hgo]
      exact (turns_of_not_goesOn hgo k visited).symm

theorem turns_of_done {o : Outcome Unit} {visited before : Array Visit}
    (h : turns options n m out before = (o, visited))
    (hdone : ¬(o.result.isOk ∧ goesOn options o.machine)) (k : Nat) :
    turns options (n + k) m out before = (o, visited) := by
  rw [turns_add, h]
  obtain ⟨after, sink, e | u⟩ := o
  · rfl
  · exact turns_of_not_goesOn (fun hgo => hdone ⟨rfl, hgo⟩) k visited

/-! ## What the loop leaves -/

theorem portion_eq (options : RunOptions) (m : Machine) (n : Nat) :
    portion options m n =
      ((turns options n m .unlimited #[]).1,
        { stdout := String.ofList
            (Utf8.decodeLossy (turns options n m .unlimited #[]).1.sink.taken.toList)
          stderr := String.join ((turns options n m .unlimited #[]).2.toList.map Visit.line) }) :=
  rfl

theorem portion_of_done (hdone : ¬((portion options m n).1.result.isOk ∧
    goesOn options (portion options m n).1.machine)) (k : Nat) :
    portion options m (n + k) = portion options m n := by
  rw [portion_eq] at hdone
  rw [portion_eq, portion_eq, turns_of_done rfl hdone k]

theorem portion_add (n k : Nat) (m : Machine) (hok : (portion options m n).1.result.isOk) :
    let first := portion options m n
    let second := portion options first.1.machine k
    let whole := portion options m (n + k)
    whole.1.machine = second.1.machine ∧ whole.1.result = second.1.result ∧
      whole.2 = first.2 ++ second.2 := by
  obtain ⟨is, _, after, result, hfirst⟩ := exists_performs options n m
  obtain ⟨js, _, last, result', hsecond⟩ := exists_performs options k after
  intro first second whole
  -- the second portion starts with an empty sink, in the whole run with what the first one left
  rcases hturns : turns options n m .unlimited #[] with ⟨o, visited⟩
  have hroom : (Sink.unlimited.accept (m.output is)).room = none := Sink.accept_room_none rfl _
  have hmiddle := hfirst.outcome .unlimited #[] rfl
  have hvisited := hfirst.visited .unlimited #[] rfl
  rw [hturns] at hmiddle hvisited
  subst hmiddle
  rw [portion_eq, hturns] at hok
  cases result with
  | error e => cases hok
  | ok _ =>
    have hwhole : turns options (n + k) m .unlimited #[] =
        turns options k after (Sink.unlimited.accept (m.output is)) visited := by
      rw [turns_add, hturns]
    simp only [first, second, whole, portion_eq, hturns, hwhole, hsecond.outcome _ _ hroom,
      hsecond.visited _ _ hroom, hsecond.outcome .unlimited #[] rfl,
      hsecond.visited .unlimited #[] rfl]
    refine ⟨trivial, trivial, ?_⟩
    rw [← Sink.accept_append, Sink.toList_taken_unlimited, Sink.toList_taken_unlimited,
      Sink.toList_taken_unlimited, Machine.decodeLossy_output_append, String.ofList_append,
      List.map_append, List.map_append, String.join_append]
    rfl

/-! ## Bursts -/

theorem closing_congr {o o' : Outcome Unit} (hmachine : o.machine = o'.machine)
    (hresult : o.result = o'.result) : closing options o = closing options o' := by
  rw [closing, closing, hmachine, hresult]

/-- Puts a report behind what was reported before. -/
def gather (report : Report) : StateM Report Unit :=
  modify (· ++ report)

theorem run_gather_bind {α : Type} (report before : Report) (next : StateM Report α) :
    (gather report >>= fun _ => next).run before = next.run (before ++ report) := rfl

theorem run_inBursts (options : RunOptions) (m : Machine) (left : Nat) (before : Report) :
    (inBursts gather options m left).run before =
      let whole := portion options m left
      let last := closing options whole.1
      (last.status, before ++ (whole.2 ++ last)) := by
  induction left using Nat.strongRecOn generalizing m before with
  | ind left ih =>
    rw [inBursts]
    rcases hportion : portion options m (min burst left) with ⟨o, body⟩
    by_cases hgo : burst < left ∧ o.result.isOk ∧ goesOn options o.machine
    · rw [run_gather_bind, if_pos hgo]
      rw [Nat.min_eq_left (Nat.le_of_lt hgo.1)] at hportion
      have hpos := burst_pos
      have hok : (portion options m burst).1.result.isOk := by
        rw [hportion]
        exact hgo.2.1
      obtain ⟨hmachine, hresult, hreport⟩ := portion_add burst (left - burst) m hok
      rw [Nat.add_sub_cancel' (Nat.le_of_lt hgo.1), hportion] at hmachine hresult hreport
      rw [ih (left - burst) (by omega)]
      simp only [closing_congr hmachine hresult, hreport, Report.append_assoc]
    · rw [run_gather_bind, if_neg hgo, run_gather_bind]
      have hwhole : portion options m left = (o, body) := by
        rcases Nat.lt_or_ge burst left with hlt | hle
        · rw [Nat.min_eq_left (Nat.le_of_lt hlt)] at hportion
          have hdone : ¬((portion options m burst).1.result.isOk ∧
              goesOn options (portion options m burst).1.machine) := by
            rw [hportion]
            exact fun hmore => hgo ⟨hlt, hmore⟩
          rw [← hportion, ← portion_of_done hdone (left - burst),
            Nat.add_sub_cancel' (Nat.le_of_lt hlt)]
        · rw [← hportion, Nat.min_eq_right hle]
      rw [hwhole, Report.append_assoc]
      rfl

/-- A run written in bursts is the whole run. -/
theorem run_inBursts_report (options : RunOptions) (program : List UInt8) :
    (inBursts gather options (.withProgram program) options.bound.toNat).run {} =
      ((report options program).status, report options program) := by
  rw [run_inBursts]
  simp only [Report.empty_append]
  rfl

/-! ## What the command shows of a run -/

/-- What follows the output of a run on standard output. -/
def ending (options : RunOptions) (R : Outcome UInt64) : String :=
  match R.result with
  | .error (.decode _ (.unrecognized _)) | .error (.decode _ (.unimplemented _)) =>
    "unrecognized instruction\n"
  | .error _ => ""
  | .ok _ => if options.dumpState then Snapshot.prettyText R.machine ++ "\n" else ""

/-- What follows the traced instructions of a run on standard error. -/
def remark (options : RunOptions) (R : Outcome UInt64) : String :=
  (match R.result with
    | .error (.decode _ (.unrecognized _)) | .error (.decode _ (.unimplemented _)) | .ok _ => ""
    | .error e => e.message ++ "\n") ++
  if R.machine.state = .running then
    "Reached max cycles limit (" ++ Numeral.decimal options.bound.toNat ++ ").\n"
  else ""

theorem closing_eq (start : Machine) {o : Outcome Unit}
    (h : ∀ e, o.result = .error e → o.machine.state ≠ .running) :
    closing options o =
      { status := if o.result.isOk then 0 else 1
        stdout := ending options (start.counted o)
        stderr := remark options (start.counted o) } := by
  obtain ⟨after, sink, e | u⟩ := o
  · have hstate : after.state ≠ .running := h e rfl
    rw [closing, ending, remark, Machine.counted]
    simp only [Except.map, if_neg hstate, String.append_empty]
    rcases e with state | ⟨address, byte | op | ⟨op, r⟩⟩ | refusal | _ <;> rfl
  · rw [closing, ending, remark, Machine.counted]
    simp only [Except.map, String.empty_append, Machine.isRunning, beq_iff_eq]
    rfl

theorem runLimited_eq (options : RunOptions) (program : List UInt8) :
    let start := Machine.withProgram program
    start.runLimited .unlimited options.bound.toNat =
      start.counted (portion options start options.bound.toNat).1 := by
  intro start
  have hcycles : start.cycles.toNat = 0 := rfl
  have hbound : options.bound.toNat < UInt64.size := options.bound.toNat_lt
  rw [portion_eq, turns_fst, Machine.runLimited, Machine.allowance_eq (by omega), hcycles,
    Nat.sub_zero, Nat.min_self]

/-- What a run leaves, and the instructions `is` that it executed. -/
theorem report_eq (options : RunOptions) (program : List UInt8) :
    let start := Machine.withProgram program
    let R := start.runLimited .unlimited options.bound.toNat
    ∃ is last, Trace start .unlimited is last R.sink ∧
      (R.result = .ok (UInt64.ofNat is.length) ∧ R.machine = last ∨
        ∃ e, R.result = .error e ∧ last.step R.sink = ⟨R.machine, R.sink, .error e⟩) ∧
      report options program =
        { status := if R.result.isOk then 0 else 1
          stdout := String.ofList (Utf8.decodeLossy R.sink.taken.toList) ++ ending options R
          stderr := String.join ((traced options start is).map Visit.line) ++ remark options R } := by
  intro start R
  obtain ⟨is, last, after, result, h⟩ := exists_performs options options.bound.toNat start
  have hfst := h.outcome .unlimited #[] rfl
  have hsnd := h.visited .unlimited #[] rfl
  have htrace : Trace start .unlimited is last (Sink.unlimited.accept (start.output is)) :=
    Machine.trace_iff.mpr ⟨h.runs, Sink.hasRoom_of_room_none rfl _, rfl⟩
  have hR : R = start.counted ⟨after, Sink.unlimited.accept (start.output is), result⟩ := by
    rw [← hfst]
    exact runLimited_eq options program
  have hstate : ∀ e, result = .error e → after.state ≠ .running := by
    rintro e rfl
    rcases h.ends with ⟨hok, _⟩ | ⟨_, _, hfails⟩
    · cases hok
    · exact (Machine.step_error_stops (hfails .unlimited)).1
  have hreport : report options program =
      (portion options start options.bound.toNat).2 ++
        closing options (portion options start options.bound.toNat).1 := rfl
  rw [hreport, portion_eq, hfst, hsnd, closing_eq start hstate, hR]
  refine ⟨is, last, htrace, ?_, ?_⟩
  · rcases h.ends with ⟨rfl, rfl⟩ | ⟨e, rfl, hfails⟩
    · have hcount : after.cycles - start.cycles = UInt64.ofNat is.length := by
        rw [htrace.cycles, UInt64.add_comm, UInt64.add_sub_cancel]
      exact .inl ⟨congrArg Except.ok hcount, rfl⟩
    · exact .inr ⟨e, rfl, hfails _⟩
  · cases result <;> rfl

/-- Without tracing nothing but the lines of the instructions is missing: the limit is the same, and so
is the core's run. -/
theorem report_untraced (options : RunOptions) (program : List UInt8) :
    let R := (Machine.withProgram program).runLimited .unlimited options.bound.toNat
    report { options with trace := false } program =
      { status := if R.result.isOk then 0 else 1
        stdout := String.ofList (Utf8.decodeLossy R.sink.taken.toList) ++ ending options R
        stderr := remark options R } := by
  intro R
  obtain ⟨is, _, _, _, hreport⟩ := report_eq { options with trace := false } program
  rw [hreport]
  show Report.mk _ _ ("" ++ _) = _
  rw [String.empty_append]
  rfl

end Execution

end Ls8
