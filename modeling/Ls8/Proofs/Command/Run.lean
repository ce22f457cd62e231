import Ls8.Proofs.Command.Arguments
import Ls8.Proofs.Command.Execution

/-!
# The run command

A command line that asks for a run leads to a report of what the core's run of the program does
(`run_shows_core`).
-/

namespace Ls8.Plan

open Execution (ending gather inBursts remark traced)
open Machine (Trace Visit)

variable {arguments : List String} {files : Files} {path : String} {content : List UInt8}

theorem perform_run {options : RunOptions}
    (hparse : Arguments.parse arguments = some (.run path options))
    (hread : files.read path = .ok content) (hbytes : (Image.ofFile content).bytes ≠ []) :
    (ofArguments arguments).perform files =
      (Execution.report options (Image.ofFile content).bytes, files) := by
  have hempty : (Image.ofFile content).bytes.isEmpty = false := by
    simpa using hbytes
  rw [ofArguments, hparse]
  simp only [ofCommand, loading, perform, hread, hempty, Bool.false_eq_true, if_false]

theorem ne_empty_of_read (h : files.read path = .ok content) : path ≠ "" := by
  rintro rfl
  cases h

theorem runLimited_of_no_limit {options : RunOptions} {program : List UInt8} {is : List Instruction}
    (hlimit : options.limit = none)
    (hstops : (Machine.withProgram program).StopsAfter .unlimited is)
    (hsize : is.length + 1 < UInt64.size) :
    (Machine.withProgram program).runLimited .unlimited options.bound.toNat =
      (Machine.withProgram program).run .unlimited := by
  have hbound : options.bound.toNat = Machine.maxCycles := by
    rw [RunOptions.bound, hlimit, Option.getD_none, UInt64.toNat_ofNat',
      Nat.mod_eq_of_lt (by decide)]
  have hcycles : (Machine.withProgram program).cycles.toNat = 0 := rfl
  rw [hbound]
  exact hstops.runLimited_eq_run (by omega) (by rw [Machine.maxCycles]; omega)

/-- **The run command shows the core's run.** Every choice of options can be asked for. However it
is asked for, let `R` be the core's run of the program in the file with the limit given, before a
sink that never refuses. Then no file changes and

* the status is one if `R` fails, and zero otherwise;
* standard output has the output of `R` and its `ending`;
* standard error has a line for each instruction that `R` executed, if they are traced, and then the
  `remark` on `R`, which says that the limit was reached exactly if the machine still goes on;
* without tracing only these lines are missing.

Without a limit `R` is the run without a bound, if that ends before the count of instructions does.
It makes no difference that the command works in bursts.

Log records are not part of the report. A logger writes those that it shows to standard error as well,
and by default it shows warnings: here, that of `Memory.loadRecords` about an image of more than 256
bytes. -/
theorem run_shows_core {options : RunOptions}
    (hparse : Arguments.parse arguments = some (.run path options))
    (hread : files.read path = .ok content) (hbytes : (Image.ofFile content).bytes ≠ []) :
    let start := Machine.withProgram (Image.ofFile content).bytes
    let R := start.runLimited .unlimited options.bound.toNat
    let report := ((ofArguments arguments).perform files).1
    (∀ choice, Arguments.parse (Arguments.commandLine path choice) = some (.run path choice)) ∧
    ((ofArguments arguments).perform files).2 = files ∧
    report.status = (if R.result.isOk then 0 else 1) ∧
    Utf8.encode report.stdout.toList =
      R.sink.taken.toList ++ Utf8.encode (ending options R).toList ∧
    (∃ is last, Trace start .unlimited is last R.sink ∧
      (R.result = .ok (UInt64.ofNat is.length) ∧ R.machine = last ∨
        ∃ e, R.result = .error e ∧ last.step R.sink = ⟨R.machine, R.sink, .error e⟩) ∧
      let lines := (traced options start is).map Visit.line
      (options.trace → lines.length = is.length) ∧
      (∀ line ∈ lines, ∃ body : String, line = body ++ "\n" ∧ '\n' ∉ body.toList) ∧
      report.stderr = String.join lines ++ remark options R ∧
      ∀ others, Arguments.parse others = some (.run path { options with trace := false }) →
        let quiet := ((ofArguments others).perform files).1
        quiet.status = report.status ∧ quiet.stdout = report.stdout ∧
          report.stderr = String.join lines ++ quiet.stderr) ∧
    (options.limit = none → ∀ is, start.StopsAfter .unlimited is →
      is.length + 1 < UInt64.size → R = start.run .unlimited) ∧
    (inBursts gather options start options.bound.toNat).run {} = (report.status, report) := by
  intro start R report
  have hreport : report = Execution.report options (Image.ofFile content).bytes :=
    congrArg Prod.fst (perform_run hparse hread hbytes)
  obtain ⟨is, last, htrace, hend, hshown⟩ :=
    Execution.report_eq options (Image.ofFile content).bytes
  rw [← hreport] at hshown
  refine ⟨fun choice => Arguments.parse_commandLine (ne_empty_of_read hread) choice,
    congrArg Prod.snd (perform_run hparse hread hbytes), congrArg Report.status hshown, ?_,
    ⟨is, last, htrace, hend, ?_, ?_, congrArg Report.stderr hshown, fun others hothers => ?_⟩,
    fun hlimit is hstops hsize => runLimited_of_no_limit hlimit hstops hsize, ?_⟩
  · rw [hshown, String.toList_append, Utf8.encode_append, String.toList_ofList,
      htrace.encode_decodeLossy_taken]
  · intro htraced
    rw [List.length_map, traced, if_pos htraced, ← List.length_map,
      Machine.map_instruction_visits]
  · intro line hline
    obtain ⟨v, _, rfl⟩ := List.mem_map.mp hline
    exact v.exists_line
  · intro quiet
    have hquiet : quiet = Execution.report { options with trace := false }
        (Image.ofFile content).bytes :=
      congrArg Prod.fst (perform_run hothers hread hbytes)
    rw [Execution.report_untraced] at hquiet
    rw [hshown, hquiet]
    exact ⟨rfl, rfl, rfl⟩
  · rw [hreport]
    exact Execution.run_inBursts_report options _

/-- A program that prints 8 and would halt next, traced up to its limit. -/
theorem run_shows_core_at_limit :
    let content := Utf8.encode "10000010\n0\n00001000\n01000111\n0\n00000001".toList
    let files : Files := ⟨[(["eight.ls8"], content)]⟩
    let arguments := ["run", "-t", "--max-cycles=2", "eight.ls8"]
    let report := ((ofArguments arguments).perform files).1
    Arguments.parse arguments = some (.run "eight.ls8" ⟨some 2, true, false⟩) ∧
      files.read "eight.ls8" = .ok content ∧ (Image.ofFile content).bytes ≠ [] ∧
      report.status = 0 ∧ Utf8.encode report.stdout.toList = [0x38, 0x0A] ∧
      ∃ lines : List String,
        report.stderr = String.join lines ++ "Reached max cycles limit (2).\n" := by
  intro content files arguments report
  have hparse : Arguments.parse arguments = some (.run "eight.ls8" ⟨some 2, true, false⟩) := by
    decide +kernel
  have hread : files.read "eight.ls8" = .ok content := by rfl
  have hbytes : (Image.ofFile content).bytes ≠ [] := by decide +kernel
  obtain ⟨_, _, hstatus, hstdout, ⟨is, _, _, _, _, _, hstderr, _⟩, _⟩ :=
    run_shows_core hparse hread hbytes
  refine ⟨hparse, hread, hbytes, hstatus.trans (by decide +kernel),
    hstdout.trans (by decide +kernel), _, hstderr.trans (congrArg _ ?_)⟩
  decide +kernel

end Ls8.Plan
