import Ls8.Command.Plan
import Ls8.Proofs.Command.Arguments
import Ls8.Proofs.Image.Saving

/-!
# The assembly command

Assembling a file reads, then assembles, and creates the image last, so whatever fails before that
has changed nothing (`perform_assembling_of_not_assembles`, `perform_saving_of_error`). What is
created is one file, and it is loaded as the program (`saves_of_create`).
-/

namespace Ls8.Plan

/-- A source file assembles to a program. -/
def Assembles (files : Files) (source : String) (program : List UInt8) : Prop :=
  ∃ content text, files.read source = .ok content ∧ Utf8.decode? content = some text ∧
    assemble (String.ofList text) = .ok program

/-- The files are as before but for the one that a path leads to, which is loaded as a program. The
device that keeps nothing is no file. -/
def Saves (before after : Files) (path : String) (program : List UInt8) : Prop :=
  before.find path = .ok .null ∧ after = before ∨
    ∃ place content, after.find path = .ok (.file place content) ∧ after.read path = .ok content ∧
      (Image.ofFile content).bytes = program ∧
      ∀ other ≠ place, after.content? other = before.content? other

variable {files after : Files} {source path : String} {output : Option String}
  {program : List UInt8}

/-! ## Saving -/

theorem saves_of_create (h : files.create path (Image.fileContent program) = .ok after) :
    Saves files after path program := by
  obtain ⟨-, ⟨target, place, hfind, hplace, rfl⟩ | ⟨hnull, rfl⟩⟩ := Files.create_eq_ok_iff.mp h
  · right
    refine ⟨place, Image.fileContent program, Files.find_put hfind hplace,
      Files.read_put hfind hplace, ?_, fun other hother => Files.content?_put_of_ne hother⟩
    exact (Image.restores_of_rows (Image.rows_ofFile_fileContent program)).bytes
  · exact .inl ⟨hnull, rfl⟩

theorem perform_saving_of_ok (h : files.create path (Image.fileContent program) = .ok after) :
    (saving path program).perform files =
      (.success ("Assembled " ++ toString program.length ++ " bytes → " ++ path ++ "\n"), after) := by
  simp only [saving, perform, h]
  rfl

theorem perform_saving_of_error {e : FileError}
    (h : files.create path (Image.fileContent program) = .error e) :
    (saving path program).perform files =
      (.failure ("Failed to save " ++ path ++ ": I/O error: " ++ e.message), files) := by
  simp only [saving, perform, h]

/-! ## Assembling -/

theorem Assembles.unique {other : List UInt8} (h : Assembles files source program)
    (hother : Assembles files source other) : program = other := by
  obtain ⟨content, text, hread, htext, hprogram⟩ := h
  obtain ⟨content', text', hread', htext', hprogram'⟩ := hother
  rw [hread] at hread'
  obtain rfl := Except.ok.inj hread'
  rw [htext] at htext'
  obtain rfl := Option.some.inj htext'
  rw [hprogram] at hprogram'
  exact Except.ok.inj hprogram'

theorem perform_assembling_of_assembles (h : Assembles files source program) :
    (assembling source output).perform files =
      (saving (output.getD (withEnding source "ls8")) program).perform files := by
  obtain ⟨content, text, hread, htext, hprogram⟩ := h
  simp only [assembling, perform, hread, Except.bind, htext, Option.elim_some, hprogram]

theorem perform_assembling_of_not_assembles (h : ¬∃ program, Assembles files source program) :
    ∃ message, (assembling source output).perform files = (.failure message, files) := by
  rw [assembling, perform]
  cases hread : files.read source with
  | error e => exact ⟨_, rfl⟩
  | ok content =>
    cases htext : Utf8.decode? content with
    | none =>
      simp only [Except.bind, htext, Option.elim_none]
      exact ⟨_, rfl⟩
    | some text =>
      simp only [Except.bind, htext, Option.elim_some]
      cases hprogram : assemble (String.ofList text) with
      | error e => exact ⟨_, rfl⟩
      | ok program => exact absurd ⟨program, content, text, hread, htext, hprogram⟩ h

/-- The command fails and leaves the files alone, or there is a program, and it is saved. -/
theorem perform_assembling_cases (files : Files) (source : String) (output : Option String) :
    let target := output.getD (withEnding source "ls8")
    (∃ message, (assembling source output).perform files = (.failure message, files)) ∧
        (¬∃ program after, Assembles files source program ∧
          files.create target (Image.fileContent program) = .ok after) ∨
      ∃ program after, Assembles files source program ∧
        files.create target (Image.fileContent program) = .ok after ∧
        (assembling source output).perform files =
          (.success ("Assembled " ++ toString program.length ++ " bytes → " ++ target ++ "\n"),
            after) := by
  intro target
  by_cases hassembles : ∃ program, Assembles files source program
  · obtain ⟨program, hprogram⟩ := hassembles
    rw [perform_assembling_of_assembles hprogram]
    cases hcreate : files.create target (Image.fileContent program) with
    | ok after => exact .inr ⟨program, after, hprogram, hcreate, perform_saving_of_ok hcreate⟩
    | error e =>
      refine .inl ⟨⟨_, perform_saving_of_error hcreate⟩, ?_⟩
      rintro ⟨other, after, hother, hok⟩
      rw [← hprogram.unique hother, hcreate] at hok
      cases hok
  · refine .inl ⟨perform_assembling_of_not_assembles hassembles, ?_⟩
    rintro ⟨program, _, hprogram, _⟩
    exact hassembles ⟨program, hprogram⟩

/-- **Assembling is all or nothing.** Every source path can be given, with and without an output path.
However they are given,

* the status is zero exactly if the source can be read, is text and assembles, and a file can be
  created at the output path, which is the source path with the ending `ls8` if there is no other;
* with another status every file is as before;
* with status zero every file is as before but for the one at the output path, and that is loaded as
  the program which the source assembles to, whose bytes are counted in the output. -/
theorem assembling_all_or_nothing (files : Files) (source : String) (output : Option String) :
    (source ≠ "" → output ≠ some "" →
      Arguments.parse (Arguments.assemblyLine source output) = some (.assemble source output)) ∧
    ∀ arguments, Arguments.parse arguments = some (.assemble source output) →
      let target := output.getD (withEnding source "ls8")
      let report := ((ofArguments arguments).perform files).1
      let after := ((ofArguments arguments).perform files).2
      (report.status = 0 ↔ ∃ program made, Assembles files source program ∧
          files.create target (Image.fileContent program) = .ok made) ∧
        (report.status ≠ 0 → after = files) ∧
        (report.status = 0 → ∃ program, Assembles files source program ∧
          report.stdout =
            "Assembled " ++ toString program.length ++ " bytes → " ++ target ++ "\n" ∧
          Saves files after target program) := by
  refine ⟨Arguments.parse_assemblyLine, fun arguments hparse => ?_⟩
  have hplan : ofArguments arguments = assembling source output := by
    rw [ofArguments, hparse]
    rfl
  rw [hplan]
  intro target report after
  rcases perform_assembling_cases files source output with
    ⟨⟨message, hperform⟩, hnone⟩ | ⟨program, made, hprogram, hcreate, hperform⟩
  · have hstatus : report.status = 1 := congrArg (·.1.status) hperform
    have hafter : after = files := congrArg Prod.snd hperform
    refine ⟨⟨fun h => ?_, fun h => absurd h hnone⟩, fun _ => hafter, fun h => ?_⟩
    · omega
    · omega
  · have hstatus : report.status = 0 := congrArg (·.1.status) hperform
    have hafter : after = made := congrArg Prod.snd hperform
    refine ⟨⟨fun _ => ⟨program, made, hprogram, hcreate⟩, fun _ => hstatus⟩, fun h =>
      absurd hstatus h, fun _ => ⟨program, hprogram, congrArg (·.1.stdout) hperform, ?_⟩⟩
    rw [hafter]
    exact saves_of_create hcreate

/-- A program goes in the place of an image that the source beside it, which does not assemble, has
left alone. -/
theorem assembling_keeps_image :
    let good := Utf8.encode "LDI R0,8\nPRN R0\nHLT\n".toList
    let bad := Utf8.encode "PRN R9\n".toList
    let files := ((Files.empty.put ["a.asm"] good).put ["b.asm"] bad).put ["b.ls8"] [0x31]
    let line := Arguments.assemblyLine "a.asm" (some "b.ls8")
    let first := (ofArguments ["asm", "b.asm"]).perform files
    let second := (ofArguments line).perform files
    Arguments.parse ["asm", "b.asm"] = some (.assemble "b.asm" none) ∧
      Arguments.parse line = some (.assemble "a.asm" (some "b.ls8")) ∧
      first.1.status = 1 ∧ first.2 = files ∧ second.1.status = 0 ∧
      ∃ program, Assembles files "a.asm" program ∧ Saves files second.2 "b.ls8" program := by
  intro good bad files line first second
  obtain ⟨_, hassembling⟩ := assembling_all_or_nothing files "b.asm" none
  obtain ⟨hline, hreplacing⟩ := assembling_all_or_nothing files "a.asm" (some "b.ls8")
  have hfirst : Arguments.parse ["asm", "b.asm"] = some (.assemble "b.asm" none) := by
    decide +kernel
  have hsecond : Arguments.parse line = some (.assemble "a.asm" (some "b.ls8")) :=
    hline (by decide) (by decide)
  have hfails : first.1.status = 1 := by decide +kernel
  have hworks : second.1.status = 0 := by decide +kernel
  have hstatus : first.1.status ≠ 0 := by omega
  have hunchanged : first.2 = files := (hassembling _ hfirst).2.1 hstatus
  obtain ⟨program, hprogram, _, hsaves⟩ := (hreplacing line hsecond).2.2 hworks
  exact ⟨hfirst, hsecond, hfails, hunchanged, hworks, program, hprogram, hsaves⟩

end Ls8.Plan
