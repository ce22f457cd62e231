import Ls8.Proofs.Assembly.TwoPass
import Ls8.Proofs.Command.Assembling
import Ls8.Proofs.Command.Paths

/-!
# Assembling in place

Without an output path a source is replaced by its image if it is named like one, and any other source
is kept, as the image goes beside it. A source that is replaced is not what it was: the text form of a
program is refused as a source, because its first byte stands where a mnemonic should
(`assemble_render_cons`). Only the text form of no bytes is a source of no bytes. `source_kept_iff`
puts these together.
-/

namespace Ls8.Image

open Assembly (Fault IsWord isWord_binary readInstruction readLine readLine_plainStatement
  readStatement readStatement_plainStatement scan scanLine stripComment)
open Numeral (binary hex)
open Text (capital capitals isBlank)

/-! ## The text form as a source -/

theorem capitals_binary (byte : UInt8) :
    capitals (binary byte.toNat).toList = (binary byte.toNat).toList := by
  have hdigit : ∀ c ∈ (binary byte.toNat).toList, capital c = [c] := by
    intro c hc
    rw [binary_eq_bits, bits, String.toList_ofList] at hc
    obtain ⟨k, -, rfl⟩ := List.mem_map.mp hc
    split <;> rfl
  exact (List.flatMap_congr hdigit).trans (List.flatMap_singleton' _)

theorem head?_binary (byte : UInt8) :
    (binary byte.toNat).toList.head? = some '1' ∨ (binary byte.toNat).toList.head? = some '0' := by
  rw [binary_eq_bits, bits, String.toList_ofList]
  exact (ite_eq_or_eq _ _ _).imp (congrArg some) (congrArg some)

theorem ofMnemonic?_binary (byte : UInt8) :
    Opcode.ofMnemonic? (binary byte.toNat).toList = none := by
  have hletter : ∀ op : Opcode,
      op.mnemonic.toList.head? ≠ some '1' ∧ op.mnemonic.toList.head? ≠ some '0' := by
    intro op
    cases op <;> decide
  rw [Opcode.ofMnemonic?, List.find?_eq_none]
  intro op _ hname
  have hhead : op.mnemonic.toList.head? = (binary byte.toNat).toList.head?.map Char.toUpper := by
    rw [beq_iff_eq.mp hname, List.head?_map]
  rcases head?_binary byte with h | h <;> rw [h] at hhead
  · exact (hletter op).1 hhead
  · exact (hletter op).2 hhead

theorem binary_ne_db (byte : UInt8) : (binary byte.toNat).toList ≠ ['D', 'B'] := by
  intro hdata
  have hhead := head?_binary byte
  rw [hdata] at hhead
  revert hhead
  decide

theorem scanLine_word {word comment : List Char} {fault : Fault} (hword : IsWord word)
    (hcomment : (stripComment comment).all isBlank)
    (hfault : readInstruction (capitals word) [] = .error fault) (line : Nat)
    (defined : List String) : scanLine line defined (word ++ comment) = .error fault := by
  have hread : readLine (word ++ comment) = .ok ⟨none, word⟩ :=
    readLine_plainStatement hword (List.forall_mem_nil _) hcomment
  have hstatement : readStatement word = readInstruction (capitals word) [] :=
    readStatement_plainStatement hword (List.forall_mem_nil _)
  rw [scanLine, hread]
  simp only [hstatement, hfault, Except.map]

theorem scanLine_source (byte : UInt8) (address line : Nat) (defined : List String) :
    scanLine line defined (source byte address).toList =
      .error (.unknownMnemonic (binary byte.toNat)) := by
  have hcomment : (stripComment ([' ', '#', ' '] ++ (hex address).toList)).all isBlank := rfl
  rw [toList_source]
  refine scanLine_word (isWord_binary _) hcomment ?_ line defined
  rw [capitals_binary, readInstruction, if_neg (binary_ne_db byte), ofMnemonic?_binary]
  simp only [String.ofList_toList]

theorem assemble_render_cons (byte : UInt8) (bytes : List UInt8) :
    assemble (render (byte :: bytes)) = .error ⟨3, .unknownMnemonic (binary byte.toNat)⟩ := by
  have htitle : scanLine 1 [] (title (byte :: bytes).length) = .ok [] := by
    rw [title, String.toList_append, String.toList_append]
    rfl
  have hempty : scanLine 2 [] [] = .ok [] := rfl
  have hlines : sourceLines 0 (byte :: bytes) = (source byte 0).toList :: sourceLines 1 bytes := rfl
  rw [Assembly.assemble_eq_twoPass, Assembly.twoPass, lines_render, hlines, scan, htitle]
  simp only [Assembly.labels, List.nil_append]
  rw [scan, hempty]
  simp only [Assembly.labels, List.nil_append]
  rw [scan, scanLine_source]
  rfl

end Ls8.Image

namespace Ls8.Plan

open Image (fileContent render)

variable {files : Files} {path : String} {program : List UInt8}

theorem eq_nil_of_assembles (h : Assembles files path program)
    (hread : files.read path = .ok (fileContent program)) : program = [] := by
  obtain ⟨content, text, hcontent, htext, hprogram⟩ := h
  cases program with
  | nil => rfl
  | cons byte bytes =>
    obtain rfl := Except.ok.inj (hread.symm.trans hcontent)
    rw [fileContent, Utf8.decode?_encode] at htext
    rw [← Option.some.inj htext, String.ofList_toList, Image.assemble_render_cons] at hprogram
    cases hprogram

theorem assembles_nil (h : files.read path = .ok (fileContent [])) : Assembles files path [] :=
  ⟨_, (render []).toList, h, Utf8.decode?_encode _, by decide +kernel⟩

/-! ## The source -/

theorem read_perform_assembling_of_hasEnding (hending : Files.HasEnding path "ls8")
    (hassembles : Assembles files path program) :
    ((assembling path none).perform files).2.read path = .ok (fileContent program) := by
  have hdot : '.' ∉ "ls8".toList := by decide
  obtain ⟨content, -, hread, -⟩ := id hassembles
  obtain ⟨made, hcreate, hmade⟩ :=
    Files.create_withEnding hdot hread (fileContent program) hending
  have hperform : (assembling path none).perform files = (_, made) :=
    (perform_assembling_of_assembles hassembles).trans (perform_saving_of_ok hcreate)
  rw [hperform, hmade]

theorem read_perform_assembling_of_not_hasEnding (hending : ¬Files.HasEnding path "ls8") :
    ((assembling path none).perform files).2.read path = files.read path := by
  have hslash : '/' ∉ "ls8".toList := by decide
  have hdot : '.' ∉ "ls8".toList := by decide
  rcases perform_assembling_cases files path none with
    ⟨⟨message, hperform⟩, -⟩ | ⟨program, made, hassembles, hcreate, hperform⟩
  · rw [hperform]
  · obtain ⟨content, -, hread, -⟩ := id hassembles
    rw [hperform, hread]
    exact Files.read_create_withEnding hdot hread hslash hcreate hending

/-- **A source is kept unless it is named like its image.** Every source path can be given without an
output path. However it is given, what is read there afterwards is what was read before, or there is
nothing to read for the same reason, unless

* the path has the ending `ls8` already: its last name has it, behind a stem that is neither empty nor
  a dot; and
* the source can be read, is text and assembles, and it is not the text form of no bytes.

Such a source is lost: what is read there afterwards is the text form of the bytes that it assembled
to. -/
theorem source_kept_iff (files : Files) (path : String) :
    (path ≠ "" →
      Arguments.parse (Arguments.assemblyLine path none) = some (.assemble path none)) ∧
    ∀ arguments, Arguments.parse arguments = some (.assemble path none) →
      let after := ((ofArguments arguments).perform files).2
      (after.read path = files.read path ↔
          ¬(Files.HasEnding path "ls8" ∧ (∃ program, Assembles files path program) ∧
            files.read path ≠ .ok (fileContent []))) ∧
        ∀ program, Files.HasEnding path "ls8" → Assembles files path program →
          after.read path = .ok (fileContent program) := by
  refine ⟨fun hpath => Arguments.parse_assemblyLine hpath nofun, fun arguments hparse => ?_⟩
  have hplan : ofArguments arguments = assembling path none := by
    rw [ofArguments, hparse]
    rfl
  rw [hplan]
  intro after
  have hlost : ∀ program, Files.HasEnding path "ls8" → Assembles files path program →
      after.read path = .ok (fileContent program) :=
    fun _ => read_perform_assembling_of_hasEnding
  refine ⟨⟨?_, fun hother => ?_⟩, hlost⟩
  · rintro hkept ⟨hending, ⟨program, hassembles⟩, hne⟩
    have hread : files.read path = .ok (fileContent program) :=
      hkept.symm.trans (hlost program hending hassembles)
    rw [eq_nil_of_assembles hassembles hread] at hread
    exact hne hread
  · by_cases hending : Files.HasEnding path "ls8"
    · by_cases hassembles : ∃ program, Assembles files path program
      · have hempty : files.read path = .ok (fileContent []) :=
          Decidable.not_not.mp fun hne => hother ⟨hending, hassembles, hne⟩
        rw [hlost [] hending (assembles_nil hempty), hempty]
      · obtain ⟨message, hperform⟩ := perform_assembling_of_not_assembles hassembles
        have hafter : after = files := congrArg Prod.snd hperform
        rw [hafter]
    · exact read_perform_assembling_of_not_hasEnding hending

/-- A name that is only a dot and the ending does not have this ending; a name with two dots has it. -/
theorem source_kept_dot_file :
    let text := Utf8.encode "HLT\n".toList
    let files := (Files.empty.put [".ls8"] text).put ["src", "v1.2.ls8"] text
    let kept := ((ofArguments ["asm", ".ls8"]).perform files).2
    let lost := ((ofArguments ["asm", "src/v1.2.ls8"]).perform files).2
    Arguments.parse ["asm", ".ls8"] = some (.assemble ".ls8" none) ∧
      Arguments.parse ["asm", "src/v1.2.ls8"] = some (.assemble "src/v1.2.ls8" none) ∧
      ¬Files.HasEnding ".ls8" "ls8" ∧ kept.read ".ls8" = files.read ".ls8" ∧
      Files.HasEnding "src/v1.2.ls8" "ls8" ∧ Assembles files "src/v1.2.ls8" [0x01] ∧
      lost.read "src/v1.2.ls8" = .ok (fileContent [0x01]) := by
  intro text files kept lost
  have hfirst : Arguments.parse ["asm", ".ls8"] = some (.assemble ".ls8" none) := by
    decide +kernel
  have hsecond :
      Arguments.parse ["asm", "src/v1.2.ls8"] = some (.assemble "src/v1.2.ls8" none) := by
    decide +kernel
  have hdot : ¬Files.HasEnding ".ls8" "ls8" := by
    rintro ⟨directory, stem, hpath, hnil, -⟩
    have hlength : 4 = directory.length + (stem.length + 4) := by
      simpa using congrArg List.length hpath.toList_eq
    exact hnil (List.length_eq_zero_iff.mp (by omega))
  have hending : Files.HasEnding "src/v1.2.ls8" "ls8" := by
    refine ⟨"src/".toList, "v1.2".toList, ⟨by decide, by decide, ?_⟩, by decide, by decide⟩
    rintro _ ⟨⟩
    rfl
  have hassembles : Assembles files "src/v1.2.ls8" [0x01] :=
    ⟨text, "HLT\n".toList, by decide +kernel, by decide +kernel, by decide +kernel⟩
  obtain ⟨hkept, -⟩ := (source_kept_iff files ".ls8").2 _ hfirst
  obtain ⟨-, hlost⟩ := (source_kept_iff files "src/v1.2.ls8").2 _ hsecond
  exact ⟨hfirst, hsecond, hdot, hkept.mpr fun h => hdot h.1, hending, hassembles,
    hlost _ hending hassembles⟩

theorem source_lost :
    let files := Files.empty.put ["stop.ls8"] (Utf8.encode "HLT\n".toList)
    let performed := (ofArguments ["asm", "stop.ls8"]).perform files
    Arguments.parse ["asm", "stop.ls8"] = some (.assemble "stop.ls8" none) ∧
      performed.1.status = 0 ∧
      performed.2.read "stop.ls8" = .ok (fileContent [0x01]) ∧
      performed.2.read "stop.ls8" ≠ files.read "stop.ls8" := by
  intro files performed
  have hparse : Arguments.parse ["asm", "stop.ls8"] = some (.assemble "stop.ls8" none) := by
    decide +kernel
  have hstatus : performed.1.status = 0 := by
    decide +kernel
  have hafter : performed.2.read "stop.ls8" = .ok (fileContent [0x01]) := by
    decide +kernel
  have hbefore : files.read "stop.ls8" ≠ .ok (fileContent [0x01]) := by
    decide +kernel
  exact ⟨hparse, hstatus, hafter, fun h => hbefore (h.symm.trans hafter)⟩

end Ls8.Plan
