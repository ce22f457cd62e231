import Ls8.Proofs.Assembly.Statement
import Ls8.Proofs.Command.Files
import Ls8.Proofs.Image.Literal

/-!
# Saving programs

In the text form of a program every line but the first two starts with the eight digits of a byte, and
nothing else is read (`filterMap_render`). So what was saved is loaded again (`saved_image`).
-/

namespace Ls8.Image

open Numeral (binary decimal hex natural?_binary)
open Assembly (isWord_binary isWord_decimal isWord_hex)
open Text (trim)
open Utf8 (decode? encode encode_append)

/-! ## Digits -/

/-- The eight bits of a byte as digits, the highest first. -/
def bits (byte : UInt8) : String :=
  String.ofList ((List.range 8).reverse.map fun k => if byte.toNat.testBit k then '1' else '0')

theorem binary_eq_bits (byte : UInt8) : binary byte.toNat = bits byte := by
  have hbytes : ∀ n < 256, (Numeral.digits 2 n).leftpad 8 '0' =
      (List.range 8).reverse.map fun k => if n.testBit k then '1' else '0' := by
    decide +kernel
  rw [binary, Numeral.padded, hbytes _ byte.toNat_lt, bits]

/-! ## The text form -/

/-- The source line of a byte at an address. -/
def source (byte : UInt8) (address : Nat) : String :=
  binary byte.toNat ++ " # " ++ hex address

def title (count : Nat) : List Char :=
  ("# LS8 program, " ++ decimal count ++ " bytes").toList

/-- The other lines, with the addresses counted from one on. -/
def sourceLines (address : Nat) (bytes : List UInt8) : List (List Char) :=
  (bytes.zipIdx address).map fun (byte, address) => (source byte address).toList

theorem toList_linesFrom (address : Nat) (bytes : List UInt8) :
    (linesFrom address bytes).flatMap String.toList =
      (sourceLines address bytes).flatMap (· ++ ['\n']) := by
  induction bytes generalizing address with
  | nil => rfl
  | cons byte bytes ih =>
    have hline : (line byte address).toList = (source byte address).toList ++ ['\n'] :=
      String.toList_append
    rw [linesFrom, List.flatMap_cons, ih, hline]
    rfl

theorem toList_render (bytes : List UInt8) :
    (render bytes).toList =
      (title bytes.length :: [] :: sourceLines 0 bytes).flatMap (· ++ ['\n']) := by
  have hrender : render bytes = "# LS8 program, " ++ decimal bytes.length ++ " bytes\n\n" ++
      String.join (linesFrom 0 bytes) := rfl
  rw [hrender, String.toList_append, String.toList_join, toList_linesFrom]
  simp [title]

theorem toList_source (byte : UInt8) (address : Nat) :
    (source byte address).toList =
      (binary byte.toNat).toList ++ ([' ', '#', ' '] ++ (hex address).toList) := by
  rw [source, String.toList_append, String.toList_append, List.append_assoc]
  rfl

theorem not_mem_source {c : Char} (hc : c = '\n' ∨ c = '\r') (byte : UInt8) (address : Nat) :
    c ∉ (source byte address).toList := by
  have hplain : Assembly.isPlain c = false := by
    rcases hc with rfl | rfl <;> decide
  have hcomment : c ∉ [' ', '#', ' '] := by
    rcases hc with rfl | rfl <;> decide
  rw [toList_source, List.mem_append, List.mem_append, not_or, not_or]
  exact ⟨(isWord_binary _).not_mem hplain, hcomment, (isWord_hex _).not_mem hplain⟩

theorem not_mem_title {c : Char} (hc : c = '\n' ∨ c = '\r') (count : Nat) : c ∉ title count := by
  have hplain : Assembly.isPlain c = false := by
    rcases hc with rfl | rfl <;> decide
  have hends : c ∉ "# LS8 program, ".toList ∧ c ∉ " bytes".toList := by
    rcases hc with rfl | rfl <;> decide
  rw [title, String.toList_append, String.toList_append, List.mem_append, List.mem_append, not_or,
    not_or]
  exact ⟨⟨hends.1, (isWord_decimal count).not_mem hplain⟩, hends.2⟩

theorem not_mem_lines {c : Char} (hc : c = '\n' ∨ c = '\r') (bytes : List UInt8) :
    ∀ s ∈ title bytes.length :: [] :: sourceLines 0 bytes, c ∉ s := by
  refine List.forall_mem_cons.mpr ⟨not_mem_title hc _, List.forall_mem_cons.mpr ⟨nofun, ?_⟩⟩
  exact List.forall_mem_map.mpr fun entry _ => not_mem_source hc entry.1 entry.2

theorem lines_render (bytes : List UInt8) :
    Text.lines (render bytes).toList = title bytes.length :: [] :: sourceLines 0 bytes := by
  rw [toList_render]
  exact Text.lines_flatMap (not_mem_lines (.inl rfl) bytes) fun s hs hlast =>
    not_mem_lines (.inr rfl) bytes s hs (List.mem_of_getLast? hlast)

/-! ## What the text form is read as -/

theorem textRow?_title (count : Nat) : textRow? (title count) = none := by
  rw [title, String.toList_append, String.toList_append]
  rfl

theorem parseLine_binary (byte : UInt8) :
    parseLine (encode (binary byte.toNat).toList) = some byte := by
  have hlength : (binary byte.toNat).toList.length = 8 := by
    rw [binary_eq_bits, bits, String.toList_ofList, List.length_map, List.length_reverse,
      List.length_range]
  rw [parseLine_of_natural? (natural?_binary _) (by omega), UInt8.ofNat_toNat]

theorem textRow?_source (byte : UInt8) (address : Nat) :
    textRow? (source byte address).toList = some ⟨byte, source byte address⟩ := by
  have hcomment : leadingDigits (encode ([' ', '#', ' '] ++ (hex address).toList)) = [] := rfl
  have hbyte : parseLine (encode (source byte address).toList) = some byte := by
    rw [toList_source, encode_append, parseLine_eq, leadingDigits_append _ hcomment, ← parseLine_eq,
      parseLine_binary]
  have htrim : trim (source byte address).toList = (source byte address).toList := by
    rw [toList_source]
    exact (isWord_binary _).trim_append (isWord_hex _) _
  rw [textRow?, row?, hbyte, htrim, String.ofList_toList, Option.map_some]

/-- The rows of a program, with the addresses counted from one on. -/
def savedRows (address : Nat) (bytes : List UInt8) : List ImageRow :=
  (bytes.zipIdx address).map fun (byte, address) => ⟨byte, source byte address⟩

theorem filterMap_sourceLines (address : Nat) (bytes : List UInt8) :
    (sourceLines address bytes).filterMap textRow? = savedRows address bytes := by
  induction bytes generalizing address with
  | nil => rfl
  | cons byte bytes ih =>
    rw [sourceLines, savedRows, List.zipIdx_cons, List.map_cons, List.map_cons,
      List.filterMap_cons_some (textRow?_source byte address), ← sourceLines, ih, savedRows]

theorem filterMap_render (bytes : List UInt8) :
    ((render bytes).toList.splitOn '\n').filterMap textRow? = savedRows 0 bytes := by
  have hnil : textRow? [] = none := rfl
  rw [toList_render, Text.splitOn_lines (not_mem_lines (.inl rfl) bytes), List.filterMap_append,
    List.filterMap_cons_none (textRow?_title _), List.filterMap_cons_none hnil,
    List.filterMap_cons_none hnil, filterMap_sourceLines, List.filterMap_nil, List.append_nil]

theorem rows_ofText_render (bytes : List UInt8) :
    (ofText (render bytes)).rows = savedRows 0 bytes := by
  rw [rows_ofText, filterMap_render]

theorem rows_ofFile_fileContent (bytes : List UInt8) :
    (ofFile (fileContent bytes)).rows = savedRows 0 bytes := by
  rw [rows_ofFile, fileContent, Utf8.decodeLossy_encode, filterMap_render]

/-! ## Saving and loading -/

/-- An image holds a program and shows each byte in binary, with its address behind. -/
structure Restores (image : Image) (program : List UInt8) : Prop where
  bytes : image.bytes = program
  sources : image.sources = program.mapIdx fun address byte => bits byte ++ " # " ++ hex address

theorem restores_of_rows {image : Image} {bytes : List UInt8} (h : image.rows = savedRows 0 bytes) :
    image.Restores bytes := by
  constructor
  · rw [Image.bytes, h, savedRows, List.map_map]
    exact List.zipIdx_map_fst 0 bytes
  · rw [sources, h, savedRows, List.map_map, List.mapIdx_eq_zipIdx_map]
    refine List.map_congr_left fun entry _ => ?_
    show binary entry.1.toNat ++ " # " ++ hex entry.2 = _
    rw [binary_eq_bits]

/-- **Nothing is lost.** What is written of a program is text, and this text and every file that it is
saved in, but for the device that keeps nothing, are read as the program again. -/
theorem saved_image (bytes : List UInt8) :
    (write .unlimited bytes).2 = none ∧
      (∃ text, decode? (write .unlimited bytes).1.taken.toList = some text ∧
        (ofText (String.ofList text)).Restores bytes) ∧
      ∀ (files after : Files) (path : String),
        files.create path (fileContent bytes) = .ok after → files.find path ≠ .ok .null →
          ∃ content, after.read path = .ok content ∧ (ofFile content).Restores bytes := by
  refine ⟨rfl, ⟨(render bytes).toList, ?_, ?_⟩, ?_⟩
  · rw [write, Sink.write, Sink.toList_taken_unlimited, fileContent, Utf8.decode?_encode]
  · rw [String.ofList_toList]
    exact restores_of_rows (rows_ofText_render bytes)
  · intro files after path hcreate hnull
    refine ⟨fileContent bytes, Files.read_create hcreate hnull, ?_⟩
    exact restores_of_rows (rows_ofFile_fileContent bytes)

/-- A program in place of another one, on a way that goes up and down again. -/
theorem saved_image_replaced :
    let bytes := [0x82, 0x00, 0x08, 0x47, 0x00, 0x01]
    let files := Files.empty.put ["out", "print8.ls8"] [0x31]
    let after := files.put ["out", "print8.ls8"] (fileContent bytes)
    files.create "out/../out/./print8.ls8" (fileContent bytes) = .ok after ∧
      files.find "out/../out/./print8.ls8" ≠ .ok .null ∧
      ∃ content, after.read "out/../out/./print8.ls8" = .ok content ∧
        (ofFile content).Restores bytes := by
  intro bytes files after
  have hcreate : files.create "out/../out/./print8.ls8" (fileContent bytes) = .ok after := rfl
  have hnull : files.find "out/../out/./print8.ls8" ≠ .ok .null := nofun
  exact ⟨hcreate, hnull, (saved_image bytes).2.2 files after _ hcreate hnull⟩

end Ls8.Image
