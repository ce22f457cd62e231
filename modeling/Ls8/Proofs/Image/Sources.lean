import Ls8.Proofs.Image.Saving

/-!
# Source lines

The line that is kept with a byte is the line that was read, without its outer white space. Trimming
knows more white space than may stand in front of a literal; but where such a character stands in
front there is no literal, and what is taken off at the end has no digits (`leadingDigits_trim`). So a
source line is read as its own row again (`textRow?_trim`), and all of them, one a line, are the image
(`sources_aligned`).
-/

namespace Ls8.Image

open Numeral (binary)
open Text (isBlank trim trimEnd)
open Utf8 (encode encode_append)

variable {line : List Char} {row : ImageRow} {image : Image}

/-! ## What trimming does to the digits -/

theorem leadingDigits_blank_cons {c : Char} (hc : isBlank c) (line : List Char) :
    leadingDigits (encode (c :: line)) = [] ∨
      leadingDigits (encode (c :: line)) = leadingDigits (encode line) := by
  by_cases hascii : c.toNat < 0x80
  · have hgap : ∀ n < 0x80, isBlank (Char.ofNat n) → isGap (UInt8.ofNat n) := by decide
    rw [← Char.ofNat_toNat c] at hc
    have hcons : encode (c :: line) = UInt8.ofNat c.toNat :: encode line := by
      rw [encode, List.flatMap_cons, ← encode, ← Char.ofNat_toNat c, Utf8.encodeChar_ofNat _ hascii]
      simp
    right
    rw [hcons, leadingDigits, List.dropWhile_cons_of_pos (hgap _ hascii hc), leadingDigits]
  · left
    refine leadingDigits_eq_nil fun b hb => Utf8.le_of_mem_head?_encode ?_ hb
    rintro _ ⟨⟩
    exact Nat.not_lt.mp hascii

theorem leadingDigits_blank (h : ∀ c ∈ line, isBlank c) : leadingDigits (encode line) = [] := by
  induction line with
  | nil => rfl
  | cons c line ih =>
    obtain ⟨hc, hline⟩ := List.forall_mem_cons.mp h
    rcases leadingDigits_blank_cons hc line with hnil | heq
    · exact hnil
    · rw [heq, ih hline]

theorem leadingDigits_dropWhile (h : leadingDigits (encode line) ≠ []) :
    leadingDigits (encode (line.dropWhile isBlank)) = leadingDigits (encode line) := by
  induction line with
  | nil => rfl
  | cons c line ih =>
    by_cases hc : isBlank c
    · have heq := (leadingDigits_blank_cons hc line).resolve_left h
      rw [List.dropWhile_cons_of_pos hc, ih (heq ▸ h), heq]
    · rw [List.dropWhile_cons_of_neg hc]

theorem leadingDigits_trimEnd (line : List Char) :
    leadingDigits (encode (trimEnd line)) = leadingDigits (encode line) := by
  obtain ⟨post, hpost, hblank⟩ := Text.exists_trimEnd_append line
  conv_rhs => rw [hpost, encode_append, leadingDigits_append _ (leadingDigits_blank hblank)]

theorem leadingDigits_trim (h : leadingDigits (encode line) ≠ []) :
    leadingDigits (encode (trim line)) = leadingDigits (encode line) := by
  rw [trim, leadingDigits_trimEnd, leadingDigits_dropWhile h]

/-! ## Rows of lines -/

theorem leadingDigits_ne_nil (h : textRow? line = some row) : leadingDigits (encode line) ≠ [] := by
  intro hnil
  rw [textRow?, row?, parseLine_eq, hnil] at h
  cases h

theorem source_of_textRow? (h : textRow? line = some row) : row.source.toList = trim line := by
  obtain ⟨byte, _, rfl⟩ := Option.map_eq_some_iff.mp h
  exact String.toList_ofList

theorem textRow?_trim (h : textRow? line = some row) : textRow? (trim line) = some row := by
  rw [← h]
  exact row?_congr (leadingDigits_trim (leadingDigits_ne_nil h)) (Text.trim_trim line)

/-- The row was read from a line. -/
def IsRow (row : ImageRow) : Prop :=
  ∃ line, '\n' ∉ line ∧ textRow? line = some row

theorem IsRow.textRow?_source (h : IsRow row) : textRow? row.source.toList = some row := by
  obtain ⟨line, _, hrow⟩ := h
  rw [source_of_textRow? hrow, textRow?_trim hrow]

theorem IsRow.parseLine_source (h : IsRow row) :
    parseLine (encode row.source.toList) = some row.byte := by
  obtain ⟨byte, hbyte, hrow⟩ := Option.map_eq_some_iff.mp h.textRow?_source
  rw [hbyte, ← hrow]

theorem IsRow.feed_not_mem (h : IsRow row) : '\n' ∉ row.source.toList := by
  obtain ⟨line, hfeed, hrow⟩ := h
  rw [source_of_textRow? hrow]
  exact fun hmem => hfeed (Text.mem_of_mem_trim hmem)

theorem IsRow.getLast?_ne (h : IsRow row) : row.source.toList.getLast? ≠ some '\r' := by
  obtain ⟨line, _, hrow⟩ := h
  rw [source_of_textRow? hrow]
  intro hlast
  have hreturn : isBlank '\r' = false := Text.isBlank_of_mem_getLast?_trim hlast
  revert hreturn
  decide

theorem IsRow.source_ne_nil (h : IsRow row) : row.source.toList ≠ [] := by
  intro hnil
  have hrow := h.textRow?_source
  rw [hnil] at hrow
  cases hrow

/-! ## Images -/

/-- The source lines of an image go with its bytes: there is one for each, it is read as this byte,
and all of them, one a line, are read as the image. -/
structure Aligned (image : Image) : Prop where
  length_sources : image.sources.length = image.bytes.length
  parseLine_sources :
    image.sources.map (fun source => parseLine (encode source.toList)) = image.bytes.map some
  ofText_sources : ofText ("\n".intercalate image.sources) = image

theorem lines_sources (h : ∀ row ∈ image.rows, IsRow row) :
    Text.lines ("\n".intercalate image.sources).toList = image.rows.map (·.source.toList) := by
  rw [String.toList_intercalate, sources, List.map_map]
  refine Text.lines_intercalate ?_ ?_ ?_
  · exact List.forall_mem_map.mpr fun row hrow => (h row hrow).feed_not_mem
  · exact List.forall_mem_map.mpr fun row hrow => (h row hrow).getLast?_ne
  · intro hlast
    obtain ⟨row, hrow, hnil⟩ := List.mem_map.mp (List.mem_of_getLast? hlast)
    exact (h row hrow).source_ne_nil hnil

theorem aligned_of_isRow (h : ∀ row ∈ image.rows, IsRow row) : image.Aligned := by
  refine ⟨?_, ?_, ?_⟩
  · rw [sources, bytes, List.length_map, List.length_map]
  · rw [sources, bytes, List.map_map, List.map_map]
    exact List.map_congr_left fun row hrow => (h row hrow).parseLine_source
  · have hrows : (image.rows.map (·.source.toList)).filterMap textRow? = image.rows := by
      rw [List.filterMap_map]
      exact (List.filterMap_congr fun row hrow => (h row hrow).textRow?_source).trans
        List.filterMap_some
    exact congrArg Image.mk ((congrArg _ (lines_sources h)).trans hrows)

theorem isRow_of_mem_filterMap {text : List Char}
    (h : row ∈ (text.splitOn '\n').filterMap textRow?) : IsRow row := by
  obtain ⟨line, hline, hrow⟩ := List.mem_filterMap.mp h
  exact ⟨line, Text.not_mem_of_mem_splitOn hline, hrow⟩

theorem isRow_binary (byte : UInt8) : IsRow ⟨byte, binary byte.toNat⟩ := by
  have hword := Assembly.isWord_binary byte.toNat
  refine ⟨(binary byte.toNat).toList, hword.not_mem (by decide), ?_⟩
  rw [textRow?, row?, parseLine_binary, hword.trim_eq, String.ofList_toList, Option.map_some]

/-- **Source lines stay with their bytes**, wherever an image comes from: a text, a file with any
octets, or bytes alone. -/
theorem sources_aligned :
    (∀ text : String, (ofText text).Aligned) ∧ (∀ content : List UInt8, (ofFile content).Aligned) ∧
      ∀ bytes : List UInt8, (ofBytes bytes).Aligned := by
  refine ⟨fun text => ?_, fun content => ?_, fun bytes => ?_⟩
  · refine aligned_of_isRow fun row hrow => ?_
    rw [rows_ofText] at hrow
    exact isRow_of_mem_filterMap hrow
  · refine aligned_of_isRow fun row hrow => ?_
    rw [rows_ofFile] at hrow
    exact isRow_of_mem_filterMap hrow
  · exact aligned_of_isRow (List.forall_mem_map.mpr fun byte _ => isRow_binary byte)

end Ls8.Image
