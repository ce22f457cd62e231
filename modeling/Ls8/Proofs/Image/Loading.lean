import Mathlib.Data.List.TakeWhile
import Ls8.Image
import Ls8.Proofs.Output
import Ls8.Proofs.Text.Lines
import Ls8.Proofs.Text.Utf8

/-!
# Loading programs

Only the digits that a line starts with (`leadingDigits`) say whether it is a row and what its byte
is. They are ASCII, so decoding a line does not change them (`leadingDigits_decodeLossy`), and a file
is the same image as its text (`ofFile_eq_ofText`).
-/

namespace Ls8.Image

open Text (isBlank trim)
open Utf8 (decodeLossy encode encode_append)

/-! ## The digits of a line -/

/-- The digits that a line starts with. -/
def leadingDigits (line : List UInt8) : List UInt8 :=
  (line.dropWhile isGap).takeWhile isBit

theorem parseLine_eq (line : List UInt8) :
    parseLine line =
      if (leadingDigits line).isEmpty then none else some (literal (leadingDigits line)) := rfl

theorem eq_zero_or_one_of_isBit {b : UInt8} (h : isBit b) : b = 0x30 ∨ b = 0x31 := by
  simpa [isBit] using h

theorem isGap_of_isBit {b : UInt8} (h : isBit b) : isGap b = false := by
  rcases eq_zero_or_one_of_isBit h with rfl | rfl <;> rfl

theorem takeWhile_isBit_eq_nil {line : List UInt8} (h : leadingDigits line = []) :
    line.takeWhile isBit = [] := by
  cases line with
  | nil => rfl
  | cons b bs =>
    by_cases hbit : isBit b
    · rw [leadingDigits, List.dropWhile_cons_of_neg (by simp [isGap_of_isBit hbit]),
        List.takeWhile_cons_of_pos hbit] at h
      cases h
    · exact List.takeWhile_cons_of_neg hbit

theorem leadingDigits_append (line : List UInt8) {rest : List UInt8} (h : leadingDigits rest = []) :
    leadingDigits (line ++ rest) = leadingDigits line := by
  rw [leadingDigits, leadingDigits, List.dropWhile_append]
  split
  · rename_i hempty
    rw [List.isEmpty_iff.mp hempty]
    exact h
  · rw [List.takeWhile_append, takeWhile_isBit_eq_nil h, List.append_nil]
    split
    · rename_i hlength
      exact (List.takeWhile_prefix isBit).eq_of_length hlength |>.symm
    · rfl

theorem toNat_lt_of_isGap {b : UInt8} (h : isGap b) : b.toNat < 0x80 := by
  simp only [isGap, Bool.or_eq_true, beq_iff_eq] at h
  rcases h with ((((rfl | rfl) | rfl) | rfl) | rfl) | rfl <;> decide

theorem toNat_lt_of_isBit {b : UInt8} (h : isBit b) : b.toNat < 0x80 := by
  rcases eq_zero_or_one_of_isBit h with rfl | rfl <;> decide

theorem leadingDigits_eq_nil {line : List UInt8} (h : ∀ b ∈ line.head?, 0x80 ≤ b.toNat) :
    leadingDigits line = [] := by
  cases line with
  | nil => rfl
  | cons b bs =>
    have hb : ¬ b.toNat < 0x80 := Nat.not_lt.mpr (h b rfl)
    rw [leadingDigits, List.dropWhile_cons_of_neg (fun hgap => hb (toNat_lt_of_isGap hgap)),
      List.takeWhile_cons_of_neg (fun hbit => hb (toNat_lt_of_isBit hbit))]

theorem exists_ascii_append (line : List UInt8) :
    ∃ ascii rest, line = ascii ++ rest ∧ (∀ b ∈ ascii, b.toNat < 0x80) ∧
      ∀ b ∈ rest.head?, 0x80 ≤ b.toNat := by
  induction line with
  | nil => exact ⟨[], [], rfl, List.forall_mem_nil _, nofun⟩
  | cons b line ih =>
    by_cases hb : b.toNat < 0x80
    · obtain ⟨ascii, rest, rfl, hascii, hrest⟩ := ih
      exact ⟨b :: ascii, rest, rfl, List.forall_mem_cons.mpr ⟨hb, hascii⟩, hrest⟩
    · refine ⟨[], b :: line, rfl, List.forall_mem_nil _, ?_⟩
      rintro _ ⟨⟩
      exact Nat.not_lt.mp hb

/-- Decoding a line leaves its digits alone: they lie in its ASCII part, and what follows that part
does not become ASCII. -/
theorem leadingDigits_decodeLossy (line : List UInt8) :
    leadingDigits (encode (decodeLossy line)) = leadingDigits line := by
  obtain ⟨ascii, rest, rfl, hascii, hrest⟩ := exists_ascii_append line
  have hdecoded : ∀ b ∈ (encode (decodeLossy rest)).head?, 0x80 ≤ b.toNat := fun b hb =>
    Utf8.le_of_mem_head?_encode (fun c hc => Utf8.le_of_mem_head?_decodeLossy hrest hc) hb
  rw [Utf8.encode_decodeLossy_append hascii,
    leadingDigits_append ascii (leadingDigits_eq_nil hdecoded),
    leadingDigits_append ascii (leadingDigits_eq_nil hrest)]

/-! ## Rows -/

theorem row?_congr {line line' : List UInt8} {text text' : List Char}
    (h : leadingDigits line = leadingDigits line') (htext : trim text = trim text') :
    row? line text = row? line' text' := by
  rw [row?, row?, parseLine_eq, parseLine_eq, h, htext]

/-- The row of a line of text. -/
def textRow? (line : List Char) : Option ImageRow :=
  row? (encode line) line

theorem row?_decodeLossy (line : List UInt8) :
    row? line (decodeLossy line) = textRow? (decodeLossy line) :=
  row?_congr (leadingDigits_decodeLossy line).symm rfl

theorem textRow?_append_return (line : List Char) : textRow? (line ++ ['\r']) = textRow? line := by
  have hdigits : leadingDigits (encode ['\r']) = [] := rfl
  have hblank : ∀ c ∈ ['\r'], isBlank c := List.forall_mem_singleton.mpr rfl
  refine row?_congr ?_ (Text.trim_append_blank line hblank)
  rw [encode_append, leadingDigits_append _ hdigits]

theorem rows_ofText (text : String) :
    (ofText text).rows = (text.toList.splitOn '\n').filterMap textRow? :=
  Text.filterMap_lines rfl textRow?_append_return text.toList

theorem rows_ofFile (content : List UInt8) :
    (ofFile content).rows = ((decodeLossy content).splitOn '\n').filterMap textRow? := by
  have hrow : (fun line => row? line (decodeLossy line)) = textRow? ∘ decodeLossy :=
    funext row?_decodeLossy
  rw [Utf8.splitOn_decodeLossy, List.filterMap_map, ← hrow]
  rfl

/-- A file is the same image as its text, whatever octets it has. -/
theorem ofFile_eq_ofText (content : List UInt8) :
    ofFile content = ofText (String.ofList (decodeLossy content)) := by
  have hrows : (ofFile content).rows = (ofText (String.ofList (decodeLossy content))).rows := by
    rw [rows_ofFile, rows_ofText, String.toList_ofList]
  exact congrArg Image.mk hrows

end Ls8.Image
