import Mathlib.Data.List.Induction
import Mathlib.Data.Nat.Digits.Defs
import Ls8.Proofs.Image.Loading
import Ls8.Proofs.Text.Numeral

/-!
# The value of a literal

Digit after digit, only the low byte of a number is kept (`lowByte_eq`), and whether the number fits
64 bits is seen from how many digits follow the zeros in front (`value_lt_iff`). Together this is the
low byte of the number, or of the greatest number of 64 bits where that is less
(`parseLine_saturates`). A numeral of at most 64 digits is read as its own low byte
(`parseLine_of_natural?`).
-/

namespace Ls8.Image

open Numeral (continue? digitValue? natural?)
open Utf8 (encode)

/-- The number that binary digits are; the last one counts least. -/
def value (digits : List UInt8) : Nat :=
  Nat.ofDigits 2 (digits.reverse.map fun digit => digit.toNat - 0x30)

variable {digits : List UInt8}

theorem value_concat (digits : List UInt8) (digit : UInt8) :
    value (digits ++ [digit]) = value digits * 2 + (digit.toNat - 0x30) := by
  rw [value, List.reverse_append, List.reverse_singleton, List.singleton_append, List.map_cons,
    Nat.ofDigits_cons, ← value, Nat.mul_comm, Nat.add_comm]

theorem value_cons (digit : UInt8) (digits : List UInt8) :
    value (digit :: digits) = value digits + 2 ^ digits.length * (digit.toNat - 0x30) := by
  rw [value, List.reverse_cons, List.map_append, List.map_singleton, Nat.ofDigits_append,
    Nat.ofDigits_singleton, List.length_map, List.length_reverse, ← value]

/-! ## The low byte -/

theorem shift_or_bit (acc : Nat) {d : Nat} (hd : d < 2) :
    (UInt8.ofNat acc <<< 1) ||| UInt8.ofNat d = UInt8.ofNat (acc * 2 + d) := by
  have hshift : acc % 256 * 2 % 256 = 2 ^ 1 * (acc % 128) := by omega
  have hor : 2 ^ 1 * (acc % 128) ||| d = 2 ^ 1 * (acc % 128) + d :=
    (Nat.two_pow_add_eq_or_of_lt hd _).symm
  apply UInt8.toNat_inj.mp
  rw [UInt8.toNat_or, UInt8.toNat_shiftLeft, UInt8.toNat_ofNat', UInt8.toNat_ofNat',
    UInt8.toNat_ofNat', Nat.shiftLeft_eq]
  show acc % 256 * 2 % 256 ||| d % 256 = (acc * 2 + d) % 256
  rw [hshift, Nat.mod_eq_of_lt (Nat.lt_trans hd (by decide)), hor]
  omega

theorem lowByte_eq (h : ∀ digit ∈ digits, isBit digit) :
    lowByte digits = UInt8.ofNat (value digits) := by
  induction digits using List.reverseRecOn with
  | nil => rfl
  | append_singleton digits digit ih =>
    obtain ⟨hdigits, hdigit⟩ := List.forall_mem_append.mp h
    have hlow : lowByte (digits ++ [digit]) = (lowByte digits <<< 1) ||| (digit - 0x30) := by
      rw [lowByte, List.foldl_append, ← lowByte]
      rfl
    rw [hlow, ih hdigits, value_concat]
    rcases eq_zero_or_one_of_isBit (hdigit digit List.mem_cons_self) with rfl | rfl
    · exact shift_or_bit _ Nat.two_pos
    · exact shift_or_bit _ Nat.one_lt_two

/-! ## The size -/

theorem value_lt (h : ∀ digit ∈ digits, isBit digit) : value digits < 2 ^ digits.length := by
  rw [← List.length_reverse, ← List.length_map (fun digit : UInt8 => digit.toNat - 0x30)]
  refine Nat.ofDigits_lt_base_pow_length Nat.one_lt_two ?_
  rw [List.forall_mem_map]
  intro digit hdigit
  rcases eq_zero_or_one_of_isBit (h digit (List.mem_reverse.mp hdigit)) with rfl | rfl <;> decide

theorem value_dropWhile_zero (digits : List UInt8) :
    value (digits.dropWhile (· == 0x30)) = value digits := by
  induction digits with
  | nil => rfl
  | cons digit digits ih =>
    rw [List.dropWhile_cons]
    split
    · rename_i hzero
      rw [ih, value_cons, beq_iff_eq.mp hzero]
      simp
    · rfl

/-- Behind the zeros in front, each digit doubles the least number that there can be. -/
theorem value_lt_iff (h : ∀ digit ∈ digits, isBit digit) (n : Nat) :
    value digits < 2 ^ n ↔ (digits.dropWhile (· == 0x30)).length ≤ n := by
  rw [← value_dropWhile_zero]
  have hbits : ∀ digit ∈ digits.dropWhile (· == 0x30), isBit digit :=
    fun digit hdigit => h digit ((List.dropWhile_suffix _).mem hdigit)
  constructor
  · intro hlt
    cases hdigits : digits.dropWhile (· == 0x30) with
    | nil => exact Nat.zero_le n
    | cons first rest =>
      rw [hdigits] at hlt hbits
      have hone : first = 0x31 := by
        have hnot := List.head?_dropWhile_not (· == (0x30 : UInt8)) digits
        simp only [hdigits, List.head?_cons, beq_eq_false_iff_ne] at hnot
        exact (eq_zero_or_one_of_isBit (hbits first List.mem_cons_self)).resolve_left hnot
      have hge : 2 ^ rest.length ≤ value (first :: rest) := by
        rw [value_cons, hone, show (0x31 : UInt8).toNat - 0x30 = 1 from rfl, Nat.mul_one]
        exact Nat.le_add_left _ _
      exact (Nat.pow_lt_pow_iff_right Nat.one_lt_two).mp (Nat.lt_of_le_of_lt hge hlt)
  · intro hle
    exact Nat.lt_of_lt_of_le (value_lt hbits) (Nat.pow_le_pow_right Nat.two_pos hle)

/-! ## The byte -/

theorem literal_eq (h : ∀ digit ∈ digits, isBit digit) :
    literal digits = UInt8.ofNat (min (value digits) (UInt64.size - 1)) := by
  have hfits := value_lt_iff h 64
  rw [literal]
  split
  · rename_i hlong
    have hvalue : UInt64.size - 1 ≤ value digits := by
      have : ¬value digits < 2 ^ 64 := fun hlt => Nat.not_le.mpr hlong (hfits.mp hlt)
      simp only [UInt64.size]
      omega
    rw [Nat.min_eq_right hvalue]
    rfl
  · rename_i hshort
    have hvalue : value digits ≤ UInt64.size - 1 :=
      Nat.le_sub_one_of_lt (hfits.mpr (Nat.not_lt.mp hshort))
    rw [Nat.min_eq_left hvalue, lowByte_eq h]

/-! ## Numerals -/

section

variable {cs : List Char} {acc n : Nat}

theorem eq_of_digitValue? {c : Char} {d : Nat} (h : digitValue? 2 c = some d) :
    c = '0' ∧ d = 0 ∨ c = '1' ∧ d = 1 := by
  have hcode : c.toNat = 48 ∧ d = 0 ∨ c.toNat = 49 ∧ d = 1 := by
    simp only [digitValue?, Numeral.le_iff_toNat_le, Char.reduceToNat] at h
    grind
  rcases hcode with ⟨hc, hd⟩ | ⟨hc, hd⟩
  · exact .inl ⟨Char.toNat_inj.mp hc, hd⟩
  · exact .inr ⟨Char.toNat_inj.mp hc, hd⟩

theorem value_encode (h : continue? 2 acc cs = some n) :
    (∀ b ∈ encode cs, isBit b) ∧ (encode cs).length = cs.length ∧
      n = value (encode cs) + 2 ^ cs.length * acc := by
  induction cs generalizing acc with
  | nil =>
    cases h
    exact ⟨List.forall_mem_nil _, rfl, by simp [value, encode]⟩
  | cons c cs ih =>
    obtain ⟨d, hd, hrest⟩ := Option.bind_eq_some_iff.mp h
    obtain ⟨digit, hdigit, hoctet, hvalue⟩ : ∃ digit, isBit digit ∧
        encode (c :: cs) = digit :: encode cs ∧ digit.toNat - 0x30 = d := by
      rcases eq_of_digitValue? hd with ⟨rfl, rfl⟩ | ⟨rfl, rfl⟩
      · exact ⟨0x30, rfl, rfl, rfl⟩
      · exact ⟨0x31, rfl, rfl, rfl⟩
    obtain ⟨hbits, hlength, hn⟩ := ih hrest
    rw [hoctet, value_cons, hvalue, hlength, List.length_cons, List.length_cons, hlength]
    refine ⟨List.forall_mem_cons.mpr ⟨hdigit, hbits⟩, rfl, ?_⟩
    rw [hn, Nat.pow_succ]
    ring

theorem leadingDigits_eq_self {line : List UInt8} (h : ∀ b ∈ line, isBit b) :
    leadingDigits line = line := by
  have hgap : line.dropWhile isGap = line := by
    cases line with
    | nil => rfl
    | cons b bs =>
      exact List.dropWhile_cons_of_neg (by simp [isGap_of_isBit (h b List.mem_cons_self)])
  rw [leadingDigits, hgap]
  exact List.takeWhile_eq_self_iff.mpr h

theorem parseLine_of_natural? (h : natural? 2 cs = some n) (hlength : cs.length ≤ 64) :
    parseLine (encode cs) = some (UInt8.ofNat n) := by
  have hne := Numeral.ne_nil_of_natural? h
  have hdigits : continue? 2 0 cs = some n := by
    rwa [natural?, List.isEmpty_eq_false_iff.mpr hne, if_neg (by decide)] at h
  obtain ⟨hbits, hencode, hvalue⟩ := value_encode hdigits
  rw [Nat.mul_zero, Nat.add_zero] at hvalue
  have hsome : (encode cs).isEmpty = false := by
    rw [List.isEmpty_eq_false_iff, ← List.length_pos_iff, hencode]
    exact List.length_pos_iff.mpr hne
  have hfits : n ≤ UInt64.size - 1 := by
    have hlt := value_lt hbits
    rw [← hvalue, hencode] at hlt
    exact Nat.le_sub_one_of_lt (Nat.lt_of_lt_of_le hlt (Nat.pow_le_pow_right Nat.two_pos hlength))
  rw [parseLine_eq, leadingDigits_eq_self hbits, hsome, literal_eq hbits, ← hvalue,
    Nat.min_eq_left hfits]
  rfl

end

/-! ## Lines -/

/-- **A literal is its number, cut off at 64 bits.** Behind white space, a line stands for a byte
exactly if a binary digit comes next: the low byte of the number that the digits there are, or of the
greatest number of 64 bits if they are a greater one. -/
theorem parseLine_saturates (line : List UInt8) :
    let text := line.dropWhile fun b => b ∈ [0x20, 0x09, 0x0A, 0x0B, 0x0C, 0x0D]
    let digits := text.takeWhile fun b => b ∈ [0x30, 0x31]
    parseLine line =
      if text.head? ∈ [some 0x30, some 0x31] then
        some (UInt8.ofNat (min (value digits) (UInt64.size - 1) % 256))
      else none := by
  intro text digits
  have hgap : (fun b : UInt8 => decide (b ∈ [0x20, 0x09, 0x0A, 0x0B, 0x0C, 0x0D])) = isGap :=
    funext fun b => Bool.eq_iff_iff.mpr (by simp [isGap, or_assoc])
  have hbit : (fun b : UInt8 => decide (b ∈ [0x30, 0x31])) = isBit :=
    funext fun b => Bool.eq_iff_iff.mpr (by simp [isBit])
  have hdigits : digits = leadingDigits line := by
    simp only [digits, text, hgap, hbit, leadingDigits]
  have hbits : ∀ digit ∈ digits, isBit digit := by
    rw [hdigits]
    exact fun digit => List.mem_takeWhile_imp
  have hempty : digits.isEmpty ↔ text.head? ∉ [some 0x30, some 0x31] := by
    cases htext : text with
    | nil => simp [digits, htext]
    | cons first rest => simp [digits, htext, List.takeWhile_cons]
  rw [parseLine_eq, ← hdigits, literal_eq hbits, UInt8.ofNat_mod_size]
  simp only [hempty, ite_not]

end Ls8.Image
