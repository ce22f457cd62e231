import Ls8.Proofs.Text.Case

/-!
# How numbers are spelled

The spellings of a number are its digits behind any zeros, in either case. A run of digits is read as
a number exactly if it is one of its spellings (`natural?_eq_some_iff`); the readers that take a sign
take nothing else besides (`unsigned?_eq_some`, `integer?_eq_some`).
-/

namespace Ls8.Numeral

open Text (smallAscii)

/-- The digits of a number, behind any number of zeros and in either case. -/
def Spells (radix n : Nat) (cs : List Char) : Prop :=
  ∃ zeros, smallAscii cs = List.replicate zeros '0' ++ Nat.toDigits radix n

variable {radix n : Nat} {cs : List Char}

theorem toLower_eq_digitChar {c : Char} {d : Nat} (hr : radix ≤ 16)
    (h : digitValue? radix c = some d) : c.toLower = Nat.digitChar d ∧ d < radix := by
  have hcode := toNat_toLower c
  have hchar : ∀ d < 16, (Nat.digitChar d).toNat = if d < 10 then d + 48 else d + 87 := by decide
  rw [← Char.toNat_inj]
  simp only [digitValue?, le_iff_toNat_le, Char.reduceToNat] at *
  grind

theorem toDigits_concat (hr : 1 < radix) {d : Nat} (hd : d < radix) (hn : 0 < n) :
    Nat.toDigits radix (n * radix + d) = Nat.toDigits radix n ++ [Nat.digitChar d] := by
  rw [Nat.mul_comm, ← Nat.toDigits_append_toDigits hr hn hd, Nat.toDigits_of_lt_base hd]

theorem smallAscii_of_continue? (hr : 1 < radix) (hr' : radix ≤ 16) (hne : cs ≠ [])
    (h : continue? radix 0 cs = some n) : Spells radix n cs := by
  induction cs using List.reverseRecOn generalizing n with
  | nil => exact absurd rfl hne
  | append_singleton cs c ih =>
    rw [continue?_append] at h
    obtain ⟨m, hm, hlast⟩ := Option.bind_eq_some_iff.mp h
    obtain ⟨d, hd, hn⟩ := Option.bind_eq_some_iff.mp hlast
    obtain rfl : m * radix + d = n := Option.some.inj hn
    obtain ⟨hchar, hlt⟩ := toLower_eq_digitChar hr' hd
    have hsmall : smallAscii (cs ++ [c]) = smallAscii cs ++ [Nat.digitChar d] := by
      rw [smallAscii, List.map_append, ← smallAscii, List.map_singleton, hchar]
    rw [Spells, hsmall]
    by_cases hcs : cs = []
    · subst hcs
      cases hm
      exact ⟨0, by simp [smallAscii, Nat.toDigits_of_lt_base hlt]⟩
    · obtain ⟨zeros, hzeros⟩ := ih hcs hm
      rw [hzeros]
      by_cases hm0 : m = 0
      · subst hm0
        refine ⟨zeros + 1, ?_⟩
        rw [Nat.zero_mul, Nat.zero_add, Nat.toDigits_of_lt_base hlt, Nat.toDigits_zero,
          List.replicate_succ']
      · refine ⟨zeros, ?_⟩
        rw [toDigits_concat hr hlt (Nat.pos_of_ne_zero hm0), List.append_assoc]

/-- A run of digits is read as the number that it spells. -/
theorem natural?_eq_some_iff (hr : 1 < radix) (hr' : radix ≤ 16) :
    natural? radix cs = some n ↔ Spells radix n cs := by
  constructor
  · intro h
    have hne := ne_nil_of_natural? h
    rw [natural?, List.isEmpty_eq_false_iff.mpr hne, if_neg (by decide)] at h
    exact smallAscii_of_continue? hr hr' hne h
  · rintro ⟨zeros, hsmall⟩
    rw [← natural?_smallAscii, hsmall, natural?, continue?_zeros (by omega),
      continue?_toDigits hr hr']
    simp

/-! ## Signs -/

theorem unsigned?_eq_some (h : unsigned? radix cs = some n) :
    ∃ sign digits, cs = sign ++ digits ∧ natural? radix digits = some n ∧
      (sign = [] ∨ sign = ['+']) := by
  cases cs with
  | nil => cases h
  | cons c cs =>
    rw [unsigned?_cons] at h
    split at h
    · rename_i hc
      exact ⟨['+'], cs, by rw [hc]; rfl, h, .inr rfl⟩
    · exact ⟨[], c :: cs, rfl, h, .inl rfl⟩

theorem integer?_eq_some {i : Int} (h : integer? radix cs = some i) :
    ∃ sign digits n, cs = sign ++ digits ∧ natural? radix digits = some n ∧
      ((sign = [] ∨ sign = ['+']) ∧ i = n ∨ sign = ['-'] ∧ i = -n) := by
  cases cs with
  | nil => cases h
  | cons c cs =>
    rw [integer?_cons] at h
    split at h
    · rename_i hc
      obtain ⟨n, hn, rfl⟩ := Option.map_eq_some_iff.mp h
      exact ⟨['-'], cs, n, by rw [hc]; rfl, hn, .inr ⟨rfl, rfl⟩⟩
    · obtain ⟨n, hn, rfl⟩ := Option.map_eq_some_iff.mp h
      obtain ⟨sign, digits, hcs, hdigits, hsign⟩ := unsigned?_eq_some hn
      exact ⟨sign, digits, n, hcs, hdigits, .inl ⟨hsign, rfl⟩⟩

theorem byte?_eq_some {b : UInt8} (h : byte? cs = some b) :
    ∃ sign digits n, cs = sign ++ digits ∧ Spells 10 n digits ∧ n < 256 ∧ b = UInt8.ofNat n ∧
      (sign = [] ∨ sign = ['+']) := by
  obtain ⟨n, hn, rfl⟩ := Option.map_eq_some_iff.mp h
  obtain ⟨hn, hsize⟩ := Option.filter_eq_some_iff.mp hn
  obtain ⟨sign, digits, hcs, hdigits, hsign⟩ := unsigned?_eq_some hn
  exact ⟨sign, digits, n, hcs, (natural?_eq_some_iff (by decide) (by decide)).mp hdigits,
    of_decide_eq_true hsize, rfl, hsign⟩

section

variable (h : natural? radix cs = some n)

include h

theorem unsigned?_plus : unsigned? radix ('+' :: cs) = unsigned? radix cs :=
  h.trans (unsigned?_of_natural? h).symm

theorem int64?_plus : int64? radix ('+' :: cs) = int64? radix cs := by
  have hinteger : integer? radix ('+' :: cs) = integer? radix cs := by
    rw [integer?_of_natural? h, integer?_cons, if_neg (by decide), unsigned?_plus h,
      unsigned?_of_natural? h, Option.map_some]
  rw [int64?, int64?, hinteger]

end

theorem byte?_plus (h : natural? 10 cs = some n) : byte? ('+' :: cs) = byte? cs := by
  rw [byte?, byte?, unsigned?_plus h]

theorem int64?_minus (h : natural? radix cs = some 0) : int64? radix ('-' :: cs) = some 0 := by
  rw [int64?, integer?_cons, if_pos rfl, h]
  rfl

end Ls8.Numeral
