import Ls8.Text.Numeral

/-!
# Reading back what was written

A reader that is given the digits of a number, in either case and with any number of zeros in front,
comes back with the number: `continue?_toDigits` says so of the run of digits and
`int64?_of_natural?` and `byte?_of_natural?` of the readers that look for a sign and for a limit.
-/

namespace Ls8.Numeral

/-! ## Digits -/

theorem digitValue?_of_le {radix radix' d : Nat} {c : Char} (h : digitValue? radix' c = some d)
    (hd : d < radix) (hr : radix ≤ radix') : digitValue? radix c = some d := by
  unfold digitValue? at *
  grind

theorem digitValue?_digitChar {radix d : Nat} (hr : radix ≤ 16) (hd : d < radix) :
    digitValue? radix (Nat.digitChar d) = some d := by
  have hdigits : ∀ d < 16, digitValue? 16 (Nat.digitChar d) = some d := by decide
  exact digitValue?_of_le (hdigits d (Nat.lt_of_lt_of_le hd hr)) hd hr

theorem le_iff_toNat_le {c d : Char} : c ≤ d ↔ c.toNat ≤ d.toNat := Iff.rfl

theorem toNat_toLower (c : Char) :
    c.toLower.toNat = if 'A' ≤ c ∧ c ≤ 'Z' then c.toNat + 32 else c.toNat := by
  unfold Char.toLower
  split
  · rename_i h
    have hle : c.toNat ≤ 90 := h.2
    rw [if_pos (show 'A' ≤ c ∧ c ≤ 'Z' from h)]
    show (c.toNat + 32) % UInt32.size = c.toNat + 32
    exact Nat.mod_eq_of_lt (Nat.lt_trans (Nat.add_lt_add_right (Nat.lt_succ_of_le hle) 32)
      (by decide))
  · rename_i h
    rw [if_neg (show ¬('A' ≤ c ∧ c ≤ 'Z') from h)]

theorem toNat_toUpper (c : Char) :
    c.toUpper.toNat = if 'a' ≤ c ∧ c ≤ 'z' then c.toNat - 32 else c.toNat := by
  unfold Char.toUpper
  split
  · rename_i h
    have hge : 97 ≤ c.toNat := h.1
    have hle : c.toNat ≤ 122 := h.2
    rw [if_pos (show 'a' ≤ c ∧ c ≤ 'z' from h)]
    show (c.val + ('A'.val - 'a'.val)).toNat = c.toNat - 32
    rw [UInt32.toNat_add]
    -- the distance is negative, so it is added modulo the size of a word
    show (c.toNat + 4294967264) % 4294967296 = c.toNat - 32
    omega
  · rename_i h
    rw [if_neg (show ¬('a' ≤ c ∧ c ≤ 'z') from h)]

theorem digitValue?_toLower (radix : Nat) (c : Char) :
    digitValue? radix c.toLower = digitValue? radix c := by
  have h := toNat_toLower c
  simp only [digitValue?, le_iff_toNat_le, Char.reduceToNat] at *
  grind

theorem digitValue?_toUpper (radix : Nat) (c : Char) :
    digitValue? radix c.toUpper = digitValue? radix c := by
  have h := toNat_toUpper c
  simp only [digitValue?, le_iff_toNat_le, Char.reduceToNat] at *
  grind

/-! ## Runs of digits -/

theorem continue?_append (radix acc : Nat) (xs ys : List Char) :
    continue? radix acc (xs ++ ys) =
      (continue? radix acc xs).bind fun acc => continue? radix acc ys := by
  induction xs generalizing acc with
  | nil => rfl
  | cons x xs ih =>
    rw [List.cons_append, continue?, continue?]
    cases digitValue? radix x with
    | none => rfl
    | some d => exact ih _

theorem continue?_toDigits {radix : Nat} (hr : 1 < radix) (hr' : radix ≤ 16) (n : Nat) :
    continue? radix 0 (Nat.toDigits radix n) = some n := by
  induction n using Nat.strongRecOn with
  | ind n ih =>
    rw [Nat.toDigits_eq_if hr]
    split
    · rename_i hn
      simp [continue?, digitValue?_digitChar hr' hn]
    · rename_i hn
      have hdigit := digitValue?_digitChar hr' (Nat.mod_lt n (Nat.zero_lt_of_lt hr))
      rw [continue?_append, ih (n / radix) (Nat.div_lt_self (by omega) hr)]
      simp [continue?, hdigit, Nat.div_add_mod']

theorem continue?_zeros {radix : Nat} (hr : 0 < radix) (k : Nat) (cs : List Char) :
    continue? radix 0 (List.replicate k '0' ++ cs) = continue? radix 0 cs := by
  induction k with
  | zero => rfl
  | succ k ih => simpa [List.replicate_succ, continue?, digitValue?, hr] using ih

theorem continue?_congr {radix : Nat} {f : Char → Char}
    (hf : ∀ c, digitValue? radix (f c) = digitValue? radix c) (acc : Nat) (cs : List Char) :
    continue? radix acc (cs.map f) = continue? radix acc cs := by
  induction cs generalizing acc with
  | nil => rfl
  | cons c cs ih => simp only [List.map_cons, continue?, hf, ih]

theorem isSome_digitValue?_of_continue? {radix acc n : Nat} {cs : List Char}
    (h : continue? radix acc cs = some n) : ∀ c ∈ cs, (digitValue? radix c).isSome := by
  induction cs generalizing acc with
  | nil => simp
  | cons c cs ih =>
    obtain ⟨d, hd, hrest⟩ := Option.bind_eq_some_iff.mp h
    exact List.forall_mem_cons.mpr ⟨by rw [hd]; rfl, ih hrest⟩

theorem natural?_congr {radix : Nat} {f : Char → Char}
    (hf : ∀ c, digitValue? radix (f c) = digitValue? radix c) (cs : List Char) :
    natural? radix (cs.map f) = natural? radix cs := by
  simp only [natural?, continue?_congr hf, List.isEmpty_map]

theorem natural?_toDigits {radix : Nat} (hr : 1 < radix) (hr' : radix ≤ 16) (n : Nat) :
    natural? radix (Nat.toDigits radix n) = some n := by
  rw [natural?, continue?_toDigits hr hr']
  simp

theorem natural?_decimal (n : Nat) : natural? 10 (decimal n).toList = some n := by
  rw [decimal, String.toList_ofList]
  exact natural?_toDigits (by decide) (by decide) n

theorem natural?_padded {radix : Nat} (hr : 1 < radix) (hr' : radix ≤ 16) (width n : Nat) :
    natural? radix (padded radix width n).toList = some n := by
  have hdigits : continue? radix 0 (digits radix n) = some n := by
    rw [digits, continue?_congr (digitValue?_toUpper radix), continue?_toDigits hr hr']
  have hne : digits radix n ≠ [] := by simp [digits]
  rw [padded, String.toList_ofList, List.leftpad, natural?,
    continue?_zeros (Nat.zero_lt_of_lt hr), hdigits]
  simp [hne]

theorem natural?_hex (n : Nat) : natural? 16 (hex n).toList = some n :=
  natural?_padded (by decide) (by decide) 2 n

theorem natural?_binary (n : Nat) : natural? 2 (binary n).toList = some n :=
  natural?_padded (by decide) (by decide) 8 n

/-! ## Readers with signs and limits -/

section

variable {radix n : Nat} {cs : List Char} (h : natural? radix cs = some n)

include h

theorem ne_nil_of_natural? : cs ≠ [] := by
  rintro rfl
  cases h

theorem isSome_digitValue?_of_natural? : ∀ c ∈ cs, (digitValue? radix c).isSome := by
  rw [natural?] at h
  split at h
  · cases h
  · exact isSome_digitValue?_of_continue? h

theorem unsigned?_of_natural? : unsigned? radix cs = some n := by
  unfold unsigned?
  split
  · have := isSome_digitValue?_of_natural? h '+' (by simp)
    simp [digitValue?] at this
  · exact h

theorem integer?_of_natural? : integer? radix cs = some (n : Int) := by
  unfold integer?
  split
  · have := isSome_digitValue?_of_natural? h '-' (by simp)
    simp [digitValue?] at this
  · rw [unsigned?_of_natural? h]
    rfl

theorem int64?_of_natural? (hn : n < 0x8000000000000000) : int64? radix cs = some (n : Int) := by
  rw [int64?, integer?_of_natural? h, Option.filter_some, if_pos]
  simp only [decide_eq_true_eq]
  omega

end

theorem byte?_of_natural? {n : Nat} {cs : List Char} (h : natural? 10 cs = some n) (hn : n < 256) :
    byte? cs = some (UInt8.ofNat n) := by
  rw [byte?, unsigned?_of_natural? h, Option.filter_some, if_pos (by simpa using hn),
    Option.map_some]

theorem byte?_decimal (value : UInt8) : byte? (decimal value.toNat).toList = some value := by
  rw [byte?_of_natural? (natural?_decimal value.toNat) value.toNat_lt, UInt8.ofNat_toNat]

theorem not_mem_decimal {n : Nat} {c : Char} (hc : digitValue? 10 c = none) :
    c ∉ (decimal n).toList := by
  intro hmem
  have hdigit := isSome_digitValue?_of_natural? (natural?_decimal n) c hmem
  rw [hc] at hdigit
  cases hdigit

theorem word64?_of_natural? {n : Nat} {cs : List Char} (h : natural? 10 cs = some n)
    (hn : n < UInt64.size) : word64? cs = some (UInt64.ofNat n) := by
  rw [word64?, unsigned?_of_natural? h, Option.filter_some, if_pos (by simpa using hn),
    Option.map_some]

end Ls8.Numeral
