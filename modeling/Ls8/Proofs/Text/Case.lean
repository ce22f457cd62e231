import Ls8.Proofs.Text.Lines
import Ls8.Proofs.Text.Numeral
import Ls8.Text.Capital

/-!
# The case of letters

Making ASCII letters small changes neither the capitals of a text (`capitals_smallAscii`) nor where it
is cut: at white space (`trim_smallAscii`, `splitWord_smallAscii`) or at a sign without a case
(`splitOn_smallAscii`). The number that digits spell stays too (`int64?_smallAscii`,
`byte?_smallAscii`).
-/

namespace Ls8

namespace Text

open Numeral (le_iff_toNat_le toNat_toLower toNat_toUpper)

/-- The character is no ASCII letter. -/
def IsCaseless (c : Char) : Prop :=
  ¬('A' ≤ c ∧ c ≤ 'Z') ∧ ¬('a' ≤ c ∧ c ≤ 'z')

instance (c : Char) : Decidable (IsCaseless c) :=
  inferInstanceAs (Decidable (_ ∧ _))

/-! ## One character -/

theorem toLower_eq_iff {c d : Char} (hd : IsCaseless d) : c.toLower = d ↔ c = d := by
  have h := toNat_toLower c
  rw [← Char.toNat_inj, ← Char.toNat_inj]
  simp only [IsCaseless, le_iff_toNat_le, Char.reduceToNat] at *
  split at h <;> omega

theorem toLower_beq {c d : Char} (hd : IsCaseless d) : (c.toLower == d) = (c == d) :=
  Bool.eq_iff_iff.mpr (by simpa using toLower_eq_iff hd)

theorem toLower_toLower (c : Char) : c.toLower.toLower = c.toLower := by
  have h := toNat_toLower c.toLower
  have h' := toNat_toLower c
  rw [← Char.toNat_inj]
  simp only [le_iff_toNat_le, Char.reduceToNat] at *
  grind

theorem isBlank_toLower (c : Char) : isBlank c.toLower = isBlank c := by
  have h := toNat_toLower c
  simp only [le_iff_toNat_le, Char.reduceToNat] at h
  simp only [isBlank, inRanges, blankRanges, List.any_cons, List.any_nil]
  split at h
  · rw [h, Bool.eq_iff_iff]
    simp
    omega
  · rw [h]

theorem capital_toLower (c : Char) : capital c.toLower = capital c := by
  have h := toNat_toLower c
  have hupper : c.toLower.toUpper = c.toUpper := by
    have h' := toNat_toUpper c.toLower
    have h'' := toNat_toUpper c
    rw [← Char.toNat_inj]
    simp only [le_iff_toNat_le, Char.reduceToNat] at *
    grind
  simp only [le_iff_toNat_le, Char.reduceToNat] at h
  split at h
  · rw [capital, capital, if_pos (by omega), if_pos (by omega), hupper]
  · rw [Char.toNat_inj.mp h]

/-! ## Texts -/

theorem smallAscii_smallAscii (cs : List Char) : smallAscii (smallAscii cs) = smallAscii cs := by
  rw [smallAscii, smallAscii, List.map_map]
  exact List.map_congr_left fun c _ => toLower_toLower c

theorem isEmpty_smallAscii (cs : List Char) : (smallAscii cs).isEmpty = cs.isEmpty :=
  List.isEmpty_map

theorem capitals_smallAscii (cs : List Char) : capitals (smallAscii cs) = capitals cs := by
  rw [capitals, smallAscii, List.flatMap_map, capitals]
  exact congrArg (List.flatMap · cs) (funext capital_toLower)

theorem contains_smallAscii {d : Char} (hd : IsCaseless d) (cs : List Char) :
    (smallAscii cs).contains d = cs.contains d := by
  rw [Bool.eq_iff_iff, List.contains_iff_mem, List.contains_iff_mem, smallAscii, List.mem_map]
  constructor
  · rintro ⟨c, hc, heq⟩
    exact (toLower_eq_iff hd).mp heq ▸ hc
  · exact fun h => ⟨d, h, (toLower_eq_iff hd).mpr rfl⟩

section

variable {p : Char → Bool} (hp : ∀ c, p c.toLower = p c)

include hp

theorem takeWhile_smallAscii (cs : List Char) :
    (smallAscii cs).takeWhile p = smallAscii (cs.takeWhile p) := by
  rw [smallAscii, List.takeWhile_map, show p ∘ Char.toLower = p from funext hp, smallAscii]

theorem dropWhile_smallAscii (cs : List Char) :
    (smallAscii cs).dropWhile p = smallAscii (cs.dropWhile p) := by
  rw [smallAscii, List.dropWhile_map, show p ∘ Char.toLower = p from funext hp, smallAscii]

end

theorem trimEnd_smallAscii (cs : List Char) : trimEnd (smallAscii cs) = smallAscii (trimEnd cs) := by
  have hreverse : (smallAscii cs).reverse = smallAscii cs.reverse := List.map_reverse.symm
  rw [trimEnd, hreverse, dropWhile_smallAscii isBlank_toLower, trimEnd]
  exact List.map_reverse.symm

theorem trim_smallAscii (cs : List Char) : trim (smallAscii cs) = smallAscii (trim cs) := by
  rw [trim, dropWhile_smallAscii isBlank_toLower, trimEnd_smallAscii, trim]

theorem drop_smallAscii (n : Nat) (cs : List Char) :
    (smallAscii cs).drop n = smallAscii (cs.drop n) :=
  List.map_drop.symm

theorem splitWord_smallAscii (cs : List Char) :
    splitWord (smallAscii cs) = (smallAscii (splitWord cs).1, smallAscii (splitWord cs).2) := by
  have hword : ∀ c : Char, (!isBlank c.toLower) = !isBlank c := fun c => by rw [isBlank_toLower]
  rw [splitWord, takeWhile_smallAscii hword, dropWhile_smallAscii hword, drop_smallAscii, splitWord]

theorem splitOn_smallAscii {d : Char} (hd : IsCaseless d) (cs : List Char) :
    (smallAscii cs).splitOn d = (cs.splitOn d).map smallAscii := by
  induction cs with
  | nil => rfl
  | cons c cs ih =>
    show (c.toLower :: smallAscii cs).splitOn d = _
    rw [List.splitOn_cons_eq_if_modifyHead, List.splitOn_cons_eq_if_modifyHead, toLower_beq hd,
      ih]
    split
    · rfl
    · cases cs.splitOn d <;> rfl

end Text

/-! ## Numbers -/

namespace Numeral

open Text (smallAscii)

theorem natural?_smallAscii (radix : Nat) (cs : List Char) :
    natural? radix (smallAscii cs) = natural? radix cs :=
  natural?_congr (digitValue?_toLower radix) cs

theorem unsigned?_cons (radix : Nat) (c : Char) (cs : List Char) :
    unsigned? radix (c :: cs) = if c = '+' then natural? radix cs else natural? radix (c :: cs) := by
  unfold unsigned?
  split <;> simp_all

theorem integer?_cons (radix : Nat) (c : Char) (cs : List Char) :
    integer? radix (c :: cs) =
      if c = '-' then (natural? radix cs).map fun n : Nat => -(n : Int)
      else (unsigned? radix (c :: cs)).map fun n : Nat => (n : Int) := by
  unfold integer?
  split
  · rename_i digits heq
    obtain ⟨rfl, rfl⟩ := List.cons.inj heq
    rw [if_pos rfl]
    cases natural? radix cs <;> rfl
  · rename_i hne
    have hc : c ≠ '-' := fun h => hne cs (h ▸ rfl)
    rw [if_neg hc]
    cases unsigned? radix (c :: cs) <;> rfl

theorem unsigned?_smallAscii (radix : Nat) (cs : List Char) :
    unsigned? radix (smallAscii cs) = unsigned? radix cs := by
  cases cs with
  | nil => rfl
  | cons c cs =>
    have hplus : c.toLower = '+' ↔ c = '+' := Text.toLower_eq_iff (by decide)
    have hdigits := natural?_smallAscii radix (c :: cs)
    show unsigned? radix (c.toLower :: smallAscii cs) = _
    rw [unsigned?_cons, unsigned?_cons, natural?_smallAscii]
    simp only [hplus]
    rw [← hdigits]
    rfl

theorem integer?_smallAscii (radix : Nat) (cs : List Char) :
    integer? radix (smallAscii cs) = integer? radix cs := by
  cases cs with
  | nil => rfl
  | cons c cs =>
    have hminus : c.toLower = '-' ↔ c = '-' := Text.toLower_eq_iff (by decide)
    have hrest := unsigned?_smallAscii radix (c :: cs)
    show integer? radix (c.toLower :: smallAscii cs) = _
    rw [integer?_cons, integer?_cons, natural?_smallAscii]
    simp only [hminus]
    rw [← hrest]
    rfl

theorem int64?_smallAscii (radix : Nat) (cs : List Char) :
    int64? radix (smallAscii cs) = int64? radix cs := by
  rw [int64?, integer?_smallAscii, int64?]

theorem byte?_smallAscii (cs : List Char) : byte? (smallAscii cs) = byte? cs := by
  rw [byte?, unsigned?_smallAscii, byte?]

end Numeral

end Ls8
