import Mathlib.Algebra.Group.Nat.Defs
import Ls8.Text.Utf8

/-!
# Decoding UTF-8

Decoding gives back the text that was encoded (`decode?_encode`, `decodeLossy_encode`). In any octets,
well-formed or not, an ASCII octet stands for itself and cuts the decoding in two
(`decodeLossy_append_ascii`), and nothing else decodes to an ASCII character
(`exists_of_mem_decodeLossy`). So a text can be cut into lines before or after it is decoded
(`splitOn_decodeLossy`).

The invariant of the reader is `State.Sound`: the characters that the octets owed can make are
scalar values outside ASCII.
-/

namespace Ls8.Utf8

/-! ## First octets -/

theorem begin_one {b : Nat} (h : b < 0x80) : begin b = ([some (Char.ofNat b)], .start) :=
  if_pos h

theorem begin_two : ∀ x < 0x20, 2 ≤ x → begin (x + 0xC0) = ([], .inside 0 0x80 0xBF x) := by
  decide

theorem begin_three : ∀ x < 0x10, begin (x + 0xE0) =
    ([], .inside 1 (if x = 0 then 0xA0 else 0x80) (if x = 0xD then 0x9F else 0xBF) x) := by
  decide

theorem begin_four : ∀ x < 5, begin (x + 0xF0) =
    ([], .inside 2 (if x = 0 then 0x90 else 0x80) (if x = 4 then 0x8F else 0xBF) x) := by
  decide

theorem scan_cons (s : State) (octet : UInt8) (octets : List UInt8) :
    scan s (octet :: octets) =
      (s.next octet.toNat).1 ++ scan (s.next octet.toNat).2 octets := rfl

/-! ## What was encoded -/

theorem next_inside_zero {low high bits b : Nat} (h : low ≤ b ∧ b ≤ high) :
    State.next (.inside 0 low high bits) b =
      ([some (Char.ofNat (bits * 64 + (b - 0x80)))], .start) :=
  if_pos h

theorem next_inside_succ {owed low high bits b : Nat} (h : low ≤ b ∧ b ≤ high) :
    State.next (.inside (owed + 1) low high bits) b =
      ([], .inside owed 0x80 0xBF (bits * 64 + (b - 0x80))) :=
  if_pos h

theorem scan_encodeChar (c : Char) (rest : List UInt8) :
    scan .start (String.utf8EncodeChar c ++ rest) = some c :: scan .start rest := by
  have hvalid : c.val.toNat < 0xD800 ∨ 0xDFFF < c.val.toNat ∧ c.val.toNat < 0x110000 := c.valid
  have hc : Char.ofNat c.val.toNat = c := Char.ofNat_toNat c
  unfold String.utf8EncodeChar
  generalize c.val.toNat = v at *
  have hoctet : ∀ n < 0x100, (UInt8.ofNat n).toNat = n := fun n hn =>
    UInt8.toNat_ofNat_of_lt' hn
  simp only
  split
  · simp only [List.cons_append, List.nil_append, scan_cons]
    rw [hoctet _ (by omega), State.next, begin_one (by omega), hc]
    rfl
  split
  · have hbits : v / 64 % 0x20 * 64 + (v % 0x40 + 0x80 - 0x80) = v := by omega
    simp only [List.cons_append, List.nil_append, scan_cons]
    rw [hoctet _ (by omega), hoctet _ (by omega), State.next, begin_two _ (by omega) (by omega),
      next_inside_zero (by omega), hbits, hc]
    rfl
  split
  · have hbits : (v / 4096 % 0x10 * 64 + (v / 64 % 0x40 + 0x80 - 0x80)) * 64 +
        (v % 0x40 + 0x80 - 0x80) = v := by omega
    simp only [List.cons_append, List.nil_append, scan_cons]
    rw [hoctet _ (by omega), hoctet _ (by omega), hoctet _ (by omega), State.next,
      begin_three _ (by omega), next_inside_succ (by split <;> split <;> omega),
      next_inside_zero (by omega), hbits, hc]
    rfl
  · have hbits : ((v / 262144 % 0x08 * 64 + (v / 4096 % 0x40 + 0x80 - 0x80)) * 64 +
        (v / 64 % 0x40 + 0x80 - 0x80)) * 64 + (v % 0x40 + 0x80 - 0x80) = v := by omega
    simp only [List.cons_append, List.nil_append, scan_cons]
    rw [hoctet _ (by omega), hoctet _ (by omega), hoctet _ (by omega), hoctet _ (by omega),
      State.next, begin_four _ (by omega), next_inside_succ (by split <;> split <;> omega),
      next_inside_succ (by omega), next_inside_zero (by omega), hbits, hc]
    rfl

theorem scan_encode (cs : List Char) : scan .start (encode cs) = cs.map some := by
  induction cs with
  | nil => rfl
  | cons c cs ih =>
    have hcons : encode (c :: cs) = String.utf8EncodeChar c ++ encode cs := List.flatMap_cons
    rw [hcons, scan_encodeChar, ih, List.map_cons]

theorem decode?_encode (cs : List Char) : decode? (encode cs) = some cs := by
  rw [decode?, scan_encode, List.mapM_map]
  induction cs with
  | nil => rfl
  | cons c cs ih =>
    rw [List.mapM_cons, ih]
    rfl

theorem decodeLossy_encode (cs : List Char) : decodeLossy (encode cs) = cs := by
  rw [decodeLossy, scan_encode, List.map_map]
  exact List.map_id cs

/-! ## What the reader may come to -/

/-- The characters that can still come of the octets so far are scalar values outside ASCII: the
least one is that with the lowest octets, and the greatest one lies below the bound. -/
def State.Sound : State → Prop
  | .start => True
  | .inside owed low high bits =>
    0x80 ≤ low ∧ high ≤ 0xBF ∧
      let least := (bits * 64 + (low - 0x80)) * 64 ^ owed
      let bound := (bits * 64 + (high - 0x80) + 1) * 64 ^ owed
      0x80 ≤ least ∧ (bound ≤ 0xD800 ∨ 0xE000 ≤ least ∧ bound ≤ 0x110000)

theorem sound_start : State.start.Sound := trivial

instance : (s : State) → Decidable s.Sound
  | .start => .isTrue trivial
  | .inside .. => inferInstanceAs (Decidable (_ ∧ _ ∧ _ ∧ (_ ∨ _ ∧ _)))

/-- A character outside ASCII, or an ill-formed part, which is shown as one. -/
def IsWide (x : Option Char) : Prop :=
  0x80 ≤ (x.getD (Char.ofNat 0xFFFD)).toNat

instance (x : Option Char) : Decidable (IsWide x) :=
  inferInstanceAs (Decidable (_ ≤ _))

theorem sound_begin : ∀ b < 0x100, (begin b).2.Sound := by
  decide +kernel

theorem isWide_begin : ∀ b < 0x100, 0x80 ≤ b → ∀ x ∈ (begin b).1, IsWide x := by
  decide +kernel

theorem toNat_ofNat {n : Nat} (h : n.isValidChar) : (Char.ofNat n).toNat = n := by
  rw [Char.ofNat, dif_pos h]
  rfl

theorem begin_ne_start : ∀ b < 0x100, (begin b).1 = [] → (begin b).2 ≠ .start := by
  decide +kernel

variable {s : State} {b : Nat}

theorem next_inside_else {owed low high bits : Nat} (h : ¬(low ≤ b ∧ b ≤ high)) :
    State.next (.inside owed low high bits) b = (none :: (begin b).1, (begin b).2) :=
  if_neg h

theorem State.Sound.next (hs : s.Sound) (hb : b < 0x100) : (s.next b).2.Sound := by
  cases s with
  | start => exact sound_begin b hb
  | inside owed low high bits =>
    by_cases hrange : low ≤ b ∧ b ≤ high
    · cases owed with
      | zero =>
        rw [next_inside_zero hrange]
        exact sound_start
      | succ owed =>
        obtain ⟨_, _, hleast, hbound⟩ := hs
        have hpow : 64 ^ (owed + 1) = 64 * 64 ^ owed := Nat.pow_succ'
        -- the octet lies between the lowest and the highest, and so does what can come of it
        have hleast' : (bits * 64 + (low - 0x80)) * 64 ^ (owed + 1) ≤
            ((bits * 64 + (b - 0x80)) * 64 + (0x80 - 0x80)) * 64 ^ owed := by
          rw [hpow, ← Nat.mul_assoc]
          exact Nat.mul_le_mul_right _ (by omega)
        have hbound' : ((bits * 64 + (b - 0x80)) * 64 + (0xBF - 0x80) + 1) * 64 ^ owed ≤
            (bits * 64 + (high - 0x80) + 1) * 64 ^ (owed + 1) := by
          rw [hpow, ← Nat.mul_assoc]
          exact Nat.mul_le_mul_right _ (by omega)
        rw [next_inside_succ hrange]
        refine ⟨Nat.le_refl _, Nat.le_refl _, Nat.le_trans hleast hleast', ?_⟩
        rcases hbound with hbound | ⟨habove, hbound⟩
        · exact .inl (Nat.le_trans hbound' hbound)
        · exact .inr ⟨Nat.le_trans habove hleast', Nat.le_trans hbound' hbound⟩
    · rw [next_inside_else hrange]
      exact sound_begin b hb

theorem State.Sound.next_ascii (hs : s.Sound) (hb : b < 0x80) :
    s.next b = (s.finish ++ [some (Char.ofNat b)], .start) := by
  cases s with
  | start => exact begin_one hb
  | inside owed low high bits =>
    have hrange : ¬(low ≤ b ∧ b ≤ high) := by
      have := hs.1
      omega
    rw [next_inside_else hrange, begin_one hb]
    rfl

theorem State.Sound.isWide_next (hs : s.Sound) (hb : b < 0x100) (hwide : 0x80 ≤ b) :
    ∀ x ∈ (s.next b).1, IsWide x := by
  cases s with
  | start => exact isWide_begin b hb hwide
  | inside owed low high bits =>
    by_cases hrange : low ≤ b ∧ b ≤ high
    · cases owed with
      | zero =>
        obtain ⟨_, _, hleast, hbound⟩ := hs
        simp only [Nat.pow_zero, Nat.mul_one] at hleast hbound
        rw [next_inside_zero hrange]
        refine List.forall_mem_singleton.mpr ?_
        have hvalid : (bits * 64 + (b - 0x80)).isValidChar := by
          rcases hbound with hbound | ⟨habove, hbound⟩
          · exact .inl (by omega)
          · exact .inr (by omega)
        rw [IsWide, Option.getD_some, toNat_ofNat hvalid]
        omega
      | succ owed =>
        rw [next_inside_succ hrange]
        exact List.forall_mem_nil _
    · rw [next_inside_else hrange]
      exact List.forall_mem_cons.mpr ⟨by decide, isWide_begin b hb hwide⟩

/-! ## Cutting octets -/

theorem scan_append_ascii {octet : UInt8} (hoctet : octet.toNat < 0x80) (xs ys : List UInt8)
    (hs : s.Sound) :
    scan s (xs ++ octet :: ys) =
      scan s xs ++ some (Char.ofNat octet.toNat) :: scan .start ys := by
  induction xs generalizing s with
  | nil =>
    rw [List.nil_append, scan_cons, hs.next_ascii hoctet, List.append_assoc]
    rfl
  | cons x xs ih =>
    rw [List.cons_append, scan_cons, scan_cons, ih (hs.next x.toNat_lt), List.append_assoc]

theorem isWide_finish (hs : s.Sound) : ∀ x ∈ s.finish, IsWide x := by
  cases s with
  | start => exact List.forall_mem_nil _
  | inside => exact List.forall_mem_singleton.mpr (by decide)

/-- What is read comes of an ASCII octet or lies outside ASCII. -/
theorem isWide_or_ascii {x : Option Char} {octets : List UInt8} (hs : s.Sound)
    (hx : x ∈ scan s octets) :
    IsWide x ∨ ∃ octet ∈ octets, octet.toNat < 0x80 ∧ x = some (Char.ofNat octet.toNat) := by
  induction octets generalizing s with
  | nil => exact .inl (isWide_finish hs x hx)
  | cons octet octets ih =>
    rcases List.mem_append.mp hx with hx | hx
    · by_cases hoctet : octet.toNat < 0x80
      · rw [hs.next_ascii hoctet] at hx
        rcases List.mem_append.mp hx with hx | hx
        · exact .inl (isWide_finish hs x hx)
        · exact .inr ⟨octet, List.mem_cons_self, hoctet, List.mem_singleton.mp hx⟩
      · exact .inl (hs.isWide_next octet.toNat_lt (Nat.le_of_not_lt hoctet) x hx)
    · rcases ih (hs.next octet.toNat_lt) hx with hwide | ⟨other, hmem, hother⟩
      · exact .inl hwide
      · exact .inr ⟨other, List.mem_cons_of_mem _ hmem, hother⟩

theorem next_ne_start (hb : b < 0x100) (h : (s.next b).1 = []) : (s.next b).2 ≠ .start := by
  cases s with
  | start => exact begin_ne_start b hb h
  | inside owed low high bits =>
    by_cases hrange : low ≤ b ∧ b ≤ high
    · cases owed with
      | zero =>
        rw [next_inside_zero hrange] at h
        cases h
      | succ owed =>
        rw [next_inside_succ hrange]
        exact State.noConfusion
    · rw [next_inside_else hrange] at h
      cases h

theorem isWide_of_mem_head?_scan {x : Option Char} {octets : List UInt8} (hs : s.Sound)
    (hfirst : s ≠ .start ∨ ∀ octet ∈ octets.head?, 0x80 ≤ octet.toNat)
    (hx : x ∈ (scan s octets).head?) : IsWide x := by
  induction octets generalizing s with
  | nil => exact isWide_finish hs x (List.mem_of_head? hx)
  | cons octet octets ih =>
    by_cases hoctet : octet.toNat < 0x80
    · cases s with
      | start =>
        have := hfirst.resolve_left (fun h => h rfl) octet rfl
        omega
      | inside =>
        rw [scan_cons, hs.next_ascii hoctet] at hx
        cases hx
        decide
    · rw [scan_cons] at hx
      have hwide := hs.isWide_next octet.toNat_lt (Nat.le_of_not_lt hoctet)
      cases hread : (s.next octet.toNat).1 with
      | nil =>
        rw [hread, List.nil_append] at hx
        exact ih (hs.next octet.toNat_lt) (.inl (next_ne_start octet.toNat_lt hread)) hx
      | cons y ys =>
        rw [hread, List.cons_append, List.head?_cons, Option.mem_some_iff] at hx
        rw [← hx]
        exact hwide y (by rw [hread]; exact List.mem_cons_self)

/-! ## Lossy decoding -/

theorem decodeLossy_append_ascii {octet : UInt8} (hoctet : octet.toNat < 0x80)
    (xs ys : List UInt8) :
    decodeLossy (xs ++ octet :: ys) =
      decodeLossy xs ++ Char.ofNat octet.toNat :: decodeLossy ys := by
  rw [decodeLossy, scan_append_ascii hoctet xs ys sound_start, List.map_append]
  rfl

theorem exists_of_mem_decodeLossy {c : Char} {octets : List UInt8} (hc : c.toNat < 0x80)
    (h : c ∈ decodeLossy octets) : ∃ octet ∈ octets, octet.toNat = c.toNat := by
  obtain ⟨x, hx, rfl⟩ := List.mem_map.mp h
  rcases isWide_or_ascii sound_start hx with hwide | ⟨octet, hmem, hoctet, rfl⟩
  · exact absurd hwide (Nat.not_le.mpr hc)
  · refine ⟨octet, hmem, (toNat_ofNat ?_).symm⟩
    exact .inl (by omega)

theorem le_of_mem_head?_decodeLossy {c : Char} {octets : List UInt8}
    (hfirst : ∀ octet ∈ octets.head?, 0x80 ≤ octet.toNat) (hc : c ∈ (decodeLossy octets).head?) :
    0x80 ≤ c.toNat := by
  rw [decodeLossy, List.head?_map] at hc
  obtain ⟨x, hx, rfl⟩ := Option.map_eq_some_iff.mp hc
  exact isWide_of_mem_head?_scan sound_start (.inr hfirst) hx

/-- Cutting at line feeds and decoding go together. -/
theorem splitOn_decodeLossy (octets : List UInt8) :
    (decodeLossy octets).splitOn '\n' = (octets.splitOn 0x0A).map decodeLossy := by
  have hnot {octets : List UInt8} (h : 0x0A ∉ octets) : '\n' ∉ decodeLossy octets := by
    intro hmem
    obtain ⟨octet, hoctet, heq⟩ := exists_of_mem_decodeLossy (by decide) hmem
    obtain rfl : octet = 0x0A := UInt8.toNat_inj.mp heq
    exact h hoctet
  by_cases hfeed : 0x0A ∈ octets
  · obtain ⟨xs, ys, hcut, hxs⟩ := List.eq_append_cons_of_mem hfeed
    have hdecode : decodeLossy (xs ++ 0x0A :: ys) = decodeLossy xs ++ '\n' :: decodeLossy ys :=
      decodeLossy_append_ascii (by decide) xs ys
    have hshorter : ys.length < octets.length := by
      rw [hcut, List.length_append, List.length_cons]
      omega
    rw [hcut, hdecode, List.splitOn_append_cons_self_of_not_mem (hnot hxs),
      List.splitOn_append_cons_self_of_not_mem hxs, List.map_cons, splitOn_decodeLossy ys]
  · rw [List.splitOn_eq_singleton hfeed, List.splitOn_eq_singleton (hnot hfeed)]
    rfl
termination_by octets.length

/-! ## Encoding what was decoded -/

theorem encodeChar_ofNat : ∀ n < 0x80, String.utf8EncodeChar (Char.ofNat n) = [UInt8.ofNat n] := by
  decide

theorem encode_decodeLossy_append {xs : List UInt8} (h : ∀ octet ∈ xs, octet.toNat < 0x80)
    (ys : List UInt8) : encode (decodeLossy (xs ++ ys)) = xs ++ encode (decodeLossy ys) := by
  induction xs with
  | nil => rfl
  | cons octet xs ih =>
    obtain ⟨hoctet, hxs⟩ := List.forall_mem_cons.mp h
    have hdecode : decodeLossy (octet :: (xs ++ ys)) =
        Char.ofNat octet.toNat :: decodeLossy (xs ++ ys) :=
      decodeLossy_append_ascii hoctet [] (xs ++ ys)
    rw [List.cons_append, hdecode, encode, List.flatMap_cons, encodeChar_ofNat _ hoctet,
      UInt8.ofNat_toNat, ← encode, ih hxs]
    rfl

theorem le_of_mem_head?_encodeChar {c : Char} {octet : UInt8} (hc : 0x80 ≤ c.toNat)
    (h : octet ∈ (String.utf8EncodeChar c).head?) : 0x80 ≤ octet.toNat := by
  have hv : 0x80 ≤ c.val.toNat := hc
  have hoctet {n : Nat} (hn : 0x80 ≤ n ∧ n < 0x100) (h : UInt8.ofNat n = octet) :
      0x80 ≤ octet.toNat := by
    rw [← h, UInt8.toNat_ofNat_of_lt' hn.2]
    exact hn.1
  unfold String.utf8EncodeChar at h
  generalize c.val.toNat = v at *
  simp only at h
  split at h
  · omega
  split at h
  · exact hoctet (by omega) (Option.some.inj h)
  split at h
  · exact hoctet (by omega) (Option.some.inj h)
  · exact hoctet (by omega) (Option.some.inj h)

theorem le_of_mem_head?_encode {cs : List Char} {octet : UInt8}
    (hfirst : ∀ c ∈ cs.head?, 0x80 ≤ c.toNat) (h : octet ∈ (encode cs).head?) :
    0x80 ≤ octet.toNat := by
  cases cs with
  | nil => cases h
  | cons c cs =>
    refine le_of_mem_head?_encodeChar (hfirst c rfl) ?_
    rw [encode, List.flatMap_cons] at h
    cases hoctets : String.utf8EncodeChar c with
    | nil => exact absurd hoctets String.utf8EncodeChar_ne_nil
    | cons first rest => rwa [hoctets] at h

end Ls8.Utf8
