import Ls8.Proofs.Assembly.Numeral

/-!
# The spellings of operands

An operand stands for a byte of its own in two ways. It follows the grammar: the letter of registers
with one digit, or a numeral (`Regular`). Or the readers of numbers let it pass: a register with
more digits than one or a plus sign, a number with a plus sign behind its mark, or zero with a minus
sign there (`Irregular`). No operand is both (`Irregular.not_regular`), and no other one stands for a
byte of its own (`readOperand_eq_byte_iff`): the rest are names of labels, so an assembled source
follows the grammar but for its irregular operands (`operand_spellings`).
-/

namespace Ls8.Assembly

open Numeral (Spells byte? int64? integer? natural?)
open Text (capitals smallAscii)

/-! ## The grammar and what is outside it -/

/-- The operand is a register or a number by the grammar, and stands for the byte. -/
inductive Regular : List Char → UInt8 → Prop
  | register {c : Char} {d : Nat} (hc : IsRegisterLetter c) (hd : d < 8) :
    Regular [c, Nat.digitChar d] (UInt8.ofNat d)
  | numeral {text : List Char} {n : Nat} (h : IsNumeral text n) (hn : n ≤ 255) :
    Regular text (UInt8.ofNat n)

/-- The operand is outside the grammar, and yet read as the byte. -/
inductive Irregular : List Char → UInt8 → Prop
  | manyDigits {c : Char} {digits : List Char} {d : Nat} (hc : IsRegisterLetter c)
    (h : Spells 10 d digits) (hd : d < 8) (hlength : 1 < digits.length) :
    Irregular (c :: digits) (UInt8.ofNat d)
  | plusRegister {c : Char} {digits : List Char} {d : Nat} (hc : IsRegisterLetter c)
    (h : Spells 10 d digits) (hd : d < 8) : Irregular (c :: '+' :: digits) (UInt8.ofNat d)
  | plus {mark digits : List Char} {radix n : Nat} (hmark : (mark, radix) ∈ radixMarks)
    (h : Spells radix n digits) (hn : n ≤ 255) :
    Irregular (mark ++ '+' :: digits) (UInt8.ofNat n)
  | minusZero {mark digits : List Char} {radix : Nat} (hmark : (mark, radix) ∈ radixMarks)
    (h : Spells radix 0 digits) : Irregular (mark ++ '-' :: digits) 0

/-- The operand is the name of a label, in any case, and the byte is its address. -/
def NamesLabel (table : List (String × Nat)) (operand : List Char) (byte : UInt8) : Prop :=
  (String.ofList (capitals operand), byte.toNat) ∈ table

/-- The operand follows the grammar, and stands for the byte. -/
def FollowsGrammar (table : List (String × Nat)) (operand : List Char) (byte : UInt8) : Prop :=
  Regular operand byte ∨ NamesLabel table operand byte

variable {mark cs digits : List Char} {radix n : Nat} {operand : List Char} {byte : UInt8}

/-! ## What is read -/

theorem exists_cons_of_smallAscii {c d : Char} {ds : List Char} (h : smallAscii cs = c :: d :: ds) :
    ∃ c' d' rest, cs = c' :: d' :: rest ∧ c'.toLower = c ∧ d'.toLower = d ∧
      smallAscii rest = ds := by
  match cs, h with
  | c' :: d' :: rest, h =>
    simp only [smallAscii, List.map_cons, List.cons.injEq] at h
    exact ⟨c', d', rest, rfl, h.1, h.2.1, h.2.2⟩

theorem toLower_eq_letter {c : Char} (d : Char) (hd : 'a' ≤ d ∧ d ≤ 'z') (h : c.toLower = d) :
    c = d ∨ c = d.toUpper := by
  have h' := Numeral.toNat_toLower c
  have h'' := Numeral.toNat_toUpper d
  rw [← Char.toNat_inj, ← Char.toNat_inj]
  rw [← Char.toNat_inj] at h
  simp only [Numeral.le_iff_toNat_le, Char.reduceToNat] at *
  grind

theorem number?_eq_some {i : Int} (h : number? cs = some i) :
    ∃ mark radix rest, (mark, radix) ∈ radixMarks ∧ cs = mark ++ rest ∧
      int64? radix rest = some i := by
  unfold number? at h
  split at h
  · rename_i ds heq
    obtain ⟨c, d, rest, rfl, hc, hd, rfl⟩ := exists_cons_of_smallAscii heq
    obtain rfl := (Text.toLower_eq_iff (by decide)).mp hc
    rw [Numeral.int64?_smallAscii] at h
    rcases toLower_eq_letter 'x' (by decide) hd with rfl | rfl
    · exact ⟨['0', 'x'], 16, rest, by decide, rfl, h⟩
    · exact ⟨['0', 'X'], 16, rest, by decide, rfl, h⟩
  · rename_i ds heq
    obtain ⟨c, d, rest, rfl, hc, hd, rfl⟩ := exists_cons_of_smallAscii heq
    obtain rfl := (Text.toLower_eq_iff (by decide)).mp hc
    rw [Numeral.int64?_smallAscii] at h
    rcases toLower_eq_letter 'b' (by decide) hd with rfl | rfl
    · exact ⟨['0', 'b'], 2, rest, by decide, rfl, h⟩
    · exact ⟨['0', 'B'], 2, rest, by decide, rfl, h⟩
  · rw [Numeral.int64?_smallAscii] at h
    exact ⟨[], 10, cs, by decide, rfl, h⟩

theorem eq_digitChar_of_spells (h : Spells 10 n digits) (hn : n < 8) (hlength : ¬1 < digits.length) :
    digits = [Nat.digitChar n] := by
  obtain ⟨zeros, hsmall⟩ := h
  have hdigits : Nat.toDigits 10 n = [Nat.digitChar n] := Nat.toDigits_of_lt_base (by omega)
  have hcount := congrArg List.length hsmall
  rw [hdigits, smallAscii, List.length_map, List.length_append, List.length_replicate,
    List.length_singleton] at hcount
  obtain rfl : zeros = 0 := by omega
  obtain ⟨c, rfl⟩ := List.length_eq_one_iff.mp (by omega : digits.length = 1)
  have hchar : c.toLower = Nat.digitChar n := by simpa [smallAscii, hdigits] using hsmall
  have hcaseless : ∀ d < 8, Text.IsCaseless (Nat.digitChar d) := by decide
  rw [(Text.toLower_eq_iff (hcaseless n hn)).mp hchar]

theorem ofNat_lt_eight_iff (hn : n < 256) : UInt8.ofNat n < 8 ↔ n < 8 := by
  rw [UInt8.lt_iff_toNat_lt, UInt8.toNat_ofNat_of_lt' hn]
  rfl

theorem regular_or_irregular_of_registerNumber? (h : registerNumber? operand = some byte)
    (hbyte : byte < 8) : Regular operand byte ∨ Irregular operand byte := by
  cases operand with
  | nil => cases h
  | cons c cs =>
    rw [registerNumber?_cons] at h
    split at h
    · rename_i hc
      obtain ⟨sign, digits, n, rfl, hdigits, hn, rfl, hsign⟩ := Numeral.byte?_eq_some h
      have hn8 : n < 8 := (ofNat_lt_eight_iff hn).mp hbyte
      rcases hsign with rfl | rfl
      · by_cases hlength : 1 < digits.length
        · exact .inr (.manyDigits hc hdigits hn8 hlength)
        · rw [List.nil_append, eq_digitChar_of_spells hdigits hn8 hlength]
          exact .inl (.register hc hn8)
      · exact .inr (.plusRegister hc hdigits hn8)
    · cases h

theorem regular_or_irregular_of_number? {i : Int} (h : number? operand = some i)
    (hi : 0 ≤ i ∧ i < 256) :
    Regular operand (UInt8.ofNat i.toNat) ∨ Irregular operand (UInt8.ofNat i.toNat) := by
  obtain ⟨mark, radix, rest, hmark, rfl, hrest⟩ := number?_eq_some h
  rw [int64?, Option.filter_eq_some_iff] at hrest
  obtain ⟨sign, digits, n, rfl, hdigits, hcases⟩ := Numeral.integer?_eq_some hrest.1
  have hspells := (natural?_eq_some_iff_spells hmark).mp hdigits
  rcases hcases with ⟨rfl | rfl, rfl⟩ | ⟨rfl, rfl⟩
  · exact .inl (.numeral ⟨mark, radix, digits, hmark, rfl, hspells⟩ (by omega))
  · exact .inr (.plus hmark hspells (by omega))
  · obtain rfl : n = 0 := by omega
    exact .inr (.minusZero hmark hspells)

theorem regular_or_irregular_of_readOperand (h : readOperand operand = .ok (.byte byte)) :
    Regular operand byte ∨ Irregular operand byte := by
  unfold readOperand at h
  split at h
  · cases h
  split at h
  · rename_i register hregister
    split at h
    · rename_i hsmall
      cases h
      exact regular_or_irregular_of_registerNumber? hregister hsmall
    · cases h
  split at h
  · rename_i value hnumber
    unfold byteItem at h
    split at h
    · rename_i hvalue
      cases h
      exact regular_or_irregular_of_number? hnumber hvalue
    · cases h
  · split at h <;> cases h

theorem readOperand_of_byte? {c : Char} {d : Nat} (hc : IsRegisterLetter c)
    (h : byte? cs = some (UInt8.ofNat d)) (hd : d < 8) :
    readOperand (c :: cs) = .ok (.byte (UInt8.ofNat d)) := by
  have hregister : registerNumber? (c :: cs) = some (UInt8.ofNat d) := by
    rw [registerNumber?_cons]
    exact (if_pos hc).trans h
  rw [readOperand, hregister]
  simp [(ofNat_lt_eight_iff (by omega)).mpr hd]

theorem byte?_of_spells (h : Spells 10 n digits) (hn : n < 8) :
    byte? digits = some (UInt8.ofNat n) :=
  Numeral.byte?_of_natural? ((natural?_eq_some_iff_spells mem_radixMarks_decimal).mpr h) (by omega)

theorem readOperand_signed {sign : List Char} {m : Nat} (hmark : (mark, radix) ∈ radixMarks)
    (hsign : IsSign sign) (h : Spells radix n digits)
    (hvalue : int64? radix (sign ++ digits) = some (m : Int)) (hm : m < 256) :
    readOperand (mark ++ (sign ++ digits)) = .ok (.byte (UInt8.ofNat m)) :=
  readOperand_of_number? (registerNumber?_signed hmark hsign h)
    ((number?_signed hmark hsign h).trans hvalue) hm

theorem readOperand_regular (h : Regular operand byte) : readOperand operand = .ok (.byte byte) := by
  cases h with
  | @register c d hc hd =>
    have hsmall : ∀ d < 8, smallAscii [Nat.digitChar d] = [Nat.digitChar d] := by decide
    have hdigit : Spells 10 d [Nat.digitChar d] :=
      ⟨0, (hsmall d hd).trans (Nat.toDigits_of_lt_base (by omega)).symm⟩
    exact readOperand_of_byte? hc (byte?_of_spells hdigit hd) hd
  | numeral h hn => rw [readOperand_numeral h, numeralItem, if_pos hn]

theorem readOperand_irregular (h : Irregular operand byte) :
    readOperand operand = .ok (.byte byte) := by
  cases h with
  | manyDigits hc h hd _ => exact readOperand_of_byte? hc (byte?_of_spells h hd) hd
  | plusRegister hc h hd =>
    have hdigits := (natural?_eq_some_iff_spells mem_radixMarks_decimal).mpr h
    exact readOperand_of_byte? hc ((Numeral.byte?_plus hdigits).trans (byte?_of_spells h hd)) hd
  | plus hmark h hn =>
    have hdigits := (natural?_eq_some_iff_spells hmark).mpr h
    have hvalue := (Numeral.int64?_plus hdigits).trans (Numeral.int64?_of_natural? hdigits (by omega))
    exact readOperand_signed hmark (.inr (.inl rfl)) h hvalue (by omega)
  | minusZero hmark h =>
    have hdigits := (natural?_eq_some_iff_spells hmark).mpr h
    exact readOperand_signed hmark (.inr (.inr rfl)) h (m := 0) (Numeral.int64?_minus hdigits)
      (by decide)

/-- The operands that stand for a byte of their own. -/
theorem readOperand_eq_byte_iff :
    readOperand operand = .ok (.byte byte) ↔ Regular operand byte ∨ Irregular operand byte :=
  ⟨regular_or_irregular_of_readOperand, (·.elim readOperand_regular readOperand_irregular)⟩

/-! ## Two disjoint classes -/

theorem IsNumeral.not_sign (h : IsNumeral operand n) : '+' ∉ operand ∧ '-' ∉ operand := by
  obtain ⟨mark, radix, digits, hmark, rfl, hspells⟩ := h
  have hdigit := Numeral.isSome_digitValue?_of_natural?
    ((natural?_eq_some_iff_spells hmark).mpr hspells)
  have hmarks : '+' ∉ mark ∧ '-' ∉ mark := by
    rcases mark_cases hmark with ⟨rfl, _⟩ | ⟨c, rfl, ⟨_, hplus, hminus⟩, _⟩
    · exact ⟨List.not_mem_nil, List.not_mem_nil⟩
    · simp [hplus.symm, hminus.symm]
  rw [List.mem_append, List.mem_append, not_or, not_or]
  refine ⟨⟨hmarks.1, fun hmem => ?_⟩, hmarks.2, fun hmem => ?_⟩
  · simpa [Numeral.digitValue?] using hdigit '+' hmem
  · simpa [Numeral.digitValue?] using hdigit '-' hmem

theorem IsNumeral.ne_register {c : Char} (h : IsNumeral operand n) (hc : IsRegisterLetter c)
    (cs : List Char) : operand ≠ c :: cs := by
  obtain ⟨mark, radix, digits, hmark, rfl, hspells⟩ := h
  exact signed_ne_register hmark (.inl rfl) hspells hc cs

theorem digitChar_ne_plus {d : Nat} (hd : d < 8) : Nat.digitChar d ≠ '+' := by
  have hdigits : ∀ d < 8, Nat.digitChar d ≠ '+' := by decide
  exact hdigits d hd

theorem Irregular.not_regular {byte' : UInt8} (h : Irregular operand byte) :
    ¬Regular operand byte' := by
  intro hregular
  generalize ho : operand = o at hregular
  cases h with
  | manyDigits hc _ _ hlength =>
    cases hregular with
    | register =>
      rw [(List.cons.inj ho).2] at hlength
      exact absurd hlength (Nat.lt_irrefl 1)
    | numeral h' => exact h'.ne_register hc _ ho.symm
  | plusRegister hc =>
    cases hregular with
    | register _ hd' =>
      obtain ⟨_, hplus⟩ := List.cons.inj ho
      exact digitChar_ne_plus hd' (List.cons.inj hplus).1.symm
    | numeral h' => exact h'.ne_register hc _ ho.symm
  | plus hmark h =>
    cases hregular with
    | register hc' => exact signed_ne_register hmark (.inr (.inl rfl)) h hc' _ ho
    | numeral h' => exact h'.not_sign.1 (by simp [← ho])
  | minusZero hmark h =>
    cases hregular with
    | register hc' => exact signed_ne_register hmark (.inr (.inr rfl)) h hc' _ ho
    | numeral h' => exact h'.not_sign.2 (by simp [← ho])

/-! ## Operands in sources -/

theorem eq_capitals_of_readOperand {label : String} (h : readOperand operand = .ok (.address label)) :
    label = String.ofList (capitals operand) := by
  unfold readOperand byteItem at h
  grind

theorem namesLabel_of_place {table : List (String × Nat)}
    (h : place table.reverse (.address (String.ofList (capitals operand))) = .ok byte) :
    NamesLabel table operand byte := by
  rw [place] at h
  split at h
  · cases h
  · rename_i address hlookup
    split at h
    · rename_i hsmall
      cases h
      obtain ⟨before, after, htable, _⟩ := List.lookup_eq_some_iff.mp hlookup
      rw [NamesLabel, UInt8.toNat_ofNat_of_lt' hsmall, ← List.mem_reverse, htable]
      exact List.mem_append_right _ List.mem_cons_self
    · cases h

theorem Puts.spelling {table : List (String × Nat)} (h : Puts table.reverse operand byte) :
    FollowsGrammar table operand byte ∨ Irregular operand byte := by
  obtain ⟨item, hread, hplace⟩ := h
  cases item with
  | byte value =>
    cases hplace
    exact (regular_or_irregular_of_readOperand hread).imp_left .inl
  | address label =>
    obtain rfl := eq_capitals_of_readOperand hread
    exact .inl (.inr (namesLabel_of_place hplace))

theorem isPlain_of_isRegisterLetter {c : Char} (hc : IsRegisterLetter c) : isPlain c := by
  rcases hc with rfl | rfl <;> decide

theorem Regular.isWord (h : Regular operand byte) : IsWord operand := by
  cases h with
  | @register c d hc hd =>
    have hdigits : ∀ d < 8, IsWord [Nat.digitChar d] := by decide
    exact .cons (isPlain_of_isRegisterLetter hc) (hdigits d hd)
  | numeral h _ => exact h.isWord

theorem Irregular.isWord (h : Irregular operand byte) : IsWord operand := by
  cases h with
  | manyDigits hc h _ _ =>
    have hdigits := isWord_signed mem_radixMarks_decimal (.inl rfl) h
    exact .cons (isPlain_of_isRegisterLetter hc) hdigits
  | plusRegister hc h _ =>
    have hdigits := isWord_signed mem_radixMarks_decimal (.inr (.inl rfl)) h
    exact .cons (isPlain_of_isRegisterLetter hc) hdigits
  | plus hmark h _ => exact isWord_signed hmark (.inr (.inl rfl)) h
  | minusZero hmark h => exact isWord_signed hmark (.inr (.inr rfl)) h

/-- All that follows the grammar without a label is accepted, and all that is irregular is, too. -/
theorem assemble_spelling (h : Regular operand byte ∨ Irregular operand byte) :
    assemble (String.ofList ("DB ".toList ++ operand)) = .ok [byte] :=
  assemble_data (h.elim Regular.isWord Irregular.isWord) (readOperand_eq_byte_iff.mpr h)

/-- **The spellings of operands.** An operand of an assembled source follows the grammar or is
irregular, and emits the byte that it stands for so. It follows the grammar exactly if it is not
irregular, or is the name of a label at the very address that it is read as. -/
theorem operand_spellings {source : String} {bytes : List UInt8} (h : assemble source = .ok bytes)
    {e : Emission} (he : e ∈ emissions source bytes) {i : Nat} (hi : e.operands[i]? = some operand) :
    ∃ byte, e.operandBytes[i]? = some byte ∧
      (FollowsGrammar (labelTable source) operand byte ∨ Irregular operand byte) ∧
      (FollowsGrammar (labelTable source) operand byte ↔
        (Irregular operand byte → NamesLabel (labelTable source) operand byte)) := by
  obtain ⟨byte, hbyte, hputs⟩ := (emitted_of_mem h he).getElem? hi
  have hspelling := hputs.spelling
  refine ⟨byte, hbyte, hspelling, ?_, ?_⟩
  · rintro (hregular | hlabel) hirregular
    · exact absurd hregular hirregular.not_regular
    · exact hlabel
  · intro hlabel
    rcases hspelling with hgrammar | hirregular
    · exact hgrammar
    · exact .inr (hlabel hirregular)

theorem operand_spellings_plus_label :
    assemble "x: DB 0x+1F, X" = .ok [31, 0] ∧
      ¬FollowsGrammar [("X", 0)] "0x+1F".toList 31 ∧ FollowsGrammar [("X", 0)] "X".toList 0 := by
  have hok : assemble "x: DB 0x+1F, X" = .ok [31, 0] := by decide +kernel
  have htable : labelTable "x: DB 0x+1F, X" = [("X", 0)] := by decide +kernel
  let statement : Emission := ⟨⟨"DB".toList, ["0x+1F".toList, "X".toList]⟩, 1, [31, 0]⟩
  have hstatement : statement ∈ emissions "x: DB 0x+1F, X" [31, 0] := by decide +kernel
  have hplus : Irregular "0x+1F".toList 31 :=
    @Irregular.plus ['0', 'x'] ['1', 'F'] 16 31 (by decide) ⟨0, by decide⟩ (by decide)
  have hlabel : NamesLabel [("X", 0)] "X".toList 0 := by
    unfold NamesLabel
    decide +kernel
  have hfirst := @operand_spellings "0x+1F".toList _ _ hok _ hstatement 0 rfl
  have hsecond := @operand_spellings "X".toList _ _ hok _ hstatement 1 rfl
  rw [htable] at hfirst hsecond
  obtain ⟨_, ⟨⟩, _, hfirst⟩ := hfirst
  obtain ⟨_, ⟨⟩, _, hsecond⟩ := hsecond
  refine ⟨hok, fun hgrammar => ?_, hsecond.mpr fun _ => hlabel⟩
  have hnot : ¬NamesLabel [("X", 0)] "0x+1F".toList 31 := by
    unfold NamesLabel
    decide +kernel
  exact hnot (hfirst.mp hgrammar hplus)

/-- A register's number with a plus sign is assembled, though it is outside the grammar. -/
theorem plus_in_register :
    assemble "PRN R+5" = .ok [0x47, 5] ∧
      emissions "PRN R+5" [0x47, 5] = [⟨⟨"PRN".toList, ["R+5".toList]⟩, 1, [0x47, 5]⟩] ∧
      ∀ byte, ¬FollowsGrammar (labelTable "PRN R+5") "R+5".toList byte := by
  refine ⟨by decide +kernel, by decide +kernel, fun byte hgrammar => ?_⟩
  have hplus : Irregular "R+5".toList 5 :=
    @Irregular.plusRegister 'R' ['5'] 5 (.inl rfl) ⟨0, by decide⟩ (by decide)
  have htable : labelTable "PRN R+5" = [] := by decide +kernel
  rcases hgrammar with hregular | hlabel
  · exact hplus.not_regular hregular
  · rw [NamesLabel, htable] at hlabel
    cases hlabel

end Ls8.Assembly
