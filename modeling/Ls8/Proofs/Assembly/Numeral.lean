import Ls8.Proofs.Assembly.Disassembly
import Ls8.Proofs.Assembly.FirstFault
import Ls8.Proofs.Text.Spelling

/-!
# Numerals as operands

A numeral is a number in decimal, or in hexadecimal or binary behind the mark of its radix, with
zeros in front and letters in either case as one likes (`IsNumeral`). As an operand it is its exact
value: a byte, or a value that is no byte, or a numeral that no signed word of 64 bits holds
(`readOperand_numeral`). So it is in every source that has it as an operand (`numeral_exact`).
-/

namespace Ls8.Assembly

open Numeral (Spells int64? integer? natural?)
open Text (capitals smallAscii)

/-! ## Numerals -/

/-- What stands in front of the digits of a number, for each radix. -/
def radixMarks : List (List Char × Nat) :=
  [([], 10), (['0', 'x'], 16), (['0', 'X'], 16), (['0', 'b'], 2), (['0', 'B'], 2)]

/-- The text is a number in decimal, or in hexadecimal or binary behind a mark. -/
def IsNumeral (text : List Char) (n : Nat) : Prop :=
  ∃ mark radix digits, (mark, radix) ∈ radixMarks ∧ text = mark ++ digits ∧ Spells radix n digits

variable {mark cs digits : List Char} {radix n : Nat}

theorem mem_radixMarks_decimal : ([], 10) ∈ radixMarks := by decide

theorem natural?_eq_some_iff_spells (h : (mark, radix) ∈ radixMarks) :
    natural? radix digits = some n ↔ Spells radix n digits := by
  have hbounds : ∀ p ∈ radixMarks, 1 < p.2 ∧ p.2 ≤ 16 := by decide
  obtain ⟨hr, hr'⟩ := hbounds _ h
  exact Numeral.natural?_eq_some_iff hr hr'

theorem mark_cases (h : (mark, radix) ∈ radixMarks) :
    mark = [] ∧ radix = 10 ∨ ∃ c, mark = ['0', c] ∧ (isPlain c ∧ c ≠ '+' ∧ c ≠ '-') ∧
      ∀ cs, number? (mark ++ cs) = int64? radix cs := by
  have hread (ds : List Char) (radix : Nat) := Numeral.int64?_smallAscii radix ds
  simp only [radixMarks, List.mem_cons, Prod.mk.injEq, List.not_mem_nil, or_false] at h
  rcases h with h | ⟨rfl, rfl⟩ | ⟨rfl, rfl⟩ | ⟨rfl, rfl⟩ | ⟨rfl, rfl⟩
  · exact .inl h
  all_goals exact .inr ⟨_, rfl, by decide, fun cs => hread cs _⟩

theorem number?_decimal (h : 'x' ∉ smallAscii cs ∧ 'b' ∉ smallAscii cs) :
    number? cs = int64? 10 cs := by
  rw [← Numeral.int64?_smallAscii]
  unfold number?
  split
  · rename_i heq
    exact absurd (by simp [heq]) h.1
  · rename_i heq
    exact absurd (by simp [heq]) h.2
  · rfl

/-! ## Reading with a sign -/

/-- At most one sign. -/
def IsSign (sign : List Char) : Prop :=
  sign = [] ∨ sign = ['+'] ∨ sign = ['-']

theorem not_mem_decimal {sign : List Char} (hsign : IsSign sign) (h : Spells 10 n digits) :
    'x' ∉ smallAscii (sign ++ digits) ∧ 'b' ∉ smallAscii (sign ++ digits) := by
  have hsmall : natural? 10 (smallAscii digits) = some n := by
    rw [Numeral.natural?_smallAscii]
    exact (natural?_eq_some_iff_spells mem_radixMarks_decimal).mpr h
  have hdigit := Numeral.isSome_digitValue?_of_natural? hsmall
  rw [smallAscii, List.map_append, ← smallAscii, ← smallAscii, List.mem_append, List.mem_append]
  constructor
  · rintro (hmem | hmem)
    · rcases hsign with rfl | rfl | rfl <;> revert hmem <;> decide
    · exact absurd (hdigit _ hmem) (by decide)
  · rintro (hmem | hmem)
    · rcases hsign with rfl | rfl | rfl <;> revert hmem <;> decide
    · exact absurd (hdigit _ hmem) (by decide)

theorem number?_signed {sign : List Char} (hmark : (mark, radix) ∈ radixMarks)
    (hsign : IsSign sign) (h : Spells radix n digits) :
    number? (mark ++ (sign ++ digits)) = int64? radix (sign ++ digits) := by
  rcases mark_cases hmark with ⟨rfl, rfl⟩ | ⟨_, _, _, hread⟩
  · have hletters := not_mem_decimal hsign h
    exact number?_decimal hletters
  · exact hread (sign ++ digits)

theorem head?_signed {sign : List Char} (hmark : (mark, radix) ∈ radixMarks) (hsign : IsSign sign)
    (h : Spells radix n digits) :
    ∃ c rest, mark ++ (sign ++ digits) = c :: rest ∧
      (startsWithDigit (c :: rest) ∨ (c = '+' ∨ c = '-') ∧ sign ≠ []) := by
  rcases mark_cases hmark with ⟨rfl, rfl⟩ | ⟨_, rfl, _⟩
  · rcases hsign with rfl | rfl | rfl
    · have hnatural := (natural?_eq_some_iff_spells hmark).mpr h
      obtain ⟨c, rest, rfl⟩ := List.exists_cons_of_ne_nil (Numeral.ne_nil_of_natural? hnatural)
      have hdigit := Numeral.isSome_digitValue?_of_natural? hnatural c List.mem_cons_self
      refine ⟨c, rest, rfl, .inl ?_⟩
      simp only [startsWithDigit, Bool.and_eq_true, decide_eq_true_eq, Numeral.digitValue?,
        Numeral.le_iff_toNat_le, Char.reduceToNat] at *
      grind
    · exact ⟨'+', digits, rfl, .inr ⟨.inl rfl, by decide⟩⟩
    · exact ⟨'-', digits, rfl, .inr ⟨.inr rfl, by decide⟩⟩
  · exact ⟨'0', _, rfl, .inl rfl⟩

def IsRegisterLetter (c : Char) : Prop :=
  c = 'R' ∨ c = 'r'

theorem signed_ne_register {sign : List Char} {c : Char} (hmark : (mark, radix) ∈ radixMarks)
    (hsign : IsSign sign) (h : Spells radix n digits) (hc : IsRegisterLetter c) (cs : List Char) :
    mark ++ (sign ++ digits) ≠ c :: cs := by
  intro heq
  obtain ⟨c', rest, heq', hc'⟩ := head?_signed hmark hsign h
  obtain ⟨rfl, rfl⟩ := List.cons.inj (heq.symm.trans heq')
  rcases hc with rfl | rfl <;> simp [startsWithDigit] at hc'

theorem registerNumber?_signed {sign : List Char} (hmark : (mark, radix) ∈ radixMarks)
    (hsign : IsSign sign) (h : Spells radix n digits) :
    registerNumber? (mark ++ (sign ++ digits)) = none := by
  rcases hcs : mark ++ (sign ++ digits) with _ | ⟨c, cs⟩
  · rfl
  · rw [registerNumber?_cons]
    exact if_neg fun hc => signed_ne_register hmark hsign h hc cs hcs

/-! ## Reading a numeral -/

/-- What is wrong with a numeral that is no byte. -/
def numeralFault (text : List Char) (n : Nat) : Fault :=
  if n < 0x8000000000000000 then .valueOutOfRange n else .invalidNumber (String.ofList text)

/-- What a numeral emits. -/
def numeralItem (text : List Char) (n : Nat) : Except Fault Item :=
  if n ≤ 255 then .ok (.byte (UInt8.ofNat n)) else .error (numeralFault text n)

theorem int64?_of_le {digits : List Char} (h : natural? radix digits = some n)
    (hn : 0x8000000000000000 ≤ n) : int64? radix digits = none := by
  rw [int64?, Numeral.integer?_of_natural? h, Option.filter_some, if_neg]
  simp only [decide_eq_true_eq]
  omega

theorem readOperand_numeral {text : List Char} (h : IsNumeral text n) :
    readOperand text = numeralItem text n := by
  obtain ⟨mark, radix, digits, hmark, rfl, hspells⟩ := h
  have hnatural := (natural?_eq_some_iff_spells hmark).mpr hspells
  have hnumber := number?_signed hmark (.inl rfl) hspells
  have hregister := registerNumber?_signed hmark (.inl rfl) hspells
  obtain ⟨c, rest, heq, hc⟩ := head?_signed hmark (.inl rfl) hspells
  rw [List.nil_append] at hnumber hregister heq
  have hdigit : startsWithDigit (mark ++ digits) := by
    rw [heq]
    exact hc.resolve_right fun h => h.2 rfl
  have hempty : (mark ++ digits).isEmpty = false := by
    rw [heq]
    rfl
  rw [readOperand, hempty, if_neg (by decide), hregister, numeralItem, numeralFault]
  by_cases hfits : n < 0x8000000000000000
  · rw [hnumber, Numeral.int64?_of_natural? hnatural (by omega), if_pos hfits]
    simp only [byteItem, Int.toNat_natCast]
    by_cases hbyte : n ≤ 255
    · rw [if_pos (by omega), if_pos hbyte]
    · rw [if_neg (by omega), if_neg hbyte]
  · rw [hnumber, int64?_of_le hnatural (Nat.not_lt.mp hfits)]
    simp only [hdigit, if_true]
    rw [if_neg (by omega : ¬n ≤ 255), if_neg hfits]

theorem isWord_signed {sign : List Char} (hmark : (mark, radix) ∈ radixMarks) (hsign : IsSign sign)
    (h : Spells radix n digits) : IsWord (mark ++ (sign ++ digits)) := by
  have hdigits := IsWord.of_natural? ((natural?_eq_some_iff_spells hmark).mpr h)
  have hsigned : IsWord (sign ++ digits) := by
    rcases hsign with rfl | rfl | rfl
    · exact hdigits
    all_goals exact .cons (by decide) hdigits
  rcases mark_cases hmark with ⟨rfl, _⟩ | ⟨_, rfl, ⟨hplain, _⟩, _⟩
  · exact hsigned
  · exact .cons (by decide) (.cons hplain hsigned)

theorem IsNumeral.isWord {text : List Char} (h : IsNumeral text n) : IsWord text := by
  obtain ⟨mark, radix, digits, hmark, rfl, hspells⟩ := h
  exact isWord_signed hmark (.inl rfl) hspells

/-! ## Numerals in sources -/

theorem exists_dataLine {operand : List Char} (h : IsWord operand) :
    ∃ l : Listing.PlainLine, l.text = "DB ".toList ++ operand ∧ l.mnemonic = "DB".toList ∧
      l.operands = [operand] := by
  let l : Listing.PlainLine :=
    { mnemonic := "DB".toList
      operands := [operand]
      comment := []
      isWord_mnemonic := by decide
      isWord_operand := List.forall_mem_singleton.mpr h
      isBlank_strip := by decide
      not_mem_comment := by decide }
  refine ⟨l, ?_, rfl, rfl⟩
  rw [Listing.PlainLine.text, Listing.PlainLine.statement, plainStatement,
    List.intercalate_singleton, List.append_nil]
  rfl

theorem assemble_data {operand : List Char} {byte : UInt8} (h : IsWord operand)
    (hread : readOperand operand = .ok (.byte byte)) :
    assemble (String.ofList ("DB ".toList ++ operand)) = .ok [byte] := by
  obtain ⟨l, htext, hmnemonic, hoperands⟩ := exists_dataLine h
  obtain ⟨hfeed, hreturn⟩ := l.not_mem_text
  have hlines : Text.lines l.text = [l.text] := by
    have hlines := @Text.lines_intercalate [l.text] (by simpa using hfeed)
      (by simpa using fun h => hreturn (List.mem_of_getLast? h)) (by simpa using l.text_ne_nil)
    rwa [List.intercalate_singleton] at hlines
  have hscan (line : Nat) (defined : List String) :
      scanLine line defined l.text = .ok [.item line (.byte byte)] := by
    rw [l.scanLine_text, hmnemonic, hoperands, readInstruction_db hread]
    rfl
  rw [assemble_eq_twoPass, twoPass, String.toList_ofList, ← htext, hlines, scan, hscan]
  rfl

/-- **A numeral is its exact value, of any size**, in any radix, case and number of zeros. A value of
a byte is emitted; a greater one is reported, with the value if it is below `2 ^ 63`, on the line of
the operand. -/
theorem numeral_exact {text : List Char} {n : Nat} (h : IsNumeral text n) :
    readOperand text = numeralItem text n ∧
      (∀ source bytes, assemble source = .ok bytes → ∀ e ∈ emissions source bytes,
        ∀ i : Nat, e.operands[i]? = some text → n ≤ 255 ∧ e.operandBytes[i]? = some (UInt8.ofNat n)) ∧
      (∀ source, ∀ r : Reached source text, 255 < n →
        assemble source = .error ⟨r.line, numeralFault text n⟩) ∧
      (n ≤ 255 → assemble (String.ofList ("DB ".toList ++ text)) = .ok [UInt8.ofNat n]) := by
  have hread := readOperand_numeral h
  refine ⟨hread, ?_, ?_, ?_⟩
  · intro source bytes hok e he i hi
    obtain ⟨byte, hbyte, item, hitem, hplace⟩ := (emitted_of_mem hok he).getElem? hi
    rw [hread, numeralItem] at hitem
    split at hitem
    · rename_i hn
      cases hitem
      cases hplace
      exact ⟨hn, hbyte⟩
    · cases hitem
  · intro source r hn
    refine r.assemble_eq_error ?_
    rw [hread, numeralItem, if_neg (by omega)]
  · intro hn
    refine assemble_data h.isWord ?_
    rw [hread, numeralItem, if_pos hn]

/-- A byte in mixed case behind zeros, and the least number that no signed word holds behind a
register. -/
theorem numeral_exact_limits :
    (IsNumeral "0X00fF".toList 255 ∧ assemble "DB 0X00fF" = .ok [255]) ∧
      IsNumeral "9223372036854775808".toList 0x8000000000000000 ∧
      assemble "LDI R0,9223372036854775808" = .error ⟨1, .invalidNumber "9223372036854775808"⟩ := by
  have hbyte : IsNumeral "0X00fF".toList 255 :=
    ⟨"0X".toList, 16, "00fF".toList, by decide, rfl, 2, by decide⟩
  have hlarge : IsNumeral "9223372036854775808".toList 0x8000000000000000 :=
    ⟨[], 10, "9223372036854775808".toList, by decide, rfl, 0, by decide +kernel⟩
  let reached : Reached "LDI R0,9223372036854775808" "9223372036854775808".toList :=
    ⟨[], "LDI R0,9223372036854775808".toList, [], by decide +kernel, [], rfl, by decide +kernel,
      ⟨"LDI".toList, ["R0".toList, "9223372036854775808".toList]⟩, by decide +kernel,
      .inr ⟨.ldi, by decide +kernel, by decide +kernel⟩, ["R0".toList], [], rfl, [.byte 0], rfl⟩
  refine ⟨⟨hbyte, ?_⟩, hlarge, ?_⟩
  · exact (numeral_exact hbyte).2.2.2 (by decide)
  · exact (numeral_exact hlarge).2.2.1 _ reached (by decide)

end Ls8.Assembly
