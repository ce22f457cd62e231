import Ls8.Assembly.Statement
import Ls8.Proofs.Text.Lines
import Ls8.Proofs.Text.Numeral

/-!
# Reading plain statements

A plain statement is a mnemonic and operands with one blank and commas between them, all words of
characters that have no meaning in a line. `readLine_plainStatement` and
`readStatement_plainStatement` say that such a line is taken apart at exactly these places, whatever
comment follows it; the lemmas on `readOperand` say what a register's name and a number emit.
-/

namespace Ls8.Assembly

open Numeral (natural?)
open Text (capitals isBlank smallAscii splitWord trim)

/-! ## Words -/

/-- No line and no statement is cut at the character. -/
def isPlain (c : Char) : Bool :=
  !isBlank c && c != ',' && c != ':' && c != ';' && c != '#'

/-- A word of plain characters. -/
structure IsWord (cs : List Char) : Prop where
  ne_nil : cs ≠ []
  plain : ∀ c ∈ cs, isPlain c

instance (cs : List Char) : Decidable (IsWord cs) :=
  decidable_of_iff (cs ≠ [] ∧ cs.all isPlain)
    ⟨fun h => ⟨h.1, List.all_eq_true.mp h.2⟩, fun h => ⟨h.1, List.all_eq_true.mpr h.2⟩⟩

theorem isBlank_of_isPlain {c : Char} (h : isPlain c) : isBlank c = false := by
  simp only [isPlain, Bool.and_eq_true, Bool.not_eq_true'] at h
  exact h.1.1.1.1

theorem isPlain_of_digit {radix : Nat} {c : Char} (h : (Numeral.digitValue? radix c).isSome) :
    isPlain c := by
  have hcode : (48 ≤ c.toNat ∧ c.toNat ≤ 57) ∨ (97 ≤ c.toNat ∧ c.toNat ≤ 122) ∨
      (65 ≤ c.toNat ∧ c.toNat ≤ 90) := by
    simp only [Numeral.digitValue?, Numeral.le_iff_toNat_le, Char.reduceToNat] at h
    grind
  have hblank : isBlank c = false := by
    simp [isBlank, Text.inRanges, Text.blankRanges]
    omega
  have hne (d : Char) (hd : d.toNat < 48 ∨ d.toNat = 58 ∨ d.toNat = 59) : c ≠ d := by
    rintro rfl
    omega
  simp [isPlain, hblank, hne ',' (by decide), hne ':' (by decide), hne ';' (by decide),
    hne '#' (by decide)]

namespace IsWord

theorem cons {c : Char} {cs : List Char} (hc : isPlain c) (hcs : IsWord cs) : IsWord (c :: cs) :=
  ⟨List.cons_ne_nil c cs, List.forall_mem_cons.mpr ⟨hc, hcs.plain⟩⟩

theorem of_natural? {radix n : Nat} {cs : List Char} (h : natural? radix cs = some n) : IsWord cs :=
  ⟨Numeral.ne_nil_of_natural? h,
    fun c hc => isPlain_of_digit (Numeral.isSome_digitValue?_of_natural? h c hc)⟩

variable {cs : List Char} (h : IsWord cs)

include h

theorem not_blank : ∀ c ∈ cs, isBlank c = false :=
  fun c hc => isBlank_of_isPlain (h.plain c hc)

theorem not_mem {c : Char} (hc : isPlain c = false) : c ∉ cs :=
  fun hmem => Bool.false_ne_true (hc.symm.trans (h.plain c hmem))

theorem trim_eq : trim cs = cs :=
  Text.trim_eq_self (fun c hc => h.not_blank c (List.mem_of_head? hc))
    (fun c hc => h.not_blank c (List.mem_of_getLast? hc))

theorem trim_append {last : List Char} (hlast : IsWord last) (middle : List Char) :
    trim (cs ++ (middle ++ last)) = cs ++ (middle ++ last) := by
  refine Text.trim_eq_self ?_ ?_
  · obtain ⟨first, rest, rfl⟩ := List.exists_cons_of_ne_nil h.ne_nil
    rintro _ ⟨⟩
    exact h.not_blank first List.mem_cons_self
  · intro c hc
    have hend := List.getLast?_eq_some_getLast hlast.ne_nil
    rw [List.getLast?_append, List.getLast?_append, hend, Option.some_or, Option.some_or] at hc
    exact hlast.not_blank c (List.mem_of_getLast? (hend.trans hc))

end IsWord

theorem isWord_decimal (n : Nat) : IsWord (Numeral.decimal n).toList :=
  .of_natural? (Numeral.natural?_decimal n)

theorem isWord_hex (n : Nat) : IsWord (Numeral.hex n).toList :=
  .of_natural? (Numeral.natural?_hex n)

theorem isWord_binary (n : Nat) : IsWord (Numeral.binary n).toList :=
  .of_natural? (Numeral.natural?_binary n)

/-! ## Plain statements -/

/-- A mnemonic, and operands behind a blank and between commas. -/
def plainStatement (mnemonic : List Char) : List (List Char) → List Char
  | [] => mnemonic
  | operand :: operands => mnemonic ++ ' ' :: [','].intercalate (operand :: operands)

theorem mem_intercalate {separator : List Char} {c : Char} {words : List (List Char)}
    (h : c ∈ separator.intercalate words) : c ∈ separator ∨ ∃ w ∈ words, c ∈ w := by
  induction words with
  | nil => cases h
  | cons w rest ih =>
    cases rest with
    | nil => exact .inr ⟨w, by simp, by simpa using h⟩
    | cons v rest =>
      rw [List.intercalate_cons_cons, List.mem_append, List.mem_append] at h
      rcases h with (hw | hc) | hrest
      · exact .inr ⟨w, by simp, hw⟩
      · exact .inl hc
      · rcases ih hrest with hc | ⟨u, hu, hcu⟩
        · exact .inl hc
        · exact .inr ⟨u, List.mem_cons_of_mem _ hu, hcu⟩

section

variable {mnemonic : List Char} {operands : List (List Char)} (hm : IsWord mnemonic)
  (ho : ∀ o ∈ operands, IsWord o)

include ho

theorem isBlank_of_mem_intercalate : ∀ c ∈ [','].intercalate operands, isBlank c = false := by
  intro c hc
  rcases mem_intercalate hc with hcomma | ⟨o, hmem, hco⟩
  · obtain rfl := List.mem_singleton.mp hcomma
    decide
  · exact (ho o hmem).not_blank c hco

theorem trim_intercalate : trim ([','].intercalate operands) = [','].intercalate operands :=
  Text.trim_eq_self
    (fun c hc => isBlank_of_mem_intercalate ho c (List.mem_of_head? hc))
    (fun c hc => isBlank_of_mem_intercalate ho c (List.mem_of_getLast? hc))

theorem intercalate_ne_nil (hne : operands ≠ []) : [','].intercalate operands ≠ [] := by
  cases operands with
  | nil => exact absurd rfl hne
  | cons o rest =>
    have hword := (ho o (by simp)).ne_nil
    cases rest with
    | nil => simpa using hword
    | cons p rest => simp [List.intercalate_cons_cons]

theorem splitOperands_intercalate : splitOperands ([','].intercalate operands) = operands := by
  by_cases hne : operands = []
  · subst hne
    rfl
  · have htrim : operands.map trim = operands :=
      (List.map_congr_left fun o hmem => (ho o hmem).trim_eq).trans (List.map_id' operands)
    rw [splitOperands, List.isEmpty_eq_false_iff.mpr (intercalate_ne_nil ho hne), if_neg (by simp),
      List.splitOn_intercalate ',' (fun o hmem => (ho o hmem).not_mem (by decide)) hne, htrim]

include hm

theorem mem_plainStatement {c : Char} (hc : c ∈ plainStatement mnemonic operands) :
    isPlain c ∨ c = ' ' ∨ c = ',' := by
  cases operands with
  | nil => exact .inl (hm.plain c hc)
  | cons o rest =>
    rw [plainStatement, List.mem_append, List.mem_cons] at hc
    rcases hc with hc | hc | hc
    · exact .inl (hm.plain c hc)
    · exact .inr (.inl hc)
    · rcases mem_intercalate hc with hc | ⟨w, hw, hcw⟩
      · exact .inr (.inr (List.mem_singleton.mp hc))
      · exact .inl ((ho w hw).plain c hcw)

theorem not_mem_plainStatement {c : Char} (hc : isPlain c = false ∧ c ≠ ' ' ∧ c ≠ ',') :
    c ∉ plainStatement mnemonic operands := by
  intro hmem
  rcases mem_plainStatement hm ho hmem with h | h | h
  · exact Bool.false_ne_true (hc.1.symm.trans h)
  · exact hc.2.1 h
  · exact hc.2.2 h

theorem head?_plainStatement :
    ∀ c ∈ (plainStatement mnemonic operands).head?, isBlank c = false := by
  obtain ⟨first, rest, rfl⟩ := List.exists_cons_of_ne_nil hm.ne_nil
  have hfirst : isBlank first = false := hm.not_blank first (by simp)
  cases operands <;> simpa [plainStatement] using hfirst

theorem getLast?_plainStatement :
    ∀ c ∈ (plainStatement mnemonic operands).getLast?, isBlank c = false := by
  intro c hc
  cases operands with
  | nil => exact hm.not_blank c (List.mem_of_getLast? hc)
  | cons o rest =>
    have hne := intercalate_ne_nil ho (List.cons_ne_nil o rest)
    have hlast := List.getLast?_eq_some_getLast hne
    rw [plainStatement, List.getLast?_append, List.getLast?_cons_of_ne_nil hne, hlast,
      Option.some_or] at hc
    exact isBlank_of_mem_intercalate ho c (List.mem_of_getLast? (hlast.trans hc))

/-- A line with a plain statement and blanks or a comment behind it has this statement and no
label. -/
theorem readLine_plainStatement {comment : List Char}
    (hcomment : (stripComment comment).all isBlank) :
    readLine (plainStatement mnemonic operands ++ comment) =
      .ok ⟨none, plainStatement mnemonic operands⟩ := by
  have hstrip : stripComment (plainStatement mnemonic operands ++ comment) =
      plainStatement mnemonic operands ++ stripComment comment := by
    refine List.takeWhile_append_of_pos fun c hc => ?_
    have hsemicolon : c ≠ ';' := fun h => not_mem_plainStatement hm ho (by decide) (h ▸ hc)
    have hsharp : c ≠ '#' := fun h => not_mem_plainStatement hm ho (by decide) (h ▸ hc)
    simp [hsemicolon, hsharp]
  have hcolon : (plainStatement mnemonic operands).contains ':' = false := by
    simpa using not_mem_plainStatement hm ho (c := ':') (by decide)
  rw [readLine, hstrip, Text.trim_append_blank _ (List.all_eq_true.mp hcomment),
    Text.trim_eq_self (head?_plainStatement hm ho) (getLast?_plainStatement hm ho)]
  simp only [hcolon, Bool.false_eq_true, if_false]

/-- A plain statement emits what its mnemonic makes of its operands. -/
theorem readStatement_plainStatement :
    readStatement (plainStatement mnemonic operands) =
      readInstruction (capitals mnemonic) operands := by
  have hword : ∀ c ∈ mnemonic, (!isBlank c) = true := by
    intro c hc
    rw [hm.not_blank c hc]
    rfl
  have hempty : (plainStatement mnemonic operands).isEmpty = false := by
    have := hm.ne_nil
    cases operands <;> simp [plainStatement, this]
  have hsplit : splitWord (plainStatement mnemonic operands) =
      (mnemonic, [','].intercalate operands) := by
    have hblank : (!isBlank ' ') = false := by decide
    cases operands with
    | nil =>
      rw [splitWord, plainStatement, ← List.append_nil mnemonic,
        List.takeWhile_append_of_pos hword, List.dropWhile_append_of_pos hword]
      rfl
    | cons o rest =>
      rw [splitWord, plainStatement, List.takeWhile_append_of_pos hword,
        List.dropWhile_append_of_pos hword]
      simp [hblank]
  rw [readStatement, hempty, hsplit]
  simp only [Bool.false_eq_true, if_false]
  rw [trim_intercalate ho, splitOperands_intercalate ho]

end

/-! ## Operands -/

theorem registerNumber?_cons (c : Char) (cs : List Char) :
    registerNumber? (c :: cs) = if c = 'R' ∨ c = 'r' then Numeral.byte? cs else none := by
  unfold registerNumber?
  split <;> simp_all

theorem readOperand_of_number? {cs : List Char} {n : Nat} (hregister : registerNumber? cs = none)
    (hnumber : number? cs = some (n : Int)) (hn : n < 256) :
    readOperand cs = .ok (.byte (UInt8.ofNat n)) := by
  have hne : cs ≠ [] := by
    rintro rfl
    cases hnumber
  rw [readOperand, List.isEmpty_eq_false_iff.mpr hne, if_neg (by simp), hregister, hnumber]
  simp only [byteItem]
  rw [if_pos (by omega), Int.toNat_natCast]

theorem readOperand_decimal {cs : List Char} {n : Nat} (h : natural? 10 cs = some n)
    (hn : n < 256) : readOperand cs = .ok (.byte (UInt8.ofNat n)) := by
  have hdigit := Numeral.isSome_digitValue?_of_natural? h
  refine readOperand_of_number? ?_ ?_ hn
  · unfold registerNumber?
    split
    · exact absurd (hdigit 'R' (by simp)) (by decide)
    · exact absurd (hdigit 'r' (by simp)) (by decide)
    · rfl
  · have hsmall : natural? 10 (smallAscii cs) = some n :=
      (Numeral.natural?_congr (Numeral.digitValue?_toLower 10) cs).trans h
    have hdigit := Numeral.isSome_digitValue?_of_natural? hsmall
    unfold number?
    split
    · rename_i heq
      exact absurd (hdigit 'x' (by simp [heq])) (by decide)
    · rename_i heq
      exact absurd (hdigit 'b' (by simp [heq])) (by decide)
    · exact Numeral.int64?_of_natural? hsmall (by omega)

theorem readOperand_hex {cs : List Char} {n : Nat} (h : natural? 16 cs = some n) (hn : n < 256) :
    readOperand ('0' :: 'x' :: cs) = .ok (.byte (UInt8.ofNat n)) := by
  refine readOperand_of_number? rfl ?_ hn
  have hsmall : natural? 16 (smallAscii cs) = some n :=
    (Numeral.natural?_congr (Numeral.digitValue?_toLower 16) cs).trans h
  exact Numeral.int64?_of_natural? hsmall (by omega)

theorem readOperand_register {cs : List Char} {n : Nat} (h : natural? 10 cs = some n) (hn : n < 8) :
    readOperand ('R' :: cs) = .ok (.byte (UInt8.ofNat n)) := by
  have hregister : registerNumber? ('R' :: cs) = some (UInt8.ofNat n) :=
    Numeral.byte?_of_natural? h (by omega)
  have hsmall : UInt8.ofNat n < 8 := by
    rw [UInt8.lt_iff_toNat_lt, UInt8.toNat_ofNat_of_lt' (Nat.lt_trans hn (by decide))]
    exact hn
  rw [readOperand, hregister]
  simp [hsmall]

/-! ## Instructions -/

theorem capitals_mnemonic (op : Opcode) : capitals op.mnemonic.toList = op.mnemonic.toList := by
  cases op <;> decide

theorem mnemonic_ne_db (op : Opcode) : op.mnemonic.toList ≠ ['D', 'B'] := by
  cases op <;> decide

theorem isWord_mnemonic (op : Opcode) : IsWord op.mnemonic.toList := by
  cases op <;> decide

theorem readInstruction_mnemonic (op : Opcode) (operands : List (List Char)) :
    readInstruction (capitals op.mnemonic.toList) operands =
      if operands.length = (operandCount op.byte).toNat then
        (operands.mapM readOperand).map (.byte op.byte :: ·)
      else
        .error (.operandCount op.mnemonic (operandCount op.byte).toNat operands.length) := by
  rw [capitals_mnemonic, readInstruction, if_neg (mnemonic_ne_db op), Opcode.ofMnemonic?_mnemonic]
  simp only [String.ofList_toList]
  split
  · cases operands.mapM readOperand <;> rfl
  · rfl

theorem readInstruction_ok {op : Opcode} {operands : List (List Char)} {items : List Item}
    (hlength : operands.length = (operandCount op.byte).toNat)
    (hitems : operands.mapM readOperand = .ok items) :
    readInstruction (capitals op.mnemonic.toList) operands = .ok (.byte op.byte :: items) := by
  rw [readInstruction_mnemonic, if_pos hlength, hitems]
  rfl

theorem readInstruction_db {operand : List Char} {item : Item}
    (h : readOperand operand = .ok item) :
    readInstruction (capitals "DB".toList) [operand] = .ok [item] := by
  rw [show capitals "DB".toList = ['D', 'B'] by decide, readInstruction, if_pos rfl,
    List.mapM_cons, h]
  rfl

end Ls8.Assembly
