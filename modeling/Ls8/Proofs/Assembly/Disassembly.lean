import Ls8.Listing
import Ls8.Proofs.Assembly.Statement
import Ls8.Proofs.Assembly.TwoPass
import Ls8.Proofs.Decoding

/-!
# Assembling a listing

The texts of a listing, one a line, assemble to the bytes that were listed. Every text is a plain
statement with a comment (`plainLine`). The statement emits the bytes of its entry (`scanLine_text`)
unless a register in it does not exist, and then it has a fault or refers to a label that no text
defines (`scanLine_badRegister`). The entries, with zeros for the bytes that the last one lacks, are
the program (`flatMap_image`).
-/

namespace Ls8

open Assembly (IsWord labels plainStatement readInstruction readOperand scan scanLine stripComment
  write)
open Numeral (decimal hex natural? natural?_hex)

namespace Listing

/-! ## Operands in a listing -/

def decimalOperand (value : UInt8) : List Char :=
  (decimal value.toNat).toList

def hexOperand (byte : UInt8) : List Char :=
  '0' :: 'x' :: (hex byte.toNat).toList

def registerOperand (register : UInt8) : List Char :=
  'R' :: decimalOperand register

theorem natural?_decimalOperand (value : UInt8) :
    natural? 10 (decimalOperand value) = some value.toNat :=
  Numeral.natural?_decimal value.toNat

theorem isWord_decimalOperand (value : UInt8) : IsWord (decimalOperand value) :=
  Assembly.isWord_decimal value.toNat

theorem isWord_hexOperand (byte : UInt8) : IsWord (hexOperand byte) :=
  .cons (by decide) (.cons (by decide) (Assembly.isWord_hex byte.toNat))

theorem isWord_registerOperand (register : UInt8) : IsWord (registerOperand register) :=
  .cons (by decide) (isWord_decimalOperand register)

theorem readOperand_decimalOperand (value : UInt8) :
    readOperand (decimalOperand value) = .ok (.byte value) := by
  rw [Assembly.readOperand_decimal (natural?_decimalOperand value) value.toNat_lt,
    UInt8.ofNat_toNat]

theorem readOperand_hexOperand (byte : UInt8) :
    readOperand (hexOperand byte) = .ok (.byte byte) := by
  rw [hexOperand, Assembly.readOperand_hex (natural?_hex byte.toNat) byte.toNat_lt,
    UInt8.ofNat_toNat]

theorem readOperand_registerOperand {register : UInt8} (h : register < 8) :
    readOperand (registerOperand register) = .ok (.byte register) := by
  rw [registerOperand, Assembly.readOperand_register (natural?_decimalOperand register)
    (UInt8.lt_iff_toNat_lt.mp h), UInt8.ofNat_toNat]

/-- The operands of an instruction, as its text shows them. -/
def operandTexts : Instruction → List (List Char)
  | .hlt | .ret => []
  | .ldi reg value => [registerOperand reg, decimalOperand value]
  | .prn reg | .pop reg | .push reg | .call reg => [registerOperand reg]
  | .mul a b | .add a b => [registerOperand a, registerOperand b]

theorem isWord_operandTexts (i : Instruction) : ∀ o ∈ operandTexts i, IsWord o := by
  cases i <;> simp [operandTexts, isWord_registerOperand, isWord_decimalOperand]

theorem length_operandTexts (i : Instruction) :
    (operandTexts i).length = (operandCount i.opcode.byte).toNat := by
  cases i <;>
    simp only [operandTexts, Instruction.opcode, List.length_cons, List.length_nil] <;> decide

theorem toList_instructionText (i : Instruction) :
    i.text.toList = plainStatement i.opcode.mnemonic.toList (operandTexts i) := by
  cases i <;>
    simp [Instruction.text, Instruction.registerName, Instruction.opcode, Opcode.mnemonic,
      operandTexts, registerOperand, decimalOperand, plainStatement]

theorem mapM_operandTexts {i : Instruction} (h : ∀ r ∈ i.registers, r < 8) :
    (operandTexts i).mapM readOperand = .ok (i.operands.map .byte) := by
  cases i <;>
    simp_all [operandTexts, Instruction.operands, Instruction.registers, bind, Except.bind, pure,
      Except.pure, readOperand_registerOperand, readOperand_decimalOperand]

theorem isWord_decimalOperands (values : List UInt8) :
    ∀ o ∈ values.map decimalOperand, IsWord o := by
  intro o ho
  obtain ⟨value, _, rfl⟩ := List.mem_map.mp ho
  exact isWord_decimalOperand value

theorem mapM_decimalOperands (values : List UInt8) :
    (values.map decimalOperand).mapM readOperand = .ok (values.map .byte) := by
  induction values with
  | nil => rfl
  | cons value values ih =>
    rw [List.map_cons, List.mapM_cons, readOperand_decimalOperand, ih]
    rfl

/-! ## The parts of a text -/

/-- A plain statement with a comment behind it. -/
structure PlainLine where
  mnemonic : List Char
  operands : List (List Char)
  comment : List Char
  isWord_mnemonic : IsWord mnemonic
  isWord_operand : ∀ o ∈ operands, IsWord o
  isBlank_strip : (stripComment comment).all Text.isBlank
  not_mem_comment : '\n' ∉ comment ∧ '\r' ∉ comment

namespace PlainLine

def statement (l : PlainLine) : List Char :=
  plainStatement l.mnemonic l.operands

def text (l : PlainLine) : List Char :=
  l.statement ++ l.comment

theorem text_ne_nil (l : PlainLine) : l.text ≠ [] := by
  intro h
  have hstatement : l.statement = [] := (List.append_eq_nil_iff.mp h).1
  have hmnemonic := l.isWord_mnemonic.ne_nil
  unfold statement at hstatement
  cases ho : l.operands <;> simp_all [plainStatement]

theorem not_mem_statement (l : PlainLine) {c : Char}
    (hc : Assembly.isPlain c = false ∧ c ≠ ' ' ∧ c ≠ ',') : c ∉ l.statement :=
  Assembly.not_mem_plainStatement l.isWord_mnemonic l.isWord_operand hc

theorem not_mem_text (l : PlainLine) : '\n' ∉ l.text ∧ '\r' ∉ l.text := by
  constructor
  · rw [text, List.mem_append, not_or]
    exact ⟨l.not_mem_statement (by decide), l.not_mem_comment.1⟩
  · rw [text, List.mem_append, not_or]
    exact ⟨l.not_mem_statement (by decide), l.not_mem_comment.2⟩

theorem scanLine_text (l : PlainLine) (line : Nat) (defined : List String) :
    scanLine line defined l.text =
      (readInstruction (Text.capitals l.mnemonic) l.operands).map (·.map (.item line)) := by
  rw [scanLine, text, statement,
    Assembly.readLine_plainStatement l.isWord_mnemonic l.isWord_operand l.isBlank_strip]
  simp only [Assembly.readStatement_plainStatement l.isWord_mnemonic l.isWord_operand]

end PlainLine

/-- The parts of an entry's text, given what the three bytes decode to. -/
def plainLine (a b : UInt8) : Except DecodeError Instruction → PlainLine
  | .ok i =>
    { mnemonic := i.opcode.mnemonic.toList
      operands := operandTexts i
      comment := []
      isWord_mnemonic := Assembly.isWord_mnemonic i.opcode
      isWord_operand := isWord_operandTexts i
      isBlank_strip := by decide
      not_mem_comment := by decide }
  | .error (.unimplemented op) =>
    { mnemonic := op.mnemonic.toList
      operands := ([a, b].take (operandCount op.byte).toNat).map decimalOperand
      comment := " ; unimplemented".toList
      isWord_mnemonic := Assembly.isWord_mnemonic op
      isWord_operand := isWord_decimalOperands _
      isBlank_strip := by decide
      not_mem_comment := by decide }
  | .error (.invalidRegister op _) =>
    { mnemonic := op.mnemonic.toList
      operands := ["???".toList]
      comment := " ; bad register".toList
      isWord_mnemonic := Assembly.isWord_mnemonic op
      isWord_operand := List.forall_mem_singleton.mpr (by decide)
      isBlank_strip := by decide
      not_mem_comment := by decide }
  | .error (.unrecognized byte) =>
    { mnemonic := "DB".toList
      operands := [hexOperand byte]
      comment := []
      isWord_mnemonic := by decide
      isWord_operand := List.forall_mem_singleton.mpr (isWord_hexOperand byte)
      isBlank_strip := by decide
      not_mem_comment := by decide }

theorem toNat_operandCount (op : Opcode) : (operandCount op.byte).toNat ≤ 2 := by
  cases op <;> decide

theorem toList_plainOperands (op : Opcode) (a b : UInt8) :
    op.mnemonic.toList ++ (plainOperands op a b).toList =
      plainStatement op.mnemonic.toList
        (([a, b].take (operandCount op.byte).toNat).map decimalOperand) := by
  have hcount := toNat_operandCount op
  unfold plainOperands
  generalize (operandCount op.byte).toNat = count at *
  match count, hcount with
  | 0, _ => simp [plainStatement]
  | 1, _ => simp [plainStatement, decimalOperand]
  | 2, _ => simp [plainStatement, decimalOperand]

theorem toList_text (ir a b : UInt8) :
    (text ir a b).toList = (plainLine a b (Instruction.decode ir a b)).text := by
  unfold text PlainLine.text PlainLine.statement
  rcases Instruction.decode ir a b with (byte | op | ⟨op, r⟩) | i
  · simp [plainLine, plainStatement, hexOperand]
  · simp only [plainLine, String.toList_append, toList_plainOperands]
  · simp [plainLine, plainStatement]
  · simp only [plainLine, toList_instructionText, List.append_nil]

/-! ## What an entry emits -/

/-- The text says that a register does not exist. -/
def IsBadRegister (text : String) : Prop :=
  " ??? ; bad register".toList <:+ text.toList

instance (text : String) : Decidable (IsBadRegister text) :=
  inferInstanceAs (Decidable (_ <:+ _))

/-- The bytes that an entry covers, the ones behind the end included. -/
def covered (ir a b : UInt8) : List UInt8 :=
  [ir, a, b].take (coverage ir).toNat

theorem coverage_byte (op : Opcode) : coverage op.byte = instructionLength op.byte := by
  rw [coverage, Opcode.ofByte?_byte]

theorem covered_byte (op : Opcode) (a b : UInt8) :
    covered op.byte a b = op.byte :: [a, b].take (operandCount op.byte).toNat := by
  have hlength : (instructionLength op.byte).toNat = (operandCount op.byte).toNat + 1 := by
    cases op <;> decide
  rw [covered, coverage_byte, hlength, List.take_succ_cons]

theorem covered_of_decode {ir a b : UInt8} {i : Instruction}
    (h : Instruction.decode ir a b = .ok i) : covered ir a b = i.encode := by
  have hprefix := (Instruction.decode_eq_ok_iff.mp h).1
  obtain ⟨hir, _⟩ := List.cons_prefix_cons.mp hprefix
  have htake := List.prefix_iff_eq_take.mp hprefix
  rw [i.length_encode, ← coverage_byte, hir] at htake
  exact htake.symm

theorem isBadRegister_text_iff (ir a b : UInt8) :
    IsBadRegister (text ir a b) ↔
      ∃ op r, Instruction.decode ir a b = .error (.invalidRegister op r) := by
  have hstatement {l : PlainLine} (h : l.comment = []) :
      ¬" ??? ; bad register".toList <:+ l.text := by
    intro hsuffix
    rw [PlainLine.text, h, List.append_nil] at hsuffix
    exact l.not_mem_statement (c := ';') (by decide) (hsuffix.mem (by decide))
  rw [IsBadRegister, toList_text]
  rcases Instruction.decode ir a b with (byte | op | ⟨op, r⟩) | i
  · simpa using hstatement (by rfl)
  · have hlast : ¬" ??? ; bad register".toList <:+
        (plainLine a b (.error (.unimplemented op))).text := by
      rintro ⟨front, heq⟩
      have := congrArg List.getLast? heq
      simp [PlainLine.text, plainLine] at this
    simpa using hlast
  · have hsuffix : " ??? ; bad register".toList <:+
        (plainLine a b (.error (.invalidRegister op r))).text := by
      refine ⟨op.mnemonic.toList, ?_⟩
      simp [PlainLine.text, PlainLine.statement, plainLine, plainStatement]
    simpa using hsuffix
  · simpa using hstatement (by rfl)

/-- The text of an entry emits the bytes that the entry covers, unless it blames a register. -/
theorem scanLine_text {ir a b : UInt8} (h : ¬IsBadRegister (text ir a b)) (line : Nat)
    (defined : List String) :
    scanLine line defined (text ir a b).toList =
      .ok (((covered ir a b).map .byte).map (.item line)) := by
  rw [isBadRegister_text_iff] at h
  rw [toList_text, PlainLine.scanLine_text]
  rcases hdecode : Instruction.decode ir a b with (byte | op | ⟨op, r⟩) | i
  · obtain ⟨hnone, rfl⟩ := Instruction.decode_eq_unrecognized hdecode
    have hcovered : covered byte a b = [byte] := by
      rw [covered, coverage, hnone]
      rfl
    rw [hcovered, plainLine, Assembly.readInstruction_db (readOperand_hexOperand byte)]
    rfl
  · obtain rfl := Instruction.decode_eq_unimplemented hdecode
    have hlength : (([a, b].take (operandCount op.byte).toNat).map decimalOperand).length =
        (operandCount op.byte).toNat := by
      rw [List.length_map, List.length_take]
      exact Nat.min_eq_left (toNat_operandCount op)
    rw [covered_byte, plainLine, Assembly.readInstruction_ok hlength (mapM_decimalOperands _)]
    rfl
  · exact absurd ⟨op, r, hdecode⟩ h
  · obtain ⟨_, hregisters⟩ := Instruction.decode_eq_ok_iff.mp hdecode
    rw [covered_of_decode hdecode, plainLine,
      Assembly.readInstruction_ok (length_operandTexts i) (mapM_operandTexts hregisters)]
    rfl

theorem scanLine_badRegister {ir a b : UInt8} (h : IsBadRegister (text ir a b)) (line : Nat)
    (defined : List String) :
    (∃ fault, scanLine line defined (text ir a b).toList = .error fault) ∨
      ∃ byte, scanLine line defined (text ir a b).toList =
        .ok [.item line (.byte byte), .item line (.address "???")] := by
  obtain ⟨op, r, hdecode⟩ := (isBadRegister_text_iff ir a b).mp h
  have hoperand : ["???".toList].mapM readOperand = .ok [.address "???"] := by rfl
  rw [toList_text, PlainLine.scanLine_text, hdecode, plainLine, Assembly.readInstruction_mnemonic]
  split
  · right
    rw [hoperand]
    exact ⟨op.byte, rfl⟩
  · exact .inl ⟨_, rfl⟩

/-! ## The entries of a program -/

namespace Entry

/-- The number of bytes that an entry at the end of a program lacks. -/
def missing (e : Entry) : Nat :=
  (e.raw.head?.elim 0 fun ir => (coverage ir).toNat) - e.raw.length

/-- The bytes of an entry, with zeros for those that it lacks. -/
def image (e : Entry) : List UInt8 :=
  e.raw ++ List.replicate e.missing 0

end Entry

/-- The entry is one that a listing has, in its text and its bytes. -/
def IsListed (e : Entry) : Prop :=
  ∃ ir a b, e.text = text ir a b ∧ e.image = covered ir a b

theorem coverage_le (ir : UInt8) : (coverage ir).toNat ≤ 3 := by
  unfold coverage
  split
  · rename_i op hop
    obtain rfl := Opcode.byte_of_ofByte? hop
    cases op <;> decide
  · decide

theorem take_getD (rest : List UInt8) {n : Nat} (hn : n ≤ 2) :
    [rest.getD 0 0, rest.getD 1 0].take n =
      rest.take n ++ List.replicate (n - (rest.take n).length) 0 := by
  match n, hn with
  | 0, _ => rfl
  | 1, _ => cases rest <;> rfl
  | 2, _ => rcases rest with _ | ⟨x, _ | ⟨y, rest⟩⟩ <;> rfl

theorem image_entry (address : Nat) (ir : UInt8) (rest : List UInt8) (text : String) :
    (Entry.mk address (ir :: rest.take ((coverage ir).toNat - 1)) text).image =
      covered ir (rest.getD 0 0) (rest.getD 1 0) := by
  have hle := coverage_le ir
  obtain ⟨n, hn⟩ := Nat.exists_eq_add_one.mpr (coverage_pos ir)
  rw [covered, Entry.image, Entry.missing]
  simp only [List.head?_cons, Option.elim_some, List.length_cons, hn, Nat.add_sub_cancel,
    Nat.add_sub_add_right, List.take_succ_cons, List.cons_append]
  rw [take_getD rest (by omega)]

theorem entriesFrom_ne_nil (address : Nat) {bytes : List UInt8} (h : bytes ≠ []) :
    entriesFrom address bytes ≠ [] := by
  cases bytes with
  | nil => exact absurd rfl h
  | cons ir rest =>
    rw [entriesFrom]
    exact List.cons_ne_nil _ _

theorem isListed_of_mem_entriesFrom {address : Nat} {bytes : List UInt8} {e : Entry}
    (h : e ∈ entriesFrom address bytes) : IsListed e := by
  fun_induction entriesFrom address bytes with
  | case1 => cases h
  | case2 address ir rest size ih =>
    rcases List.mem_cons.mp h with rfl | h
    · exact ⟨ir, _, _, rfl, image_entry address ir rest _⟩
    · exact ih h

/-- The entries, with zeros for what the last one lacks, are the program with these zeros. -/
theorem flatMap_image (address : Nat) (bytes : List UInt8) :
    (entriesFrom address bytes).flatMap Entry.image =
      bytes ++ List.replicate ((entriesFrom address bytes).getLast?.elim 0 Entry.missing) 0 := by
  fun_induction entriesFrom address bytes with
  | case1 => rfl
  | case2 address ir rest size ih =>
    have happend : ir :: rest = (ir :: rest.take size) ++ rest.drop size := by
      rw [List.cons_append, List.take_append_drop]
    rw [List.flatMap_cons, ih, Entry.image, happend, List.append_assoc, List.append_assoc]
    by_cases hrest : rest.drop size = []
    · simp [hrest, entriesFrom]
    · have hmissing : Entry.missing
          ⟨address, ir :: rest.take size, text ir (rest.getD 0 0) (rest.getD 1 0)⟩ = 0 := by
        have hlength : size < rest.length := by
          simpa using hrest
        have hsize : size = (coverage ir).toNat - 1 := rfl
        simp only [Entry.missing, List.head?_cons, Option.elim_some, List.length_cons,
          List.length_take]
        omega
      rw [hmissing, List.replicate_zero, List.nil_append,
        List.getLast?_cons_of_ne_nil (entriesFrom_ne_nil _ hrest)]

/-! ## Assembling the entries -/

theorem scan_entries {entries : List Entry} (h : ∀ e ∈ entries, IsListed e)
    (hgood : ∀ e ∈ entries, ¬IsBadRegister e.text) (line : Nat) :
    ∃ pieces, scan line [] (entries.map (·.text.toList)) = .ok pieces ∧ labels pieces = [] ∧
      ∀ table, write table pieces = .ok (entries.flatMap Entry.image) := by
  induction entries generalizing line with
  | nil => exact ⟨[], rfl, rfl, fun table => rfl⟩
  | cons e rest ih =>
    obtain ⟨⟨ir, a, b, htext, himage⟩, hrest⟩ := List.forall_mem_cons.mp h
    obtain ⟨hnot, hgoodRest⟩ := List.forall_mem_cons.mp hgood
    obtain ⟨pieces, hscan, hlabels, hwrite⟩ := ih hrest hgoodRest (line + 1)
    have hfirst := scanLine_text (htext ▸ hnot) line []
    refine ⟨((covered ir a b).map .byte).map (.item line) ++ pieces, ?_, ?_, ?_⟩
    · rw [List.map_cons, scan, htext, hfirst]
      simp only [Assembly.labels_items, List.nil_append]
      rw [hscan]
      rfl
    · rw [Assembly.labels_append, Assembly.labels_items, hlabels]
      rfl
    · intro table
      rw [Assembly.write_append, Assembly.write_bytes, hwrite, List.flatMap_cons, himage]
      rfl

theorem scanLine_entry {e : Entry} (h : IsListed e) {line : Nat} {pieces : List Assembly.Piece}
    (hscan : scanLine line [] e.text.toList = .ok pieces) :
    labels pieces = [] ∧ (IsBadRegister e.text → .item line (.address "???") ∈ pieces) := by
  obtain ⟨ir, a, b, htext, _⟩ := h
  rw [htext] at hscan ⊢
  by_cases hbad : IsBadRegister (text ir a b)
  · rcases scanLine_badRegister hbad line [] with ⟨fault, hfault⟩ | ⟨byte, hok⟩
    · rw [hfault] at hscan
      cases hscan
    · rw [hok] at hscan
      cases hscan
      simp [labels]
  · rw [scanLine_text hbad] at hscan
    cases hscan
    exact ⟨Assembly.labels_items line _, fun h => absurd h hbad⟩

theorem scan_entries_badRegister {entries : List Entry} (h : ∀ e ∈ entries, IsListed e)
    {line : Nat} {pieces : List Assembly.Piece}
    (hscan : scan line [] (entries.map (·.text.toList)) = .ok pieces) :
    labels pieces = [] ∧
      ((∃ e ∈ entries, IsBadRegister e.text) → ∃ line, .item line (.address "???") ∈ pieces) := by
  induction entries generalizing line pieces with
  | nil =>
    cases hscan
    simp [labels]
  | cons e rest ih =>
    obtain ⟨hlisted, hrest⟩ := List.forall_mem_cons.mp h
    rw [List.map_cons, scan] at hscan
    split at hscan
    · cases hscan
    · rename_i first hfirst
      obtain ⟨hfirstLabels, hfirstBad⟩ := scanLine_entry hlisted hfirst
      rw [hfirstLabels] at hscan
      obtain ⟨more, hmore, rfl⟩ := except_map_eq_ok_iff.mp hscan
      obtain ⟨hmoreLabels, hmoreBad⟩ := ih hrest hmore
      refine ⟨by rw [Assembly.labels_append, hfirstLabels, hmoreLabels]; rfl, ?_⟩
      rintro ⟨e', he', hbad⟩
      rcases List.mem_cons.mp he' with rfl | he'
      · exact ⟨line, List.mem_append_left _ (hfirstBad hbad)⟩
      · obtain ⟨line', hline'⟩ := hmoreBad ⟨e', he', hbad⟩
        exact ⟨line', List.mem_append_right _ hline'⟩

/-- The texts of a program's listing, one a line. -/
def source (bytes : List UInt8) : String :=
  "\n".intercalate ((ofBytes bytes).map (·.text))

theorem lines_source (bytes : List UInt8) :
    Text.lines (source bytes).toList = (ofBytes bytes).map (·.text.toList) := by
  have htext : ∀ s ∈ (ofBytes bytes).map (·.text.toList), ∃ l : PlainLine, s = l.text := by
    intro s hs
    obtain ⟨e, he, rfl⟩ := List.mem_map.mp hs
    obtain ⟨ir, a, b, htext, _⟩ := isListed_of_mem_entriesFrom he
    exact ⟨_, htext ▸ toList_text ir a b⟩
  rw [source, String.toList_intercalate, List.map_map]
  refine Text.lines_intercalate ?_ ?_ ?_
  · intro s hs
    obtain ⟨l, rfl⟩ := htext s hs
    exact l.not_mem_text.1
  · intro s hs hreturn
    obtain ⟨l, rfl⟩ := htext s hs
    exact l.not_mem_text.2 (List.mem_of_getLast? hreturn)
  · intro hlast
    obtain ⟨l, hl⟩ := htext [] (List.mem_of_getLast? hlast)
    exact l.text_ne_nil hl.symm

/-- **Assembling a listing gives the program back**, followed by zeros for the operands that its
last instruction lacks. A listing that blames a register assembles to nothing at all. -/
theorem assemble_source (bytes : List UInt8) :
    ((∀ e ∈ ofBytes bytes, ¬IsBadRegister e.text) →
      assemble (source bytes) =
        .ok (bytes ++ List.replicate ((ofBytes bytes).getLast?.elim 0 Entry.missing) 0)) ∧
    ((∃ e ∈ ofBytes bytes, IsBadRegister e.text) →
      ∃ error, assemble (source bytes) = .error error) := by
  have hlisted : ∀ e ∈ ofBytes bytes, IsListed e := fun e => isListed_of_mem_entriesFrom
  rw [Assembly.assemble_eq_twoPass, Assembly.twoPass, lines_source]
  constructor
  · intro hgood
    obtain ⟨pieces, hscan, _, hwrite⟩ := scan_entries hlisted hgood 1
    rw [hscan]
    exact (hwrite _).trans (congrArg Except.ok (flatMap_image 0 bytes))
  · intro hbad
    split
    · rename_i e _
      exact ⟨e, rfl⟩
    · rename_i pieces hscan
      obtain ⟨hlabels, hreference⟩ := scan_entries_badRegister hlisted hscan
      obtain ⟨line, hmem⟩ := hreference hbad
      rw [Assembly.symbols_of_labels_eq_nil hlabels]
      cases hwrite : write [] pieces with
      | error e => exact ⟨e, rfl⟩
      | ok written => exact absurd hwrite (Assembly.write_ne_ok hmem written)

/-- A reserved opcode that is cut short behind a byte without a name, and a register that does not
exist. -/
theorem assemble_source_cut_short :
    assemble (source [0x47, 0, 0xFF, 0xA7, 9]) = .ok [0x47, 0, 0xFF, 0xA7, 9, 0] ∧
      ∃ error, assemble (source [0x47, 8]) = .error error := by
  have hgood : ∀ e ∈ ofBytes [0x47, 0, 0xFF, 0xA7, 9], ¬IsBadRegister e.text := by decide +kernel
  have hbad : ∃ e ∈ ofBytes [0x47, 8], IsBadRegister e.text := by decide +kernel
  have hmissing : ((ofBytes [0x47, 0, 0xFF, 0xA7, 9]).getLast?.elim 0 Entry.missing) = 1 := by
    decide +kernel
  refine ⟨?_, (assemble_source [0x47, 8]).2 hbad⟩
  rw [(assemble_source _).1 hgood, hmissing]
  rfl

end Listing

end Ls8
