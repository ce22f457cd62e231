import Mathlib.Data.List.Forall2
import Ls8.Proofs.Assembly.TwoPass

/-!
# What each statement emits

The bytes of an assembled program are cut into those of its statements: a data statement has a byte
for each operand, any other statement one more for its mnemonic (`emissions`). Nothing is left over
(`flatMap_emissions`), and each statement has the bytes that it asks for: its opcode, and for each
operand what the operand stands for with the finished table of labels (`emitted_of_mem`). The labels
stand for the sizes of what lies before them (`labelTable`).
-/

namespace Ls8.Assembly

open Text (capitals splitWord trim)

/-! ## The statements of a source -/

structure Statement where
  /-- The mnemonic, in capitals. -/
  mnemonic : List Char
  operands : List (List Char)
deriving DecidableEq

namespace Statement

def ofText (cs : List Char) : Statement :=
  ⟨capitals (splitWord cs).1, splitOperands (trim (splitWord cs).2)⟩

def isData (s : Statement) : Bool :=
  s.mnemonic == ['D', 'B']

def size (s : Statement) : Nat :=
  if s.isData then s.operands.length else s.operands.length + 1

end Statement

def label? (text : List Char) : Option String :=
  match readLine text with
  | .ok parts => parts.label
  | .error _ => none

def statement? (text : List Char) : Option Statement :=
  match readLine text with
  | .ok parts => if parts.statement.isEmpty then none else some (.ofText parts.statement)
  | .error _ => none

def lineSize (text : List Char) : Nat :=
  (statement? text).elim 0 Statement.size

/-- The labels of lines that begin at an address, with the addresses that they stand for. -/
def labelsFrom (address : Nat) : List (List Char) → List (String × Nat)
  | [] => []
  | text :: rest =>
    (label? text).toList.map (·, address) ++ labelsFrom (address + lineSize text) rest

/-- The labels of a source, with the addresses that they stand for. -/
def labelTable (source : String) : List (String × Nat) :=
  labelsFrom 0 (Text.lines source.toList)

/-- A statement with its line and its bytes. -/
structure Emission extends Statement where
  line : Nat
  bytes : List UInt8
deriving DecidableEq

def Emission.operandBytes (e : Emission) : List UInt8 :=
  if e.isData then e.bytes else e.bytes.drop 1

/-- The statements of lines, the first of which has the number `line`, each with its share of the
bytes. -/
def emissionsFrom (line : Nat) : List (List Char) → List UInt8 → List Emission
  | [], _ => []
  | text :: rest, bytes =>
    (statement? text).toList.map (fun s => ⟨s, line, bytes.take (lineSize text)⟩) ++
      emissionsFrom (line + 1) rest (bytes.drop (lineSize text))

/-- The statements of a source that assembles to some bytes, each with its share of the bytes. -/
def emissions (source : String) (bytes : List UInt8) : List Emission :=
  emissionsFrom 1 (Text.lines source.toList) bytes

/-! ## Steps that all succeed -/

theorem mapM_eq_ok_iff {ε α β : Type} {f : α → Except ε β} {xs : List α} {ys : List β} :
    xs.mapM f = .ok ys ↔ List.Forall₂ (fun x y => f x = .ok y) xs ys := by
  induction xs generalizing ys with
  | nil => cases ys <;> simp [pure, Except.pure]
  | cons x xs ih =>
    rw [List.mapM_cons, except_bind_eq_ok_iff]
    constructor
    · rintro ⟨y, hy, hrest⟩
      obtain ⟨ys, hys, hcons⟩ := except_bind_eq_ok_iff.mp hrest
      cases hcons
      exact .cons hy (ih.mp hys)
    · rintro (_ | ⟨hy, hys⟩)
      exact ⟨_, hy, except_bind_eq_ok_iff.mpr ⟨_, ih.mpr hys, rfl⟩⟩

theorem forall₂_comp {α β γ : Type} {r : α → β → Prop} {s : β → γ → Prop} {xs : List α}
    {ys : List β} {zs : List γ} (h : List.Forall₂ r xs ys) (h' : List.Forall₂ s ys zs) :
    List.Forall₂ (fun x z => ∃ y, r x y ∧ s y z) xs zs := by
  induction h generalizing zs with
  | nil =>
    cases h'
    exact .nil
  | cons hxy _ ih =>
    cases h' with
    | cons hyz hrest => exact .cons ⟨_, hxy, hyz⟩ (ih hrest)

/-! ## One statement -/

/-- The byte is what an operand stands for, with the finished table of labels. -/
def Puts (table : List (String × Nat)) (operand : List Char) (byte : UInt8) : Prop :=
  ∃ item, readOperand operand = .ok item ∧ place table item = .ok byte

/-- The bytes of a statement are its opcode, if it has one, and what its operands stand for. -/
structure Emitted (table : List (String × Nat)) (e : Emission) : Prop where
  operands : List.Forall₂ (Puts table) e.operands e.operandBytes
  opcode : e.isData = false → ∃ op, Opcode.ofMnemonic? e.mnemonic = some op ∧
    e.operands.length = (operandCount op.byte).toNat ∧ e.bytes = op.byte :: e.operandBytes

theorem Emitted.getElem? {table : List (String × Nat)} {e : Emission} (h : Emitted table e) {i : Nat}
    {operand : List Char} (hi : e.operands[i]? = some operand) :
    ∃ byte, e.operandBytes[i]? = some byte ∧ Puts table operand byte := by
  obtain ⟨hlt, rfl⟩ := List.getElem?_eq_some_iff.mp hi
  have hlt' : i < e.operandBytes.length := h.operands.length_eq ▸ hlt
  exact ⟨e.operandBytes[i], List.getElem?_eq_getElem hlt', h.operands.get hlt hlt'⟩

theorem readInstruction_eq_ok {s : Statement} {items : List Item}
    (h : readInstruction s.mnemonic s.operands = .ok items) :
    s.isData = true ∧ List.Forall₂ (fun o item => readOperand o = .ok item) s.operands items ∨
      s.isData = false ∧ ∃ op rest, Opcode.ofMnemonic? s.mnemonic = some op ∧
        s.operands.length = (operandCount op.byte).toNat ∧ items = .byte op.byte :: rest ∧
        List.Forall₂ (fun o item => readOperand o = .ok item) s.operands rest := by
  unfold readInstruction at h
  split at h
  · rename_i hdata
    left
    split at h
    · cases h
    · exact ⟨beq_iff_eq.mpr hdata, mapM_eq_ok_iff.mp h⟩
  · rename_i hdata
    right
    refine ⟨beq_eq_false_iff_ne.mpr hdata, ?_⟩
    split at h
    · cases h
    · rename_i op hop
      simp only at h
      split at h
      · rename_i hlength
        obtain ⟨rest, hrest, hitems⟩ := except_bind_eq_ok_iff.mp h
        cases hitems
        exact ⟨op, rest, hop, hlength, rfl, mapM_eq_ok_iff.mp hrest⟩
      · cases h

theorem length_of_readInstruction {s : Statement} {items : List Item}
    (h : readInstruction s.mnemonic s.operands = .ok items) : items.length = s.size := by
  rcases readInstruction_eq_ok h with ⟨hdata, hitems⟩ | ⟨hdata, op, rest, _, _, rfl, hrest⟩
  · rw [Statement.size, if_pos hdata, hitems.length_eq]
  · rw [Statement.size, hdata, if_neg (by decide), hrest.length_eq, List.length_cons]

theorem emitted_of_items {table : List (String × Nat)} {e : Emission} {items : List Item}
    (h : readInstruction e.mnemonic e.operands = .ok items)
    (hbytes : List.Forall₂ (fun item byte => place table item = .ok byte) items e.bytes) :
    Emitted table e := by
  rcases readInstruction_eq_ok h with ⟨hdata, hitems⟩ | ⟨hdata, op, rest, hop, hlength, rfl, hrest⟩
  · refine ⟨?_, fun hnot => absurd (hnot.symm.trans hdata) (by decide)⟩
    rw [Emission.operandBytes, if_pos hdata]
    exact forall₂_comp hitems hbytes
  · rcases hbytes' : e.bytes with _ | ⟨first, rest'⟩
    · rw [hbytes'] at hbytes
      cases hbytes
    · rw [hbytes'] at hbytes
      obtain ⟨hfirst, hrest'⟩ := List.forall₂_cons.mp hbytes
      have hoperands : e.operandBytes = rest' := by
        rw [Emission.operandBytes, hdata, hbytes']
        rfl
      refine ⟨hoperands ▸ forall₂_comp hrest hrest', fun _ => ⟨op, hop, hlength, ?_⟩⟩
      rw [hoperands, hbytes', ← Except.ok.inj hfirst]

/-! ## One line -/

/-- The items of a line are those of its statement. -/
structure LineItems (text : List Char) (items : List Item) : Prop where
  length : items.length = lineSize text
  statement : ∀ s ∈ statement? text, readInstruction s.mnemonic s.operands = .ok items

theorem lineItems_of_read {text : List Char} {parts : Line} {items : List Item}
    (hread : readLine text = .ok parts) (hitems : readStatement parts.statement = .ok items) :
    LineItems text items := by
  by_cases hempty : parts.statement.isEmpty
  · have hnone : statement? text = none := by
      rw [statement?, hread]
      exact if_pos hempty
    rw [readStatement, if_pos hempty] at hitems
    cases hitems
    refine ⟨?_, ?_⟩
    · rw [lineSize, hnone]
      rfl
    · rw [hnone]
      simp
  · have hsome : statement? text = some (.ofText parts.statement) := by
      rw [statement?, hread]
      exact if_neg hempty
    rw [readStatement, if_neg hempty] at hitems
    refine ⟨?_, ?_⟩
    · rw [lineSize, hsome]
      exact length_of_readInstruction (s := .ofText parts.statement) hitems
    · rintro s hs
      rw [hsome] at hs
      cases hs
      exact hitems

theorem scan_cons_eq_ok {line : Nat} {defined : List String} {text : List Char}
    {rest : List (List Char)} {pieces : List Piece}
    (h : scan line defined (text :: rest) = .ok pieces) :
    ∃ items defined' more, LineItems text items ∧ scan (line + 1) defined' rest = .ok more ∧
      pieces = ((label? text).toList.map .label ++ items.map (.item line)) ++ more := by
  rw [scan] at h
  split at h
  · cases h
  · rename_i first hfirst
    obtain ⟨more, hmore, rfl⟩ := except_map_eq_ok_iff.mp h
    obtain ⟨parts, items, hread, hitems, rfl, _⟩ := scanLine_eq_ok hfirst
    have hlabel : label? text = parts.label := by rw [label?, hread]
    exact ⟨items, _, more, lineItems_of_read hread hitems, hmore, by rw [hlabel]⟩

/-! ## All lines -/

theorem write_labels (table : List (String × Nat)) (names : List String) (pieces : List Piece) :
    write table (names.map .label ++ pieces) = write table pieces := by
  induction names with
  | nil => rfl
  | cons name names ih => exact ih

theorem write_items {table : List (String × Nat)} {line : Nat} {items : List Item}
    {bytes : List UInt8} (h : write table (items.map (.item line)) = .ok bytes) :
    List.Forall₂ (fun item byte => place table item = .ok byte) items bytes := by
  induction items generalizing bytes with
  | nil =>
    cases h
    exact .nil
  | cons item items ih =>
    rw [List.map_cons, write] at h
    split at h
    · cases h
    · rename_i byte hbyte
      obtain ⟨rest, hrest, rfl⟩ := except_map_eq_ok_iff.mp h
      exact .cons hbyte (ih hrest)

theorem write_cons_eq_ok {table : List (String × Nat)} {names : List String} {line : Nat}
    {items : List Item} {more : List Piece} {bytes : List UInt8}
    (h : write table ((names.map .label ++ items.map (.item line)) ++ more) = .ok bytes) :
    List.Forall₂ (fun item byte => place table item = .ok byte) items (bytes.take items.length) ∧
      write table more = .ok (bytes.drop items.length) := by
  rw [write_append, write_labels] at h
  obtain ⟨first, hfirst, h⟩ := except_bind_eq_ok_iff.mp h
  obtain ⟨rest, hrest, rfl⟩ := except_map_eq_ok_iff.mp h
  have hitems := write_items hfirst
  rw [hitems.length_eq, List.take_left, List.drop_left]
  exact ⟨hitems, hrest⟩

section

variable {table : List (String × Nat)} {line : Nat} {defined : List String}
  {texts : List (List Char)} {pieces : List Piece} {bytes : List UInt8}

theorem emitted_of_scan (hscan : scan line defined texts = .ok pieces)
    (hwrite : write table pieces = .ok bytes) :
    ∀ e ∈ emissionsFrom line texts bytes, Emitted table e := by
  induction texts generalizing line defined pieces bytes with
  | nil => simp [emissionsFrom]
  | cons text rest ih =>
    obtain ⟨items, defined', more, hitems, hmore, rfl⟩ := scan_cons_eq_ok hscan
    obtain ⟨hfirst, hrest⟩ := write_cons_eq_ok hwrite
    rw [hitems.length] at hfirst hrest
    intro e he
    rcases List.mem_append.mp he with he | he
    · obtain ⟨s, hs, rfl⟩ := List.mem_map.mp he
      exact emitted_of_items (hitems.statement s (Option.mem_toList.mp hs)) hfirst
    · exact ih hmore hrest e he

theorem flatMap_emissionsFrom (hscan : scan line defined texts = .ok pieces)
    (hwrite : write table pieces = .ok bytes) :
    (emissionsFrom line texts bytes).flatMap (·.bytes) = bytes := by
  induction texts generalizing line defined pieces bytes with
  | nil =>
    cases hscan
    cases hwrite
    rfl
  | cons text rest ih =>
    obtain ⟨items, defined', more, hitems, hmore, rfl⟩ := scan_cons_eq_ok hscan
    obtain ⟨hfirst, hrest⟩ := write_cons_eq_ok hwrite
    rw [hitems.length] at hfirst hrest
    have hbytes : ((statement? text).toList.map fun s =>
        (⟨s, line, bytes.take (lineSize text)⟩ : Emission)).flatMap (·.bytes) =
          bytes.take (lineSize text) := by
      have hsize : lineSize text = (statement? text).elim 0 Statement.size := rfl
      cases hs : statement? text with
      | none => simp [hsize, hs]
      | some s => simp
    rw [emissionsFrom, List.flatMap_append, hbytes, ih hmore hrest, List.take_append_drop]

theorem symbols_append (address : Nat) (ps qs : List Piece) :
    symbols table address (ps ++ qs) = symbols (symbols table address ps) (address + size ps) qs := by
  induction ps generalizing table address with
  | nil => rfl
  | cons piece ps ih =>
    cases piece with
    | label name => exact ih address
    | item line item =>
      rw [List.cons_append, symbols, ih, symbols, size, Nat.add_right_comm, Nat.add_assoc]

theorem size_items (line : Nat) (items : List Item) :
    size (items.map (.item line)) = items.length := by
  induction items with
  | nil => rfl
  | cons item items ih => rw [List.map_cons, size, ih, List.length_cons]

theorem symbols_of_scan (hscan : scan line defined texts = .ok pieces) (address : Nat) :
    symbols table address pieces = (labelsFrom address texts).reverse ++ table := by
  induction texts generalizing table line defined pieces address with
  | nil =>
    cases hscan
    rfl
  | cons text rest ih =>
    obtain ⟨items, defined', more, hitems, hmore, rfl⟩ := scan_cons_eq_ok hscan
    rw [List.append_assoc, symbols_append, symbols_append,
      symbols_of_labels_eq_nil (labels_items line items), size_items, hitems.length, ih hmore,
      labelsFrom, List.reverse_append, List.append_assoc]
    cases label? text with
    | none => simp [symbols, size]
    | some name => simp [symbols, size]

end

section

variable {source : String} {bytes : List UInt8} (h : assemble source = .ok bytes)

include h

theorem exists_pieces : ∃ pieces, scan 1 [] (Text.lines source.toList) = .ok pieces ∧
    write (labelTable source).reverse pieces = .ok bytes := by
  rw [assemble_eq_twoPass, twoPass] at h
  split at h
  · cases h
  · rename_i pieces hscan
    rw [symbols_of_scan hscan, List.append_nil] at h
    exact ⟨pieces, hscan, h⟩

/-- A statement of an assembled source has the bytes that it asks for. -/
theorem emitted_of_mem {e : Emission} (he : e ∈ emissions source bytes) :
    Emitted (labelTable source).reverse e := by
  obtain ⟨pieces, hscan, hwrite⟩ := exists_pieces h
  exact emitted_of_scan hscan hwrite e he

/-- The bytes of an assembled source are those of its statements. -/
theorem flatMap_emissions : (emissions source bytes).flatMap (·.bytes) = bytes := by
  obtain ⟨pieces, hscan, hwrite⟩ := exists_pieces h
  exact flatMap_emissionsFrom hscan hwrite

end

end Ls8.Assembly
