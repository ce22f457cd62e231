import Ls8.Assembly.Program
import Ls8.Proofs.Decoding

/-!
# Assembling in two passes

`twoPass` is the assembler as textbooks have it: a first pass reads every line into `Piece`s and so
finds the address of every label, a second one writes the bytes with the finished table of labels.
`assemble_eq_twoPass`: emitting zeros and settling the open places afterwards comes to the same, the
errors and the lines that have them included.

The draft that the one pass keeps is what its pieces amount to (`addLines_eq_scan`), and settling
the references of some pieces fills in what the second pass writes (`foldlM_settle`).
-/

namespace Ls8.Assembly

/-! ## The textbook assembler -/

/-- What a source puts down, in order: labels, and items of one byte each with the line that they
stand on. -/
inductive Piece where
  | label (name : String)
  | item (line : Nat) (item : Item)
deriving DecidableEq

def size : List Piece → Nat
  | [] => 0
  | .label _ :: pieces => size pieces
  | .item .. :: pieces => size pieces + 1

def labels : List Piece → List String
  | [] => []
  | .label name :: pieces => name :: labels pieces
  | .item .. :: pieces => labels pieces

/-- Reads a line, where the labels in `defined` are taken. -/
def scanLine (line : Nat) (defined : List String) (text : List Char) : Except Fault (List Piece) :=
  match readLine text with
  | .error fault => .error fault
  | .ok ⟨none, statement⟩ => (readStatement statement).map (·.map (.item line))
  | .ok ⟨some label, statement⟩ =>
    if label ∈ defined then .error (.duplicateLabel label)
    else (readStatement statement).map fun items => .label label :: items.map (.item line)

/-- The first pass: reads lines, the first of which has the number `line`, up to one with a
fault. -/
def scan (line : Nat) (defined : List String) : List (List Char) → Except Error (List Piece)
  | [] => .ok []
  | text :: rest =>
    match scanLine line defined text with
    | .error fault => .error ⟨line, fault⟩
    | .ok pieces => (scan (line + 1) (labels pieces ++ defined) rest).map (pieces ++ ·)

/-- A table with the labels of pieces that begin at an address: each stands for the address that
the bytes before it lead up to. -/
def symbols (table : List (String × Nat)) (address : Nat) : List Piece → List (String × Nat)
  | [] => table
  | .label name :: pieces => symbols ((name, address) :: table) address pieces
  | .item .. :: pieces => symbols table (address + 1) pieces

/-- The byte of an item, with the finished table. -/
def place (table : List (String × Nat)) : Item → Except Fault UInt8
  | .byte value => .ok value
  | .address label =>
    match table.lookup label with
    | none => .error (.undefinedLabel label)
    | some address =>
      if address < 256 then .ok (UInt8.ofNat address) else .error (.valueOutOfRange address)

/-- The second pass: the bytes of pieces, with the finished table. -/
def write (table : List (String × Nat)) : List Piece → Except Error (List UInt8)
  | [] => .ok []
  | .label _ :: pieces => write table pieces
  | .item line item :: pieces =>
    match place table item with
    | .error fault => .error ⟨line, fault⟩
    | .ok byte => (write table pieces).map (byte :: ·)

/-- The bytes that an assembly text describes, in two passes. -/
def twoPass (source : String) : Except Error (List UInt8) :=
  match scan 1 [] (Text.lines source.toList) with
  | .error e => .error e
  | .ok pieces => write (symbols [] 0 pieces) pieces

/-! ## The draft of some pieces -/

namespace Draft

def addPiece (d : Draft) : Piece → Draft
  | .label name => { d with symbols := (name, d.output.size) :: d.symbols }
  | .item line item => d.emit line item

def addPieces (d : Draft) (pieces : List Piece) : Draft :=
  pieces.foldl addPiece d

theorem addPieces_append (d : Draft) (ps qs : List Piece) :
    d.addPieces (ps ++ qs) = (d.addPieces ps).addPieces qs :=
  List.foldl_append

theorem addPieces_items (d : Draft) (line : Nat) (items : List Item) :
    d.addPieces (items.map (.item line)) = d.emitAll line items := by
  rw [addPieces, List.foldl_map]
  rfl

/-- The labels in `defined` are those that the draft knows. -/
def Knows (d : Draft) (defined : List String) : Prop :=
  ∀ label, (d.symbols.lookup label).isSome ↔ label ∈ defined

theorem Knows.define {d : Draft} {defined : List String} (h : d.Knows defined) (name : String) :
    (d.addPiece (.label name)).Knows (name :: defined) := by
  intro label
  rw [addPiece, List.lookup_cons]
  by_cases hl : label = name
  · simp [hl]
  · rw [beq_false_of_ne hl, List.mem_cons, or_iff_right hl]
    exact h label

theorem Knows.addPieces {d : Draft} {defined : List String} (h : d.Knows defined)
    (pieces : List Piece) : (d.addPieces pieces).Knows (labels pieces ++ defined) := by
  induction pieces generalizing d defined with
  | nil => exact h
  | cons piece pieces ih =>
    cases piece with
    | label name =>
      intro label
      have := ih (h.define name) label
      simp only [List.mem_append, List.mem_cons] at this
      simp only [labels, List.cons_append, List.mem_append, List.mem_cons]
      rw [← or_left_comm]
      exact this
    | item line item =>
      have hd : (d.emit line item).Knows defined := by
        cases item <;> exact h
      exact ih hd

theorem addLine_eq_scanLine {d : Draft} {defined : List String} (h : d.Knows defined) (line : Nat)
    (text : List Char) :
    d.addLine line text = (scanLine line defined text).map d.addPieces := by
  unfold addLine scanLine
  rcases readLine text with fault | ⟨label, statement⟩
  · rfl
  simp only [bind, Except.bind]
  cases label with
  | none =>
    simp only [define?]
    cases readStatement statement with
    | error fault => rfl
    | ok items => exact congrArg Except.ok (d.addPieces_items line items).symm
  | some label =>
    simp only [define?, define, h label]
    by_cases hl : label ∈ defined
    · simp only [hl, if_true]
      rfl
    · simp only [hl, if_false]
      cases readStatement statement with
      | error fault => rfl
      | ok items =>
        exact congrArg Except.ok ((d.addPiece (.label label)).addPieces_items line items).symm

/-- The pass over the lines keeps the draft of the pieces that the first pass reads. -/
theorem addLines_eq_scan {d : Draft} {defined : List String} (h : d.Knows defined) (line : Nat)
    (texts : List (List Char)) :
    d.addLines line texts = (scan line defined texts).map d.addPieces := by
  induction texts generalizing d defined line with
  | nil => rfl
  | cons text rest ih =>
    rw [addLines, addLine_eq_scanLine h, scan]
    cases scanLine line defined text with
    | error fault => rfl
    | ok pieces =>
      simp only [Except.map, ih (h.addPieces pieces)]
      cases scan (line + 1) (labels pieces ++ defined) rest with
      | error e => rfl
      | ok more => simp only [addPieces_append]

end Draft

/-! ## Settling the references of some pieces -/

/-- What the one pass emits for pieces: bytes, and a zero for each address. -/
def placeholders : List Piece → List UInt8
  | [] => []
  | .label _ :: pieces => placeholders pieces
  | .item _ (.byte value) :: pieces => value :: placeholders pieces
  | .item _ (.address _) :: pieces => 0 :: placeholders pieces

/-- The references in pieces that begin at a position. -/
def references (position : Nat) : List Piece → List Reference
  | [] => []
  | .label _ :: pieces => references position pieces
  | .item _ (.byte _) :: pieces => references (position + 1) pieces
  | .item line (.address label) :: pieces =>
    ⟨position, label, line⟩ :: references (position + 1) pieces

theorem addPieces_eq (d : Draft) (pieces : List Piece) :
    d.addPieces pieces =
      { symbols := symbols d.symbols d.output.size pieces
        references := d.references ++ references d.output.size pieces
        output := d.output ++ placeholders pieces } := by
  induction pieces generalizing d with
  | nil => simp [Draft.addPieces, symbols, references, placeholders]
  | cons piece pieces ih =>
    rw [show d.addPieces (piece :: pieces) = (d.addPiece piece).addPieces pieces from rfl, ih]
    rcases piece with name | ⟨line, value | label⟩
    · rfl
    · simp [Draft.addPiece, Draft.emit, symbols, references, placeholders]
    · simp [Draft.addPiece, Draft.emit, symbols, references, placeholders]

theorem labelByte_eq_place (table : List (String × Nat)) (label : String) :
    labelByte table label = place table (.address label) := rfl

/-- Settling the references of pieces turns their placeholders into what the second pass writes. -/
theorem foldlM_settle (table : List (String × Nat)) (pieces : List Piece) (before : List UInt8) :
    (references before.length pieces).foldlM (settle table)
        (before ++ placeholders pieces).toArray =
      (write table pieces).map fun bytes => (before ++ bytes).toArray := by
  induction pieces generalizing before with
  | nil => rfl
  | cons piece pieces ih =>
    have hnext (byte : UInt8) := ih (before ++ [byte])
    simp only [List.length_append, List.length_singleton, List.append_assoc,
      List.singleton_append] at hnext
    rcases piece with name | ⟨line, value | label⟩
    · exact ih before
    · rw [references, placeholders, hnext, write, place]
      cases write table pieces <;> rfl
    · rw [references, placeholders, List.foldlM_cons, settle, labelByte_eq_place, write]
      cases place table (.address label) with
      | error fault => rfl
      | ok byte =>
        have hset : (before ++ 0 :: placeholders pieces).toArray.setIfInBounds before.length byte =
            (before ++ byte :: placeholders pieces).toArray := by
          simp
        show (references (before.length + 1) pieces).foldlM (settle table)
          ((before ++ 0 :: placeholders pieces).toArray.setIfInBounds before.length byte) = _
        rw [hset, hnext]
        cases write table pieces <;> rfl

theorem finish_addPieces (pieces : List Piece) :
    (Draft.addPieces {} pieces).finish = write (symbols [] 0 pieces) pieces := by
  have hreferences :
      ((#[] : Array Reference) ++ references 0 pieces).toList = references 0 pieces := by simp
  have houtput : (#[] : Array UInt8) ++ placeholders pieces = (placeholders pieces).toArray := by simp
  have hsettle := foldlM_settle (symbols [] 0 pieces) pieces []
  simp only [List.length_nil, List.nil_append] at hsettle
  rw [addPieces_eq, Draft.finish]
  simp only [List.size_toArray, List.length_nil, hreferences, houtput, hsettle]
  cases write (symbols [] 0 pieces) pieces <;> rfl

/-- One pass with settling afterwards is two passes. -/
theorem assemble_eq_twoPass (source : String) : assemble source = twoPass source := by
  have hknows : Draft.Knows {} [] := by
    intro label
    simp
  rw [assemble, Draft.addLines_eq_scan hknows, twoPass]
  cases scan 1 [] (Text.lines source.toList) with
  | error e => rfl
  | ok pieces => exact finish_addPieces pieces

/-! ## What the first pass reads -/

theorem labels_append (ps qs : List Piece) : labels (ps ++ qs) = labels ps ++ labels qs := by
  induction ps with
  | nil => rfl
  | cons piece ps ih => cases piece <;> simp [labels, ih]

theorem labels_items (line : Nat) (items : List Item) : labels (items.map (.item line)) = [] := by
  induction items with
  | nil => rfl
  | cons item items ih => exact ih

theorem scanLine_eq_ok {line : Nat} {defined : List String} {text : List Char}
    {pieces : List Piece} (h : scanLine line defined text = .ok pieces) :
    ∃ parts items, readLine text = .ok parts ∧ readStatement parts.statement = .ok items ∧
      pieces = parts.label.toList.map .label ++ items.map (.item line) ∧
      ∀ label ∈ parts.label, label ∉ defined := by
  unfold scanLine at h
  split at h
  · cases h
  · rename_i statement hread
    obtain ⟨items, hitems, rfl⟩ := except_map_eq_ok_iff.mp h
    exact ⟨_, items, hread, hitems, rfl, by simp⟩
  · rename_i label statement hread
    split at h
    · cases h
    · rename_i hdefined
      obtain ⟨items, hitems, rfl⟩ := except_map_eq_ok_iff.mp h
      exact ⟨_, items, hread, hitems, rfl, by simpa using hdefined⟩

theorem nodup_labels_of_scan {line : Nat} {defined : List String} {texts : List (List Char)}
    {pieces : List Piece} (h : scan line defined texts = .ok pieces) :
    (labels pieces).Nodup ∧ ∀ label ∈ labels pieces, label ∉ defined := by
  induction texts generalizing line defined pieces with
  | nil =>
    cases h
    simp [labels]
  | cons text rest ih =>
    rw [scan] at h
    split at h
    · cases h
    · rename_i first hfirst
      obtain ⟨more, hmore, rfl⟩ := except_map_eq_ok_iff.mp h
      obtain ⟨hnodup, hfresh⟩ := ih hmore
      obtain ⟨parts, items, _, _, rfl, hparts⟩ := scanLine_eq_ok hfirst
      have hlabels : labels (parts.label.toList.map .label ++ items.map (.item line)) =
          parts.label.toList := by
        rw [labels_append, labels_items, List.append_nil]
        cases parts.label <;> rfl
      rw [hlabels] at hfresh
      rw [labels_append, hlabels]
      refine ⟨List.nodup_append.mpr ⟨?_, hnodup, ?_⟩, ?_⟩
      · cases parts.label <;> simp
      · intro a ha b hb hab
        exact hfresh b hb (by simp [← hab, ha])
      · intro label hlabel
        rcases List.mem_append.mp hlabel with hl | hl
        · exact hparts label (by simpa using hl)
        · exact fun hd => hfresh label hl (by simp [hd])

/-! ## What the second pass writes -/

theorem lookup_symbols {table : List (String × Nat)} {start address : Nat} {label : String}
    {pieces : List Piece} (h : (symbols table start pieces).lookup label = some address) :
    table.lookup label = some address ∨
      ∃ before after, pieces = before ++ .label label :: after ∧ address = start + size before := by
  induction pieces generalizing table start with
  | nil => exact .inl h
  | cons piece pieces ih =>
    cases piece with
    | label name =>
      rcases ih h with htable | ⟨before, after, rfl, rfl⟩
      · rw [List.lookup_cons] at htable
        split at htable
        · rename_i heq
          obtain rfl : label = name := by simpa using heq
          exact .inr ⟨[], pieces, rfl, (Option.some.inj htable).symm⟩
        · exact .inl htable
      · exact .inr ⟨.label name :: before, after, rfl, rfl⟩
    | item line item =>
      rcases ih h with htable | ⟨before, after, rfl, rfl⟩
      · exact .inl htable
      · exact .inr ⟨.item line item :: before, after, rfl, by simp [size]; omega⟩

theorem lookup_symbols_isSome_iff (pieces : List Piece) (label : String) :
    ((symbols [] 0 pieces).lookup label).isSome ↔ label ∈ labels pieces := by
  have hknows : Draft.Knows {} [] := by
    intro label
    simp
  have := hknows.addPieces pieces label
  rw [addPieces_eq, List.append_nil] at this
  exact this

theorem symbols_of_labels_eq_nil {pieces : List Piece} (h : labels pieces = []) :
    ∀ table address, symbols table address pieces = table := by
  induction pieces with
  | nil => intro table address; rfl
  | cons piece pieces ih =>
    cases piece with
    | label name => cases h
    | item line item => exact fun table address => ih h table (address + 1)

theorem write_append (table : List (String × Nat)) (ps qs : List Piece) :
    write table (ps ++ qs) =
      (write table ps).bind fun xs => (write table qs).map fun ys => xs ++ ys := by
  induction ps with
  | nil =>
    cases h : write table qs <;> simp [write, Except.bind, Except.map, h]
  | cons piece ps ih =>
    rcases piece with name | ⟨line, item⟩
    · exact ih
    · rw [List.cons_append, write, write, ih]
      cases place table item with
      | error fault => rfl
      | ok byte =>
        cases write table ps with
        | error e => rfl
        | ok xs => cases write table qs <;> rfl

theorem length_of_write {table : List (String × Nat)} {pieces : List Piece} {bytes : List UInt8}
    (h : write table pieces = .ok bytes) : bytes.length = size pieces := by
  induction pieces generalizing bytes with
  | nil =>
    cases h
    rfl
  | cons piece pieces ih =>
    rcases piece with name | ⟨line, item⟩
    · exact ih h
    · rw [write] at h
      split at h
      · cases h
      · obtain ⟨rest, hrest, rfl⟩ := except_map_eq_ok_iff.mp h
        simp [size, ih hrest]

theorem getElem?_of_write {table : List (String × Nat)} {before after : List Piece} {line : Nat}
    {item : Item} {bytes : List UInt8}
    (h : write table (before ++ .item line item :: after) = .ok bytes) :
    ∃ byte, place table item = .ok byte ∧ bytes[size before]? = some byte := by
  rw [write_append] at h
  obtain ⟨xs, hxs, h⟩ := except_bind_eq_ok_iff.mp h
  obtain ⟨ys, hys, rfl⟩ := except_map_eq_ok_iff.mp h
  rw [write] at hys
  split at hys
  · cases hys
  · rename_i byte hbyte
    obtain ⟨rest, _, rfl⟩ := except_map_eq_ok_iff.mp hys
    refine ⟨byte, hbyte, ?_⟩
    rw [← length_of_write hxs]
    simp

theorem write_bytes (table : List (String × Nat)) (line : Nat) (values : List UInt8) :
    write table ((values.map .byte).map (.item line)) = .ok values := by
  induction values with
  | nil => rfl
  | cons value values ih =>
    rw [List.map_cons, List.map_cons, write, ih]
    rfl

theorem write_ne_ok {pieces : List Piece} {line : Nat} {label : String}
    (h : .item line (.address label) ∈ pieces) (bytes : List UInt8) :
    write [] pieces ≠ .ok bytes := by
  intro hwrite
  obtain ⟨before, after, rfl⟩ := List.append_of_mem h
  obtain ⟨byte, hplace, _⟩ := getElem?_of_write hwrite
  cases hplace

theorem write_eq_error {table : List (String × Nat)} {pieces : List Piece} {e : Error}
    (h : write table pieces = .error e) :
    ∃ before item after bytes, pieces = before ++ .item e.line item :: after ∧
      write table before = .ok bytes ∧ place table item = .error e.fault := by
  induction pieces with
  | nil => cases h
  | cons piece pieces ih =>
    rcases piece with name | ⟨line, item⟩
    · obtain ⟨before, item, after, bytes, rfl, hbefore, hitem⟩ := ih h
      exact ⟨.label name :: before, item, after, bytes, rfl, hbefore, hitem⟩
    · rw [write] at h
      split at h
      · rename_i fault hfault
        cases h
        exact ⟨[], item, pieces, [], rfl, rfl, hfault⟩
      · rename_i byte hbyte
        cases hrest : write table pieces with
        | ok rest =>
          rw [hrest] at h
          cases h
        | error e' =>
          rw [hrest] at h
          cases h
          obtain ⟨before, item', after, bytes, rfl, hbefore, hitem'⟩ := ih hrest
          refine ⟨.item line item :: before, item', after, byte :: bytes, rfl, ?_, hitem'⟩
          simp [write, hbyte, hbefore, Except.map]

/-! ## Both together -/

/-- The bytes of a program stand where its pieces say. Each byte given as a number is that number,
and each label stands for the address of the byte right after its definition. -/
structure Layout (pieces : List Piece) (bytes : List UInt8) : Prop where
  distinct : (labels pieces).Nodup
  length : bytes.length = size pieces
  byte : ∀ before line value after, pieces = before ++ .item line (.byte value) :: after →
    bytes[size before]? = some value
  address : ∀ before line label after, pieces = before ++ .item line (.address label) :: after →
    ∃ before' after', pieces = before' ++ .label label :: after' ∧ size before' < 256 ∧
      bytes[size before]? = some (UInt8.ofNat (size before'))

/-- The error is about a reference to a label that is not defined or lies behind the last address,
and every reference before it has a byte. -/
def FirstUnplaced (pieces : List Piece) (e : Error) : Prop :=
  ∃ before label after, pieces = before ++ .item e.line (.address label) :: after ∧
    (∃ bytes, write (symbols [] 0 pieces) before = .ok bytes) ∧
    (label ∉ labels pieces ∧ e.fault = .undefinedLabel label ∨
      ∃ before' after', pieces = before' ++ .label label :: after' ∧ 256 ≤ size before' ∧
        e.fault = .valueOutOfRange (size before'))

theorem layout_of_write {pieces : List Piece} {bytes : List UInt8}
    (hdistinct : (labels pieces).Nodup) (h : write (symbols [] 0 pieces) pieces = .ok bytes) :
    Layout pieces bytes where
  distinct := hdistinct
  length := length_of_write h
  byte := by
    rintro before line value after rfl
    obtain ⟨byte, hbyte, hget⟩ := getElem?_of_write h
    cases hbyte
    exact hget
  address := by
    rintro before line label after hpieces
    obtain ⟨byte, hbyte, hget⟩ := getElem?_of_write (hpieces ▸ h)
    rw [← hpieces, place] at hbyte
    split at hbyte
    · cases hbyte
    · rename_i address haddress
      rcases lookup_symbols haddress with hnone | ⟨before', after', hlabel, rfl⟩
      · cases hnone
      · split at hbyte
        · rename_i hsmall
          cases hbyte
          rw [Nat.zero_add] at hget hsmall
          exact ⟨before', after', hlabel, hsmall, hget⟩
        · cases hbyte

theorem firstUnplaced_of_write {pieces : List Piece} {e : Error}
    (h : write (symbols [] 0 pieces) pieces = .error e) : FirstUnplaced pieces e := by
  obtain ⟨before, item, after, bytes, hpieces, hbefore, hitem⟩ := write_eq_error h
  cases item with
  | byte value => cases hitem
  | address label =>
    refine ⟨before, label, after, hpieces, ⟨bytes, hbefore⟩, ?_⟩
    rw [place] at hitem
    split at hitem
    · rename_i hnone
      left
      refine ⟨?_, (Except.error.inj hitem).symm⟩
      rw [← lookup_symbols_isSome_iff, hnone]
      simp
    · rename_i address haddress
      right
      rcases lookup_symbols haddress with hnone | ⟨before', after', hlabel, rfl⟩
      · cases hnone
      · rw [Nat.zero_add] at hitem
        split at hitem
        · cases hitem
        · rename_i hlarge
          exact ⟨before', after', hlabel, Nat.le_of_not_lt hlarge, (Except.error.inj hitem).symm⟩

/-- **The assembler is a two-pass assembler.** Emitting zeros and settling the open places gives the
result of two passes, for every source: the same bytes, in which every label stands for the address
right after its definition; or the same error, which is the first one of the first pass, or else
about the first reference without a byte. -/
theorem assemble_two_pass (source : String) :
    assemble source = twoPass source ∧
      (∀ bytes, assemble source = .ok bytes →
        ∃ pieces, scan 1 [] (Text.lines source.toList) = .ok pieces ∧ Layout pieces bytes) ∧
      (∀ e, assemble source = .error e →
        scan 1 [] (Text.lines source.toList) = .error e ∨
          ∃ pieces, scan 1 [] (Text.lines source.toList) = .ok pieces ∧ FirstUnplaced pieces e) := by
  have heq := assemble_eq_twoPass source
  refine ⟨heq, ?_, ?_⟩
  · intro bytes h
    rw [heq, twoPass] at h
    split at h
    · cases h
    · rename_i pieces hscan
      exact ⟨pieces, hscan, layout_of_write (nodup_labels_of_scan hscan).1 h⟩
  · intro e h
    rw [heq, twoPass] at h
    split at h
    · rename_i e' hscan
      cases h
      exact .inl hscan
    · rename_i pieces hscan
      exact .inr ⟨pieces, hscan, firstUnplaced_of_write h⟩

end Ls8.Assembly
