import Ls8.Proofs.Assembly.Emission

/-!
# The first fault of a source

An operand is reached if nothing in front of it in its source has a fault (`Reached`). If it has one
itself, the assembler stops there, whatever follows: the fault is that of its statement
(`readInstruction_eq_error`), of its line (`scanLine_eq_error`), of the first pass
(`scan_eq_error`), and so what the assembler returns (`Reached.assemble_eq_error`).
-/

namespace Ls8.Assembly

/-- An operand in a source such that nothing in front of it has a fault: the lines before its line
have none, the label of its line is new, its mnemonic exists and has as many operands as it wants,
and the operands in front of it have no fault. -/
structure Reached (source : String) (operand : List Char) where
  before : List (List Char)
  text : List Char
  after : List (List Char)
  lines_eq : Text.lines source.toList = before ++ text :: after
  pieces : List Piece
  scan_before : scan 1 [] before = .ok pieces
  label_new : ∀ label ∈ label? text, label ∉ labels pieces
  statement : Statement
  statement_eq : statement? text = some statement
  accepted : statement.isData ∨ ∃ op, Opcode.ofMnemonic? statement.mnemonic = some op ∧
    statement.operands.length = (operandCount op.byte).toNat
  front : List (List Char)
  back : List (List Char)
  operands_eq : statement.operands = front ++ operand :: back
  items : List Item
  read_front : front.mapM readOperand = .ok items

/-- The line of the operand; lines count from one. -/
def Reached.line {source : String} {operand : List Char} (r : Reached source operand) : Nat :=
  r.before.length + 1

theorem mapM_eq_error {ε α β : Type} {f : α → Except ε β} {front back : List α} {x : α} {ys : List β}
    {e : ε} (hfront : front.mapM f = .ok ys) (hx : f x = .error e) :
    (front ++ x :: back).mapM f = .error e := by
  rw [List.mapM_append, hfront, List.mapM_cons, hx]
  rfl

theorem readInstruction_eq_error {s : Statement} {fault : Fault}
    (h : s.isData ∨ ∃ op, Opcode.ofMnemonic? s.mnemonic = some op ∧
      s.operands.length = (operandCount op.byte).toNat)
    (hne : s.operands ≠ []) (hoperands : s.operands.mapM readOperand = .error fault) :
    readInstruction s.mnemonic s.operands = .error fault := by
  unfold readInstruction
  split
  · rw [List.isEmpty_eq_false_iff.mpr hne, if_neg (by decide), hoperands]
  · rename_i hdata
    obtain ⟨op, hop, hlength⟩ := h.resolve_left fun h => hdata (beq_iff_eq.mp h)
    rw [hop]
    simp only [hlength, if_true, hoperands]
    rfl

theorem scanLine_eq_error {text : List Char} {s : Statement} {fault : Fault} {defined : List String}
    (hs : statement? text = some s) (hlabel : ∀ label ∈ label? text, label ∉ defined)
    (h : readInstruction s.mnemonic s.operands = .error fault) (line : Nat) :
    scanLine line defined text = .error fault := by
  unfold statement? at hs
  unfold label? at hlabel
  unfold scanLine
  split at hs
  · rename_i parts hread
    rw [hread] at hlabel ⊢
    split at hs
    · cases hs
    · rename_i hempty
      obtain rfl : Statement.ofText parts.statement = s := Option.some.inj hs
      have hstatement : readStatement parts.statement = .error fault := by
        rw [readStatement, if_neg hempty]
        exact h
      obtain ⟨label, statement⟩ := parts
      cases label with
      | none => simp only [hstatement, Except.map]
      | some label =>
        simp only [hstatement, Except.map]
        rw [if_neg (hlabel label rfl)]
  · cases hs

theorem scan_eq_error {line : Nat} {defined : List String} {before after : List (List Char)}
    {text : List Char} {pieces : List Piece} {fault : Fault}
    (hbefore : scan line defined before = .ok pieces)
    (h : ∀ defined', (∀ name ∈ defined', name ∈ labels pieces ∨ name ∈ defined) →
      scanLine (line + before.length) defined' text = .error fault) :
    scan line defined (before ++ text :: after) = .error ⟨line + before.length, fault⟩ := by
  induction before generalizing line defined pieces with
  | nil =>
    have hline : scanLine line defined text = .error fault := h defined fun _ => .inr
    rw [List.nil_append, scan, hline]
    rfl
  | cons first before ih =>
    rw [scan] at hbefore
    split at hbefore
    · cases hbefore
    · rename_i pieces' hfirst
      obtain ⟨more, hmore, rfl⟩ := except_map_eq_ok_iff.mp hbefore
      have hlength : line + (first :: before).length = line + 1 + before.length := by
        rw [List.length_cons]
        omega
      rw [hlength] at h ⊢
      have hrest := ih hmore fun defined' hdefined => h defined' fun name hname => by
        rw [labels_append, List.mem_append]
        rcases hdefined name hname with hmem | hmem
        · exact .inl (.inr hmem)
        · rcases List.mem_append.mp hmem with hmem | hmem
          · exact .inl (.inl hmem)
          · exact .inr hmem
      rw [List.cons_append, scan, hfirst]
      simp only [hrest, Except.map]

/-- The assembler stops at an operand with a fault, if nothing in front of it has one. -/
theorem Reached.assemble_eq_error {source : String} {operand : List Char} {fault : Fault}
    (r : Reached source operand) (h : readOperand operand = .error fault) :
    assemble source = .error ⟨r.line, fault⟩ := by
  have hoperands : r.statement.operands.mapM readOperand = .error fault := by
    rw [r.operands_eq]
    exact mapM_eq_error r.read_front h
  have hne : r.statement.operands ≠ [] := by
    rw [r.operands_eq]
    exact List.append_ne_nil_of_right_ne_nil _ (List.cons_ne_nil _ _)
  have hinstruction := readInstruction_eq_error r.accepted hne hoperands
  have hscan : scan 1 [] (r.before ++ r.text :: r.after) =
      .error ⟨1 + r.before.length, fault⟩ :=
    scan_eq_error r.scan_before fun defined' hdefined =>
      scanLine_eq_error r.statement_eq (fun label hlabel hmem =>
        r.label_new label hlabel ((hdefined label hmem).resolve_right List.not_mem_nil))
        hinstruction _
  rw [assemble_eq_twoPass, twoPass, r.lines_eq, hscan, Reached.line, Nat.add_comm]

end Ls8.Assembly
