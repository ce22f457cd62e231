import Mathlib.Data.List.Forall2
import Ls8.Proofs.Assembly.Statement
import Ls8.Proofs.Assembly.TwoPass
import Ls8.Proofs.Text.Case

/-!
# Edits that do not matter

An `Edit` changes the case of letters in a source, adds a comment or white space to one of its lines,
adds a line with nothing else, or writes its line ends in another way. A line keeps its label and its
statement, up to the case of letters (`LineEdit.readLine_eq`, `readLine_smallAscii`), so it emits what
it did or has a fault of the same kind (`alike_smallAscii`). Two sources with such lines in the same
order, empty ones apart, assemble to the same bytes or fail on corresponding lines
(`Corresponds.verdict_assembleLines`), and every edit leads from a source to one like it
(`Edit.verdict_assembleLines`). Hence `assemble_edited`, for any number of edits.
-/

namespace Ls8.Assembly

open Text (capitals isBlank smallAscii splitWord trim)

/-! ## Edits -/

/-- Nothing, or a comment. -/
def IsComment (cs : List Char) : Prop :=
  ∀ c ∈ cs.head?, c = ';' ∨ c = '#'

/-- A comment is added to the end of a line, or white space to its start, to its end or behind the
colon of its label. -/
inductive LineEdit : List Char → List Char → Prop where
  | comment (line : List Char) {comment : List Char} (h : IsComment comment) :
    LineEdit line (line ++ comment)
  | spaceInFront {space : List Char} (line : List Char) (h : ∀ c ∈ space, isBlank c) :
    LineEdit line (space ++ line)
  | spaceBehind (line : List Char) {space : List Char} (h : ∀ c ∈ space, isBlank c) :
    LineEdit line (line ++ space)
  | spaceBehindLabel {label space : List Char} (rest : List Char)
    (hlabel : ∀ c ∈ label, c ≠ ':' ∧ c ≠ ';' ∧ c ≠ '#') (h : ∀ c ∈ space, isBlank c) :
    LineEdit (label ++ ':' :: rest) (label ++ ':' :: (space ++ rest))

/-- A line starts behind the text. -/
def EndsInFeed (front : List Char) : Prop :=
  front = [] ∨ ['\n'] <:+ front

/-- A line ends in front of the text. -/
def StartsWithEnd (back : List Char) : Prop :=
  back = [] ∨ ['\n'] <+: back ∨ ['\r', '\n'] <+: back

/-- A change to a source, with the line of the new source that each line of the old one becomes;
lines count from one. -/
inductive Edit : List Char → List Char → (Nat → Nat) → Prop where
  /-- The case of ASCII letters changes. -/
  | letterCase {text text' : List Char} (h : smallAscii text' = smallAscii text) :
    Edit text text' id
  /-- A line changes. -/
  | withinLine {front line line' back : List Char} (h : LineEdit line line') (hfeed : '\n' ∉ line')
    (hfront : EndsInFeed front) (hback : StartsWithEnd back) :
    Edit (front ++ (line ++ back)) (front ++ (line' ++ back)) id
  /-- A line with white space and a comment at most is added in front of another. -/
  | newLine {front space comment : List Char} (back : List Char) (hspace : ∀ c ∈ space, isBlank c)
    (hcomment : IsComment comment) (hfeed : '\n' ∉ space ++ comment) (hfront : EndsInFeed front) :
    Edit (front ++ back) (front ++ (space ++ comment ++ '\n' :: back))
      fun n => if n ≤ front.count '\n' then n else n + 1
  /-- Such a line is added behind the last one. -/
  | lastLine (text : List Char) {space comment : List Char} (hspace : ∀ c ∈ space, isBlank c)
    (hcomment : IsComment comment) (hfeed : '\n' ∉ space ++ comment) :
    Edit text (text ++ '\n' :: (space ++ comment)) id
  /-- Every line feed gets a carriage return in front of it. -/
  | carriageReturns (text : List Char) :
    Edit text (text.flatMap fun c => if c = '\n' then ['\r', '\n'] else [c]) id

/-- One edit after the other. -/
inductive Edits : List Char → List Char → (Nat → Nat) → Prop where
  | none (text : List Char) : Edits text text id
  | next {text text' text'' : List Char} {shift shift' : Nat → Nat} (h : Edits text text' shift)
    (h' : Edit text' text'' shift') : Edits text text'' (shift' ∘ shift)

/-! ## Lines that read alike -/

/-- A result, with no more of a fault than its kind. -/
def kinded {α : Type} (r : Except Fault α) : Except FaultKind α :=
  r.mapError Fault.kind

theorem kinded_bind {α β : Type} (r : Except Fault α) (f : α → Except Fault β) :
    kinded (r >>= f) = kinded r >>= fun a => kinded (f a) := by
  cases r <;> rfl

theorem kinded_map {α β : Type} (r : Except Fault α) (f : α → β) :
    kinded (r.map f) = (kinded r).map f := by
  cases r <;> rfl

section

variable {line line' : List Char}

theorem readLine_congr (h : trim (stripComment line') = trim (stripComment line)) :
    readLine line' = readLine line := by
  simp only [readLine, h]

theorem stripComment_append {front : List Char} (h : ∀ c ∈ front, c ≠ ';' ∧ c ≠ '#')
    (back : List Char) : stripComment (front ++ back) = front ++ stripComment back := by
  refine List.takeWhile_append_of_pos fun c hc => ?_
  simpa using h c hc

theorem ne_of_isBlank {c : Char} (h : isBlank c) : c ≠ ';' ∧ c ≠ '#' := by
  constructor <;> rintro rfl <;> exact absurd h (by decide)

theorem stripComment_blank_append {space : List Char} (h : ∀ c ∈ space, isBlank c)
    (back : List Char) : stripComment (space ++ back) = space ++ stripComment back :=
  stripComment_append (fun c hc => ne_of_isBlank (h c hc)) back

theorem stripComment_of_isBlank {space : List Char} (h : ∀ c ∈ space, isBlank c) :
    stripComment space = space := by
  rw [← List.append_nil space, stripComment_blank_append h]
  rfl

theorem stripComment_of_isComment {comment : List Char} (h : IsComment comment) :
    stripComment comment = [] := by
  cases comment with
  | nil => rfl
  | cons c rest => rcases h c rfl with rfl | rfl <;> rfl

theorem trim_blank_append {space : List Char} (h : ∀ c ∈ space, isBlank c) (cs : List Char) :
    trim (space ++ cs) = trim cs := by
  rw [trim, List.dropWhile_append_of_pos h, trim]

theorem dropWhile_blank_append (front : List Char) {c : Char} (hc : isBlank c = false)
    {back : List Char} :
    (front ++ c :: back).dropWhile isBlank = front.dropWhile isBlank ++ c :: back := by
  rw [List.dropWhile_append]
  split
  · rename_i hempty
    rw [List.isEmpty_iff.mp hempty, List.dropWhile_cons_of_neg (by simp [hc]), List.nil_append]
  · rfl

theorem trimEnd_append_cons (front : List Char) {c : Char} (hc : isBlank c = false)
    {back : List Char} :
    Text.trimEnd (front ++ c :: back) = front ++ c :: Text.trimEnd back := by
  rw [Text.trimEnd, List.reverse_append, List.reverse_cons, List.append_assoc,
    List.singleton_append, dropWhile_blank_append _ hc, Text.trimEnd]
  simp

theorem trim_stripComment_append (line : List Char) {back : List Char}
    (h : ∀ c ∈ stripComment back, isBlank c) :
    trim (stripComment (line ++ back)) = trim (stripComment line) := by
  rw [stripComment, List.takeWhile_append]
  split
  · rename_i hall
    have hline : stripComment line = line := (List.takeWhile_prefix _).eq_of_length hall
    rw [hline]
    exact Text.trim_append_blank line h
  · rfl

theorem readLine_append (line : List Char) {back : List Char}
    (h : ∀ c ∈ stripComment back, isBlank c) : readLine (line ++ back) = readLine line :=
  readLine_congr (trim_stripComment_append line h)

theorem readLine_append_return (line : List Char) : readLine (line ++ ['\r']) = readLine line :=
  readLine_append line (List.forall_mem_singleton.mpr (by decide))

theorem readLine_blank_append {space : List Char} (h : ∀ c ∈ space, isBlank c)
    (line : List Char) : readLine (space ++ line) = readLine line := by
  refine readLine_congr ?_
  rw [stripComment_blank_append h, trim_blank_append h]

theorem readLine_label {label : List Char} (h : ∀ c ∈ label, c ≠ ':' ∧ c ≠ ';' ∧ c ≠ '#')
    (rest : List Char) :
    readLine (label ++ ':' :: rest) =
      (readLabel (label.dropWhile isBlank)).map fun name =>
        ⟨some name, trim (stripComment rest)⟩ := by
  have hstrip : stripComment (label ++ ':' :: rest) = label ++ ':' :: stripComment rest :=
    stripComment_append (fun c hc => (h c hc).2) (':' :: rest)
  have htrim : trim (label ++ ':' :: stripComment rest) =
      label.dropWhile isBlank ++ ':' :: Text.trimEnd (stripComment rest) := by
    rw [trim, dropWhile_blank_append label (by decide), trimEnd_append_cons _ (by decide)]
  have hname : ∀ c ∈ label.dropWhile isBlank, (c != ':') = true := fun c hc =>
    bne_iff_ne.mpr (h c ((List.dropWhile_suffix isBlank).mem hc)).1
  rw [readLine, hstrip, htrim]
  simp only [List.takeWhile_append_of_pos hname, List.dropWhile_append_of_pos hname]
  simp [Text.trim_trimEnd]
  cases readLabel (label.dropWhile isBlank) <;> rfl

theorem LineEdit.readLine_eq (h : LineEdit line line') : readLine line' = readLine line := by
  cases h with
  | comment line h => exact readLine_append line (by simp [stripComment_of_isComment h])
  | spaceInFront line h => exact readLine_blank_append h line
  | spaceBehind line h => exact readLine_append line (by rwa [stripComment_of_isBlank h])
  | spaceBehindLabel rest hlabel h =>
    rw [readLine_label hlabel, readLine_label hlabel, stripComment_blank_append h,
      trim_blank_append h]

end

/-! ## Lines in another case -/

theorem registerNumber?_smallAscii (cs : List Char) :
    registerNumber? (smallAscii cs) = registerNumber? cs := by
  cases cs with
  | nil => rfl
  | cons c cs =>
    have hletter : (c.toLower = 'R' ∨ c.toLower = 'r') ↔ (c = 'R' ∨ c = 'r') := by
      have h := Numeral.toNat_toLower c
      simp only [← Char.toNat_inj, Numeral.le_iff_toNat_le, Char.reduceToNat] at *
      split at h <;> omega
    show registerNumber? (c.toLower :: smallAscii cs) = _
    rw [registerNumber?_cons, registerNumber?_cons, Numeral.byte?_smallAscii]
    simp only [hletter]

theorem number?_smallAscii (cs : List Char) : number? (smallAscii cs) = number? cs := by
  rw [number?, Text.smallAscii_smallAscii, number?]

theorem startsWithDigit_smallAscii (cs : List Char) :
    startsWithDigit (smallAscii cs) = startsWithDigit cs := by
  cases cs with
  | nil => rfl
  | cons c cs =>
    have h := Numeral.toNat_toLower c
    show ('0' ≤ c.toLower && c.toLower ≤ '9') = ('0' ≤ c && c ≤ '9')
    rw [Bool.eq_iff_iff]
    simp only [Bool.and_eq_true, decide_eq_true_eq, Numeral.le_iff_toNat_le, Char.reduceToNat] at *
    split at h <;> omega

theorem readOperand_smallAscii (cs : List Char) :
    kinded (readOperand (smallAscii cs)) = kinded (readOperand cs) := by
  simp only [readOperand, Text.isEmpty_smallAscii, registerNumber?_smallAscii, number?_smallAscii,
    startsWithDigit_smallAscii, Text.capitals_smallAscii]
  split
  · rfl
  · split
    · split <;> rfl
    · split
      · rfl
      · split <;> rfl

theorem mapM_readOperand_smallAscii (operands : List (List Char)) :
    kinded ((operands.map smallAscii).mapM readOperand) = kinded (operands.mapM readOperand) := by
  induction operands with
  | nil => rfl
  | cons operand operands ih =>
    simp only [List.map_cons, List.mapM_cons, kinded_bind, readOperand_smallAscii, ih]

theorem readInstruction_smallAscii (mnemonic : List Char) (operands : List (List Char)) :
    kinded (readInstruction mnemonic (operands.map smallAscii)) =
      kinded (readInstruction mnemonic operands) := by
  simp only [readInstruction, List.isEmpty_map, List.length_map]
  split
  · split
    · rfl
    · exact mapM_readOperand_smallAscii operands
  · split
    · rfl
    · split
      · simp only [kinded_bind, mapM_readOperand_smallAscii]
      · rfl

theorem splitOperands_smallAscii (cs : List Char) :
    splitOperands (smallAscii cs) = (splitOperands cs).map smallAscii := by
  rw [splitOperands, Text.isEmpty_smallAscii, Text.splitOn_smallAscii (by decide), splitOperands]
  split
  · rfl
  · rw [List.map_map, List.map_map]
    exact List.map_congr_left fun part _ => Text.trim_smallAscii part

theorem readStatement_smallAscii (cs : List Char) :
    kinded (readStatement (smallAscii cs)) = kinded (readStatement cs) := by
  rw [readStatement, Text.isEmpty_smallAscii, Text.splitWord_smallAscii, readStatement]
  split
  · rfl
  · simp only [Text.capitals_smallAscii, Text.trim_smallAscii, splitOperands_smallAscii,
      readInstruction_smallAscii]

theorem stripComment_smallAscii (line : List Char) :
    stripComment (smallAscii line) = smallAscii (stripComment line) := by
  refine Text.takeWhile_smallAscii (fun c => ?_) line
  simp only [bne, Text.toLower_beq (show Text.IsCaseless ';' by decide),
    Text.toLower_beq (show Text.IsCaseless '#' by decide)]

theorem readLabel_smallAscii (cs : List Char) :
    kinded (readLabel (smallAscii cs)) = kinded (readLabel cs) := by
  simp only [readLabel, Text.trim_smallAscii, Text.capitals_smallAscii]
  split <;> rfl

theorem readLine_smallAscii (line : List Char) :
    kinded (readLine (smallAscii line)) =
      (kinded (readLine line)).map fun parts => ⟨parts.label, smallAscii parts.statement⟩ := by
  have hcolon : Text.IsCaseless ':' := by decide
  have hsign : ∀ c : Char, (c.toLower != ':') = (c != ':') := fun c => by
    rw [bne, Text.toLower_beq hcolon, bne]
  have hname (cs : List Char) := Text.takeWhile_smallAscii (p := (· != ':')) hsign cs
  have hrest (cs : List Char) := Text.dropWhile_smallAscii (p := (· != ':')) hsign cs
  simp only [readLine, stripComment_smallAscii, Text.trim_smallAscii,
    Text.contains_smallAscii hcolon, hname, hrest, Text.drop_smallAscii]
  split
  · simp only [kinded_bind, readLabel_smallAscii]
    cases kinded (readLabel _) <;> rfl
  · rfl

/-- The lines emit the same, or have faults of one kind. -/
def Alike (text text' : List Char) : Prop :=
  ∀ line defined, kinded (scanLine line defined text') = kinded (scanLine line defined text)

theorem alike_of_readLine {text text' : List Char} (h : readLine text' = readLine text) :
    Alike text text' := by
  intro line defined
  rw [scanLine, h, scanLine]

theorem alike_smallAscii (text : List Char) : Alike text (smallAscii text) := by
  intro line defined
  have hread := readLine_smallAscii text
  unfold scanLine
  generalize readLine text = parts, readLine (smallAscii text) = parts' at hread ⊢
  rcases parts with fault | ⟨label, statement⟩ <;> rcases parts' with fault' | parts'
  · exact congrArg Except.error (Except.error.inj hread)
  · cases hread
  · cases hread
  · obtain rfl : parts' = ⟨label, smallAscii statement⟩ := Except.ok.inj hread
    cases label with
    | none => simp only [kinded_map, readStatement_smallAscii]
    | some label =>
      simp only
      split
      · rfl
      · simp only [kinded_map, readStatement_smallAscii]

/-! ## Sources that correspond -/

/-- The texts of two sources from some line on. Line for line they read alike, and lines in between
that the new one has more are empty; `shift` says which line of the new one a line becomes. -/
inductive Corresponds (shift : Nat → Nat) :
    Nat → List (List Char) → Nat → List (List Char) → Prop where
  | nil (line line' : Nat) : Corresponds shift line [] line' []
  | same {line line' : Nat} {text text' : List Char} {rest rest' : List (List Char)}
    (hline : line' = shift line) (htext : Alike text text')
    (h : Corresponds shift (line + 1) rest (line' + 1) rest') :
    Corresponds shift line (text :: rest) line' (text' :: rest')
  | more {line line' : Nat} {text' : List Char} {rest rest' : List (List Char)}
    (htext : readLine text' = .ok ⟨none, []⟩) (h : Corresponds shift line rest (line' + 1) rest') :
    Corresponds shift line rest line' (text' :: rest')

/-- What a result tells, when lines have other places: the kind of the error and its line. -/
def verdict {α : Type} (shift : Nat → Nat) (r : Except Error α) : Except (Nat × FaultKind) α :=
  r.mapError fun e => (shift e.line, e.kind)

def Piece.move (shift : Nat → Nat) : Piece → Piece
  | .label name => .label name
  | .item line content => .item (shift line) content

section

variable {shift : Nat → Nat}

theorem move_items (line : Nat) (items : List Item) :
    (items.map (.item line)).map (Piece.move shift) = items.map (.item (shift line)) := by
  rw [List.map_map]
  rfl

theorem labels_move (pieces : List Piece) : labels (pieces.map (.move shift)) = labels pieces := by
  induction pieces with
  | nil => rfl
  | cons piece pieces ih => cases piece <;> simp [labels, Piece.move, ih]

theorem symbols_move (table : List (String × Nat)) (address : Nat) (pieces : List Piece) :
    symbols table address (pieces.map (.move shift)) = symbols table address pieces := by
  induction pieces generalizing table address with
  | nil => rfl
  | cons piece pieces ih => cases piece <;> exact ih _ _

theorem scanLine_move (line : Nat) (defined : List String) (text : List Char) :
    scanLine (shift line) defined text =
      (scanLine line defined text).map (·.map (.move shift)) := by
  unfold scanLine
  rcases readLine text with fault | ⟨label, statement⟩
  · rfl
  · cases label with
    | none =>
      simp only
      cases readStatement statement with
      | error fault => rfl
      | ok items => exact congrArg Except.ok (move_items line items).symm
    | some label =>
      simp only
      split
      · rfl
      · cases readStatement statement with
        | error fault => rfl
        | ok items =>
          exact congrArg (fun pieces => Except.ok (Piece.label label :: pieces))
            (move_items line items).symm

theorem verdict_map {α β : Type} (r : Except Error α) (f : α → β) :
    verdict shift (r.map f) = (verdict shift r).map f := by
  cases r <;> rfl

theorem write_move (table : List (String × Nat)) (pieces : List Piece) :
    verdict id (write table (pieces.map (.move shift))) = verdict shift (write table pieces) := by
  induction pieces with
  | nil => rfl
  | cons piece pieces ih =>
    cases piece with
    | label name => exact ih
    | item line item =>
      rw [List.map_cons, Piece.move, write, write]
      cases place table item with
      | error fault => rfl
      | ok byte => simp only [verdict_map, ih]

theorem scanLine_empty {text : List Char} (h : readLine text = .ok ⟨none, []⟩) (line : Nat)
    (defined : List String) : scanLine line defined text = .ok [] := by
  rw [scanLine, h]
  rfl

/-- The first pass reads the same pieces from sources that correspond, or fails alike. -/
theorem Corresponds.verdict_scan {line line' : Nat} {texts texts' : List (List Char)}
    (h : Corresponds shift line texts line' texts') (defined : List String) :
    verdict id (scan line' defined texts') =
      (verdict shift (scan line defined texts)).map (·.map (.move shift)) := by
  induction h generalizing defined with
  | nil => rfl
  | more htext _ ih =>
    rw [scan, scanLine_empty htext, ← ih defined]
    simp only [labels, List.nil_append]
    exact congrArg (verdict id) (congrFun Except.map_id _)
  | @same line line' text text' rest rest' hline htext _ ih =>
    subst hline
    have hfirst : kinded (scanLine (shift line) defined text') =
        (kinded (scanLine line defined text)).map (·.map (.move shift)) := by
      rw [htext, scanLine_move, kinded_map]
    rw [scan, scan]
    generalize scanLine (shift line) defined text' = first', scanLine line defined text = first
      at hfirst ⊢
    rcases first with fault | pieces <;> rcases first' with fault' | pieces'
    · exact congrArg (fun kind => Except.error (shift line, kind)) (Except.error.inj hfirst)
    · cases hfirst
    · cases hfirst
    · obtain rfl : pieces' = pieces.map (.move shift) := Except.ok.inj hfirst
      simp only [verdict_map, labels_move, ih]
      cases verdict shift (scan (line + 1) (labels pieces ++ defined) rest) with
      | error e => rfl
      | ok more => exact congrArg Except.ok List.map_append.symm

/-- The bytes that lines describe. -/
def assembleLines (texts : List (List Char)) : Except Error (List UInt8) := do
  let pieces ← scan 1 [] texts
  write (symbols [] 0 pieces) pieces

theorem Corresponds.verdict_assembleLines {texts texts' : List (List Char)}
    (h : Corresponds shift 1 texts 1 texts') :
    verdict id (assembleLines texts') = verdict shift (assembleLines texts) := by
  have hscan := h.verdict_scan []
  unfold assembleLines
  generalize scan 1 [] texts' = first', scan 1 [] texts = first at hscan ⊢
  rcases first with e | pieces <;> rcases first' with e' | pieces'
  · exact congrArg Except.error (Except.error.inj hscan)
  · cases hscan
  · cases hscan
  · obtain rfl : pieces' = pieces.map (.move shift) := Except.ok.inj hscan
    show verdict id (write (symbols [] 0 (pieces.map (.move shift))) (pieces.map (.move shift))) =
      verdict shift (write (symbols [] 0 pieces) pieces)
    rw [symbols_move, write_move]

/-! ### Lines and segments -/

theorem corresponds_self {line line' : Nat} (h : ∀ i, shift (line + i) = line' + i)
    (texts : List (List Char)) : Corresponds shift line texts line' texts := by
  induction texts generalizing line line' with
  | nil => exact .nil line line'
  | cons text rest ih =>
    refine .same (h 0).symm (fun _ _ => rfl) (ih fun i => ?_)
    rw [Nat.add_assoc, Nat.add_assoc]
    exact h (1 + i)

theorem Corresponds.append {line : Nat} {front texts texts' : List (List Char)}
    (hfront : ∀ n < line + front.length, shift n = n)
    (h : Corresponds shift (line + front.length) texts (line + front.length) texts') :
    Corresponds shift line (front ++ texts) line (front ++ texts') := by
  induction front generalizing line with
  | nil => exact h
  | cons text front ih =>
    rw [List.length_cons, ← Nat.add_assoc, Nat.add_right_comm] at hfront h
    exact .same (hfront line (by omega)).symm (fun _ _ => rfl) (ih hfront h)

end

theorem corresponds_of_forall₂ {line : Nat} {texts texts' : List (List Char)}
    (h : List.Forall₂ Alike texts texts') : Corresponds id line texts line texts' := by
  induction h generalizing line with
  | nil => exact .nil line line
  | cons htext _ ih => exact .same rfl htext ih

theorem corresponds_finishLines (line : Nat) (segments : List (List Char)) :
    Corresponds id line (Text.finishLines segments) line segments := by
  induction segments generalizing line with
  | nil => exact .nil line line
  | cons segment rest ih =>
    cases rest with
    | nil =>
      rw [Text.finishLines]
      split
      · rename_i hempty
        exact .more (by rw [List.isEmpty_iff.mp hempty]; rfl) (.nil line (line + 1))
      · exact corresponds_self (fun _ => rfl) [segment]
    | cons next rest =>
      rw [Text.finishLines]
      · have hsegment := Text.dropReturn_congr readLine_append_return segment
        exact .same rfl (alike_of_readLine hsegment.symm) (ih (line + 1))
      · exact List.cons_ne_nil next rest

theorem verdict_comp {α : Type} {r r' : Except Error α} {shift : Nat → Nat} (shift' : Nat → Nat)
    (h : verdict id r' = verdict shift r) : verdict shift' r' = verdict (shift' ∘ shift) r := by
  have hcomp (shift : Nat → Nat) (r : Except Error α) :
      verdict (shift' ∘ shift) r = (verdict shift r).mapError (Prod.map shift' id) := by
    cases r <;> rfl
  rw [hcomp, ← h, ← hcomp, Function.comp_id]

theorem verdict_assemble (shift : Nat → Nat) (source : String) :
    verdict shift (assemble source) =
      verdict shift (assembleLines (source.toList.splitOn '\n')) := by
  have hlines : assemble source = assembleLines (Text.lines source.toList) := by
    rw [assemble_eq_twoPass, twoPass, assembleLines]
    cases scan 1 [] (Text.lines source.toList) <;> rfl
  rw [hlines]
  exact (verdict_comp shift (corresponds_finishLines 1 _).verdict_assembleLines).symm

/-! ## What edits do to the segments -/

theorem length_splitOn (cs : List Char) : (cs.splitOn '\n').length = cs.count '\n' + 1 := by
  induction cs with
  | nil => rfl
  | cons c cs ih =>
    rw [List.splitOn_cons_eq_if_modifyHead, List.count_cons, apply_ite List.length,
      List.length_cons, List.length_modifyHead, ih]
    split <;> rfl

theorem EndsInFeed.exists_splitOn {front : List Char} (h : EndsInFeed front) :
    ∃ lines : List (List Char), lines.length = front.count '\n' ∧
      ∀ cs, (front ++ cs).splitOn '\n' = lines ++ cs.splitOn '\n' := by
  rcases h with rfl | ⟨front, rfl⟩
  · exact ⟨[], rfl, fun cs => rfl⟩
  · refine ⟨front.splitOn '\n', by simp [length_splitOn], fun cs => ?_⟩
    rw [List.append_assoc, List.singleton_append, List.splitOn_append_cons_self]

theorem StartsWithEnd.exists_splitOn {back : List Char} (h : StartsWithEnd back) :
    ∃ (ending : List Char) (lines : List (List Char)), (∀ c ∈ ending, isBlank c) ∧
      ∀ line, '\n' ∉ line → (line ++ back).splitOn '\n' = (line ++ ending) :: lines := by
  rcases h with rfl | ⟨back, rfl⟩ | ⟨back, rfl⟩
  · refine ⟨[], [], by simp, fun line hline => ?_⟩
    rw [List.append_nil, List.splitOn_eq_singleton hline]
  · refine ⟨[], back.splitOn '\n', by simp, fun line hline => ?_⟩
    rw [List.singleton_append, List.splitOn_append_cons_self_of_not_mem hline, List.append_nil]
  · refine ⟨['\r'], back.splitOn '\n', List.forall_mem_singleton.mpr (by decide),
      fun line hline => ?_⟩
    have hline' : '\n' ∉ line ++ ['\r'] := by simpa using hline
    rw [← List.splitOn_append_cons_self_of_not_mem hline', List.append_assoc]
    rfl

theorem LineEdit.subset {line line' : List Char} (h : LineEdit line line') : line ⊆ line' := by
  cases h <;> intro c hc <;> simp at hc ⊢ <;> tauto

theorem forall₂_carriageReturns (text : List Char) :
    List.Forall₂ (fun segment segment' => segment' = segment ∨ segment' = segment ++ ['\r'])
      (text.splitOn '\n')
      ((text.flatMap fun c => if c = '\n' then ['\r', '\n'] else [c]).splitOn '\n') := by
  induction text with
  | nil => simp
  | cons c text ih =>
    rw [List.flatMap_cons, List.splitOn_cons_eq_if_modifyHead]
    split
    · rename_i hc
      obtain rfl := beq_iff_eq.mp hc
      exact .cons (.inr rfl) ih
    · rename_i hc
      rw [if_neg (by simpa using hc), List.singleton_append, List.splitOn_cons_eq_if_modifyHead,
        if_neg hc]
      generalize text.splitOn '\n' = segments, List.splitOn '\n' (text.flatMap _) = segments' at ih ⊢
      cases ih with
      | nil => exact .nil
      | cons hsegment hrest => exact .cons (by simpa using hsegment) hrest

theorem readLine_blank {space comment : List Char} (hspace : ∀ c ∈ space, isBlank c)
    (hcomment : IsComment comment) : readLine (space ++ comment) = .ok ⟨none, []⟩ := by
  rw [readLine_blank_append hspace, ← List.nil_append comment,
    readLine_append [] (by simp [stripComment_of_isComment hcomment])]
  rfl

/-- An edit keeps the bytes, and the kind of an error on the line that its line becomes. -/
theorem Edit.verdict_assembleLines {text text' : List Char} {shift : Nat → Nat}
    (h : Edit text text' shift) :
    verdict id (assembleLines (text'.splitOn '\n')) =
      verdict shift (assembleLines (text.splitOn '\n')) := by
  cases h with
  | letterCase h =>
    have hsmall (cs : List Char) :
        Corresponds id 1 (cs.splitOn '\n') 1 ((smallAscii cs).splitOn '\n') := by
      rw [Text.splitOn_smallAscii (by decide)]
      refine corresponds_of_forall₂ ?_
      rw [List.forall₂_map_right_iff]
      exact List.forall₂_same.mpr fun segment _ => alike_smallAscii segment
    rw [← (hsmall text).verdict_assembleLines, ← (hsmall text').verdict_assembleLines, h]
  | @withinLine front line line' back h hfeed hfront hback =>
    obtain ⟨lines, hlength, hlines⟩ := hfront.exists_splitOn
    obtain ⟨ending, rest, hending, hline⟩ := hback.exists_splitOn
    rw [hlines, hlines, hline line' hfeed, hline line fun hmem => hfeed (h.subset hmem)]
    have hread : readLine (line' ++ ending) = readLine (line ++ ending) := by
      rw [readLine_append line' (by rwa [stripComment_of_isBlank hending]),
        readLine_append line (by rwa [stripComment_of_isBlank hending]), h.readLine_eq]
    exact Corresponds.verdict_assembleLines (.append (fun _ _ => rfl)
      (.same rfl (alike_of_readLine hread) (corresponds_self (fun _ => rfl) rest)))
  | @newLine front space comment back hspace hcomment hfeed hfront =>
    obtain ⟨lines, hlength, hlines⟩ := hfront.exists_splitOn
    rw [hlines, hlines, List.splitOn_append_cons_self_of_not_mem hfeed, ← hlength]
    refine Corresponds.verdict_assembleLines (.append (fun n hn => if_pos (by omega)) ?_)
    refine .more (readLine_blank hspace hcomment) (corresponds_self (fun i => ?_) _)
    rw [if_neg (by omega)]
    omega
  | @lastLine _ space comment hspace hcomment hfeed =>
    rw [List.splitOn_append_cons_self, List.splitOn_eq_singleton hfeed]
    refine Corresponds.verdict_assembleLines ?_
    conv => arg 3; rw [← List.append_nil (text.splitOn '\n')]
    exact .append (fun _ _ => rfl) (.more (readLine_blank hspace hcomment) (.nil _ _))
  | carriageReturns =>
    refine Corresponds.verdict_assembleLines (corresponds_of_forall₂ ?_)
    refine List.Forall₂.imp (fun segment segment' h => ?_) (forall₂_carriageReturns text)
    rcases h with rfl | rfl
    · exact alike_of_readLine rfl
    · exact alike_of_readLine (readLine_append_return segment)

theorem Edits.verdict_assembleLines {text text' : List Char} {shift : Nat → Nat}
    (h : Edits text text' shift) :
    verdict id (assembleLines (text'.splitOn '\n')) =
      verdict shift (assembleLines (text.splitOn '\n')) := by
  induction h with
  | none => rfl
  | @next _ _ shift shift' _ h' ih =>
    rw [h'.verdict_assembleLines]
    exact verdict_comp shift' ih

/-- **Layout and the case of letters do not matter.** However a source is edited so, it assembles to
the same bytes; or if it does not assemble, then the edited one fails on the line that the line with
the error has become, with an error of the same kind. -/
theorem assemble_edited {source source' : String} {shift : Nat → Nat}
    (h : Edits source.toList source'.toList shift) :
    (∀ bytes, assemble source = .ok bytes → assemble source' = .ok bytes) ∧
      ∀ e, assemble source = .error e →
        ∃ e', assemble source' = .error e' ∧ e'.kind = e.kind ∧ e'.line = shift e.line := by
  have hverdict : verdict id (assemble source') = verdict shift (assemble source) := by
    rw [verdict_assemble, verdict_assemble, h.verdict_assembleLines]
  constructor
  · intro bytes hok
    rw [hok] at hverdict
    cases hresult : assemble source' with
    | error e' =>
      rw [hresult] at hverdict
      cases hverdict
    | ok bytes' =>
      rw [hresult] at hverdict
      exact congrArg Except.ok (Except.ok.inj hverdict)
  · intro e herror
    rw [herror] at hverdict
    cases hresult : assemble source' with
    | error e' =>
      rw [hresult] at hverdict
      have hpair := Except.error.inj hverdict
      exact ⟨e', rfl, congrArg Prod.snd hpair, congrArg Prod.fst hpair⟩
    | ok bytes =>
      rw [hresult] at hverdict
      cases hverdict

theorem assemble_edited_duplicate_label :
    assemble "a: ldi r0,0xff\nA: hlt" = .error ⟨2, .duplicateLabel "A"⟩ ∧
      ∃ shift, Edits "a: ldi r0,0xff\nA: hlt".toList
          "A: LDI R0,0XFF;set\r\n # again\r\nA:\t HLT".toList shift ∧
        ∃ e', assemble "A: LDI R0,0XFF;set\r\n # again\r\nA:\t HLT" = .error e' ∧
          e'.kind = .duplicateLabel ∧ e'.line = 3 := by
  have hcase : Edit "a: ldi r0,0xff\nA: hlt".toList "A: LDI R0,0XFF\nA: HLT".toList id :=
    .letterCase (by decide +kernel)
  have hcomment : Edit "A: LDI R0,0XFF\nA: HLT".toList "A: LDI R0,0XFF;set\nA: HLT".toList id :=
    @Edit.withinLine [] "A: LDI R0,0XFF".toList _ "\nA: HLT".toList
      (@LineEdit.comment _ ";set".toList (by simp [IsComment])) (by decide +kernel) (.inl rfl)
      (.inr (.inl (by decide +kernel)))
  have hspace : Edit "A: LDI R0,0XFF;set\nA: HLT".toList
      "A: LDI R0,0XFF;set\nA:\t HLT".toList id :=
    @Edit.withinLine "A: LDI R0,0XFF;set\n".toList "A: HLT".toList _ []
      (@LineEdit.spaceBehindLabel ['A'] ['\t'] " HLT".toList
        (List.forall_mem_singleton.mpr (by decide)) (List.forall_mem_singleton.mpr (by decide)))
      (by decide +kernel) (.inr (by decide +kernel)) (.inl rfl)
  have hline : Edit "A: LDI R0,0XFF;set\nA:\t HLT".toList
      "A: LDI R0,0XFF;set\n # again\nA:\t HLT".toList fun n => if n ≤ 1 then n else n + 1 :=
    @Edit.newLine "A: LDI R0,0XFF;set\n".toList [' '] "# again".toList "A:\t HLT".toList
      (List.forall_mem_singleton.mpr (by decide)) (by simp [IsComment]) (by decide +kernel)
      (.inr (by decide +kernel))
  have hreturns : Edit "A: LDI R0,0XFF;set\n # again\nA:\t HLT".toList
      "A: LDI R0,0XFF;set\r\n # again\r\nA:\t HLT".toList id := by
    convert Edit.carriageReturns _ using 1
    decide +kernel
  have hedits := ((((Edits.none _).next hcase).next hcomment).next hspace).next hline |>.next hreturns
  have herror : assemble "a: ldi r0,0xff\nA: hlt" = .error ⟨2, .duplicateLabel "A"⟩ := by
    decide +kernel
  obtain ⟨e', he', hkind, hplace⟩ := (assemble_edited hedits).2 _ herror
  exact ⟨herror, _, hedits, e', he', hkind, hplace⟩

end Ls8.Assembly
