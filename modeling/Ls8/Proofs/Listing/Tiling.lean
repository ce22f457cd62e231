import Mathlib.Algebra.BigOperators.Group.List.Basic
import Mathlib.Data.List.Chain
import Ls8.Proofs.Assembly.Disassembly

/-!
# What a listing covers

A listing can be read back: on each line below its header stands the address of an entry, and, in nine
columns behind it, its bytes (`row?_shown`). The rows that are read begin at address zero, each begins
where the one before it ends, the last one ends where the program ends, and their bytes are the
program (`render_tiles`).
-/

namespace Ls8.Listing

open Assembly (isPlain isWord_hex)
open Numeral (hex natural? natural?_hex)

/-! ## Reading a listing -/

structure Row where
  address : Nat
  bytes : List UInt8
deriving DecidableEq

/-- The bytes in a column: two hexadecimal digits each. Blanks do not count. -/
def octets? : List Char → Option (List UInt8)
  | [] => some []
  | ' ' :: rest => octets? rest
  | high :: low :: rest =>
    (natural? 16 [high, low]).bind fun n => (octets? rest).map (UInt8.ofNat n :: ·)
  | [_] => none

/-- The row on a line: an address, a colon and a blank, and nine columns of bytes. -/
def row? (line : List Char) : Option Row :=
  let address := line.takeWhile (· ≠ ':')
  (natural? 16 address).bind fun n =>
    (octets? ((line.drop (address.length + 2)).take 9)).map fun bytes => ⟨n, bytes⟩

def Entry.row (e : Entry) : Row :=
  ⟨e.address, e.raw⟩

/-! ## The bytes in a column -/

theorem length_hex (byte : UInt8) : (hex byte.toNat).toList.length = 2 := by
  have hlength : ∀ n < 256, (hex n).toList.length = 2 := by decide +kernel
  exact hlength _ byte.toNat_lt

theorem octets?_hex (byte : UInt8) (rest : List Char) :
    octets? ((hex byte.toNat).toList ++ rest) = (octets? rest).map (byte :: ·) := by
  obtain ⟨high, low, hdigits⟩ := List.length_eq_two.mp (length_hex byte)
  have hvalue := natural?_hex byte.toNat
  have hblank : ' ' ∉ (hex byte.toNat).toList := (isWord_hex _).not_mem (by decide)
  rw [hdigits] at hvalue hblank ⊢
  have hhigh : high ≠ ' ' := fun heq => hblank (heq ▸ List.mem_cons_self)
  simp [octets?, hvalue]

theorem octets?_replicate (n : Nat) : octets? (List.replicate n ' ') = some [] := by
  induction n with
  | zero => rfl
  | succ n ih => rw [List.replicate_succ, octets?, ih]

/-- The bytes with a blank behind each of them. -/
def spaced (bytes : List UInt8) : List Char :=
  bytes.flatMap fun byte => (hex byte.toNat).toList ++ [' ']

theorem octets?_spaced (bytes : List UInt8) (rest : List Char) :
    octets? (spaced bytes ++ rest) = (octets? rest).map (bytes ++ ·) := by
  induction bytes with
  | nil => simp [spaced]
  | cons byte bytes ih =>
    rw [spaced, List.flatMap_cons, ← spaced, List.append_assoc, List.append_assoc, octets?_hex,
      List.singleton_append, octets?, ih, Option.map_map]
    rfl

theorem length_spaced (bytes : List UInt8) : (spaced bytes).length = 3 * bytes.length := by
  induction bytes with
  | nil => rfl
  | cons byte bytes ih =>
    rw [spaced, List.flatMap_cons, ← spaced, List.length_append, List.length_append, length_hex, ih,
      List.length_singleton, List.length_cons]
    omega

theorem rawText_append_blank {e : Entry} (h : e.raw ≠ []) :
    e.rawText.toList ++ [' '] = spaced e.raw := by
  rw [Entry.rawText, String.toList_intercalate, List.map_map]
  generalize e.raw = bytes at *
  induction bytes with
  | nil => exact absurd rfl h
  | cons byte bytes ih =>
    cases bytes with
    | nil => simp [spaced]
    | cons next bytes =>
      rw [List.map_cons, List.map_cons, List.intercalate_cons_cons, ← List.map_cons,
        List.append_assoc, ih (List.cons_ne_nil _ _)]
      rfl

def Entry.column (e : Entry) : List Char :=
  spaced e.raw ++ List.replicate (9 - 3 * e.raw.length) ' '

theorem toList_leftAligned {e : Entry} (hne : e.raw ≠ []) (hle : e.raw.length ≤ 3) :
    (Text.leftAligned 9 e.rawText).toList = e.column := by
  have hspaced := rawText_append_blank hne
  have hlength := congrArg List.length hspaced
  rw [length_spaced, List.length_append, List.length_singleton] at hlength
  have hpad : 9 - e.rawText.toList.length = 9 - 3 * e.raw.length + 1 := by omega
  rw [Text.leftAligned, String.toList_ofList, List.rightpad, hpad, List.replicate_succ,
    List.append_cons, hspaced, Entry.column]

theorem length_column {e : Entry} (hle : e.raw.length ≤ 3) : e.column.length = 9 := by
  rw [Entry.column, List.length_append, length_spaced, List.length_replicate]
  omega

theorem octets?_column (e : Entry) : octets? e.column = some e.raw := by
  rw [Entry.column, octets?_spaced, octets?_replicate, Option.map_some, List.append_nil]

/-! ## The line of an entry -/

/-- The line of an entry without its end. -/
def Entry.shown (e : Entry) : List Char :=
  (hex e.address).toList ++ ([':', ' '] ++ (e.column ++ (' ' :: e.text.toList)))

theorem toList_line {e : Entry} (hne : e.raw ≠ []) (hle : e.raw.length ≤ 3) :
    e.line.toList = e.shown ++ ['\n'] := by
  rw [Entry.line, Entry.shown, ← toList_leftAligned hne hle]
  simp

theorem row?_shown {e : Entry} (hle : e.raw.length ≤ 3) : row? e.shown = some e.row := by
  have hcolon : ∀ c ∈ (hex e.address).toList, (c ≠ ':' : Bool) := by
    intro c hc
    refine decide_eq_true ?_
    rintro rfl
    exact (isWord_hex _).not_mem (by decide) hc
  have haddress : e.shown.takeWhile (· ≠ ':') = (hex e.address).toList := by
    rw [Entry.shown, List.takeWhile_append_of_pos hcolon]
    simp
  have hcolumn : (e.shown.drop ((hex e.address).toList.length + 2)).take 9 = e.column := by
    rw [Entry.shown, List.drop_length_add_append, ← length_column hle]
    exact List.take_left
  rw [row?, haddress]
  simp only [natural?_hex, Option.bind_some, hcolumn, octets?_column, Option.map_some]
  rfl

theorem not_mem_column (e : Entry) {c : Char} (hplain : isPlain c = false) (hblank : c ≠ ' ') :
    c ∉ e.column := by
  rw [Entry.column, List.mem_append, not_or]
  constructor
  · intro hmem
    obtain ⟨byte, _, hmem⟩ := List.mem_flatMap.mp hmem
    rcases List.mem_append.mp hmem with hmem | hmem
    · exact (isWord_hex _).not_mem hplain hmem
    · exact hblank (List.mem_singleton.mp hmem)
  · exact fun hmem => hblank (List.eq_of_mem_replicate hmem)

theorem not_mem_shown {e : Entry} {c : Char} (hplain : isPlain c = false) (hc : c ∉ [':', ' '])
    (htext : c ∉ e.text.toList) : c ∉ e.shown := by
  have hblank : c ≠ ' ' := fun heq => hc (by simp [heq])
  simp only [Entry.shown, List.mem_append, List.mem_cons, not_or]
  exact ⟨(isWord_hex _).not_mem hplain, by simpa using hc, not_mem_column e hplain hblank, hblank,
    htext⟩

theorem IsListed.not_mem_shown {e : Entry} (h : IsListed e) : '\n' ∉ e.shown ∧ '\r' ∉ e.shown := by
  obtain ⟨ir, a, b, htext, _⟩ := h
  have hline := (plainLine a b (Instruction.decode ir a b)).not_mem_text
  rw [← toList_text, ← htext] at hline
  exact ⟨Listing.not_mem_shown (by decide) (by decide) hline.1,
    Listing.not_mem_shown (by decide) (by decide) hline.2⟩

/-! ## The rows of a program -/

/-- The rows cover a program from its beginning to its end, every byte once. -/
structure Tiles (rows : List Row) (bytes : List UInt8) : Prop where
  first : ∀ r ∈ rows.head?, r.address = 0
  next : rows.IsChain fun r s => s.address = r.address + r.bytes.length
  nonempty : ∀ r ∈ rows, r.bytes ≠ []
  last : ∀ r ∈ rows.getLast?, r.address + r.bytes.length = bytes.length
  all : rows.flatMap (·.bytes) = bytes

variable {address : Nat} {bytes : List UInt8} {e : Entry}

theorem raw_of_mem_entriesFrom (h : e ∈ entriesFrom address bytes) :
    e.raw ≠ [] ∧ e.raw.length ≤ 3 := by
  fun_induction entriesFrom address bytes with
  | case1 => cases h
  | case2 address ir rest size ih =>
    rcases List.mem_cons.mp h with rfl | h
    · refine ⟨List.cons_ne_nil _ _, ?_⟩
      have hle := coverage_le ir
      have htake := List.length_take_le size rest
      rw [List.length_cons]
      omega
    · exact ih h

theorem address_of_mem_head? (h : e ∈ (entriesFrom address bytes).head?) : e.address = address := by
  cases bytes with
  | nil =>
    rw [entriesFrom] at h
    cases h
  | cons ir rest =>
    rw [entriesFrom] at h
    cases h
    rfl

theorem isChain_entriesFrom (address : Nat) (bytes : List UInt8) :
    (entriesFrom address bytes).IsChain fun e f => f.address = e.address + e.raw.length := by
  fun_induction entriesFrom address bytes with
  | case1 => exact .nil
  | case2 address ir rest size ih =>
    refine List.isChain_cons.mpr ⟨fun f hf => ?_, ih⟩
    rw [address_of_mem_head? hf]
    exact Nat.add_right_comm address 1 _

theorem flatMap_raw (address : Nat) (bytes : List UInt8) :
    (entriesFrom address bytes).flatMap (·.raw) = bytes := by
  fun_induction entriesFrom address bytes with
  | case1 => rfl
  | case2 address ir rest size ih =>
    rw [List.flatMap_cons, ih, List.cons_append, List.take_append_drop]

theorem end_le_of_mem (h : e ∈ entriesFrom address bytes) :
    e.address + e.raw.length ≤ address + bytes.length := by
  fun_induction entriesFrom address bytes with
  | case1 => cases h
  | case2 address ir rest size ih =>
    rcases List.mem_cons.mp h with rfl | h
    · simp only [List.length_cons, List.length_take]
      omega
    · have hend := ih h
      simp only [List.length_take, List.length_drop] at hend
      rw [List.length_cons]
      omega

theorem end_of_mem_getLast? (h : e ∈ (entriesFrom address bytes).getLast?) :
    e.address + e.raw.length = address + bytes.length := by
  fun_induction entriesFrom address bytes with
  | case1 => cases h
  | case2 address ir rest size ih =>
    by_cases hrest : rest.drop size = []
    · have hle : rest.length ≤ size := List.drop_eq_nil_iff.mp hrest
      rw [hrest, entriesFrom, List.getLast?_singleton] at h
      cases h
      simp only [List.length_cons, List.length_take]
      omega
    · rw [List.getLast?_cons_of_ne_nil (entriesFrom_ne_nil _ hrest)] at h
      have hend := ih h
      simp only [List.length_take, List.length_drop] at hend
      rw [List.length_cons]
      omega

theorem tiles_ofBytes (bytes : List UInt8) : Tiles ((ofBytes bytes).map Entry.row) bytes := by
  refine ⟨?_, ?_, ?_, ?_, ?_⟩
  · rw [List.head?_map]
    intro r hr
    obtain ⟨e, he, rfl⟩ := Option.map_eq_some_iff.mp hr
    exact address_of_mem_head? he
  · exact (List.isChain_map _).mpr (isChain_entriesFrom 0 bytes)
  · exact List.forall_mem_map.mpr fun e he => (raw_of_mem_entriesFrom he).1
  · rw [List.getLast?_map]
    intro r hr
    obtain ⟨e, he, rfl⟩ := Option.map_eq_some_iff.mp hr
    exact (end_of_mem_getLast? he).trans (Nat.zero_add _)
  · rw [List.flatMap_map]
    exact flatMap_raw 0 bytes

theorem Tiles.length_le {rows : List Row} (h : Tiles rows bytes) : rows.length ≤ bytes.length := by
  have hsum := congrArg List.length h.all
  rw [List.length_flatMap] at hsum
  rw [← hsum, ← List.length_map (fun r : Row => r.bytes.length)]
  refine List.length_le_sum_of_one_le _ (List.forall_mem_map.mpr fun r hr => ?_)
  exact List.length_pos_iff.mpr (h.nonempty r hr)

/-! ## The text of a listing -/

theorem mapM_row?_shown {entries : List Entry} (h : ∀ e ∈ entries, e.raw.length ≤ 3) :
    (entries.map Entry.shown).mapM row? = some (entries.map Entry.row) := by
  induction entries with
  | nil => rfl
  | cons e rest ih =>
    obtain ⟨he, hrest⟩ := List.forall_mem_cons.mp h
    rw [List.map_cons, List.mapM_cons, row?_shown he, ih hrest]
    rfl

/-- **A listing covers its program exactly once.** Below the header every line shows a row, there are
no more rows than bytes, and the rows tile the program. -/
theorem render_tiles (bytes : List UInt8) :
    ∃ body rows, render bytes = header ++ body ∧ (Text.lines body.toList).mapM row? = some rows ∧
      Tiles rows bytes ∧ rows.length ≤ bytes.length := by
  have hlisted : ∀ e ∈ ofBytes bytes, IsListed e := fun e => isListed_of_mem_entriesFrom
  have hraw : ∀ e ∈ ofBytes bytes, e.raw ≠ [] ∧ e.raw.length ≤ 3 :=
    fun e => raw_of_mem_entriesFrom
  have hbody : (String.join ((ofBytes bytes).map Entry.line)).toList =
      ((ofBytes bytes).map Entry.shown).flatMap (· ++ ['\n']) := by
    rw [String.toList_join, List.flatMap_map, List.flatMap_map]
    exact List.flatMap_congr fun e he => toList_line (hraw e he).1 (hraw e he).2
  have htiles := tiles_ofBytes bytes
  refine ⟨_, (ofBytes bytes).map Entry.row, rfl, ?_, htiles, htiles.length_le⟩
  rw [hbody, Text.lines_flatMap]
  · exact mapM_row?_shown fun e he => (hraw e he).2
  · exact List.forall_mem_map.mpr fun e he => (hlisted e he).not_mem_shown.1
  · refine List.forall_mem_map.mpr fun e he hlast => ?_
    exact (hlisted e he).not_mem_shown.2 (List.mem_of_getLast? hlast)

end Ls8.Listing
