import Mathlib.Data.List.Induction
import Mathlib.Order.Bounds.Defs
import Ls8.Machine.Memory

/-!
# Programs in memory

Loading one byte more replaces one cell (`read_load_concat`). A program that fits lies in memory as it
is, and the cells behind it are as before (`read_load`). Of a program that comes round to its
beginning, each cell keeps the byte that was written there last (`load_last_writer`).
-/

namespace Ls8.Memory

theorem writeFrom_append (m : Memory) (start : UInt8) (xs ys : List UInt8) :
    m.writeFrom start (xs ++ ys) =
      (m.writeFrom start xs).writeFrom (start + UInt8.ofNat xs.length) ys := by
  induction xs generalizing m start with
  | nil =>
    show m.writeFrom start ys = m.writeFrom (start + 0) ys
    rw [UInt8.add_zero]
  | cons x xs ih =>
    rw [List.cons_append, writeFrom, ih, List.length_cons, Nat.add_comm, UInt8.ofNat_add,
      ← UInt8.add_assoc]
    rfl

theorem read_load_concat (m : Memory) (program : List UInt8) (byte address : UInt8) :
    (m.load (program ++ [byte])).read address =
      if address = UInt8.ofNat program.length then byte else (m.load program).read address := by
  rw [load, writeFrom_append, UInt8.zero_add, writeFrom, writeFrom, read_write, ← load]

theorem read_load (m : Memory) {program : List UInt8} (h : program.length ≤ 256) {i : Nat}
    (hi : i < 256) :
    (m.load program).read (UInt8.ofNat i) = program.getD i (m.read (UInt8.ofNat i)) := by
  induction program using List.reverseRecOn with
  | nil => rfl
  | append_singleton program byte ih =>
    rw [List.length_append, List.length_singleton] at h
    have hlength : program.length < 256 := h
    have hcell : UInt8.ofNat i = UInt8.ofNat program.length ↔ i = program.length := by
      rw [← UInt8.toNat_inj, UInt8.toNat_ofNat_of_lt' hi, UInt8.toNat_ofNat_of_lt' hlength]
    rw [read_load_concat, ih (Nat.le_of_lt hlength), List.getD_eq_getElem?_getD, List.getD_eq_getElem?_getD]
    split
    · rename_i heq
      rw [hcell.mp heq, List.getElem?_concat_length, Option.getD_some]
    · rename_i hne
      rw [hcell] at hne
      rcases Nat.lt_or_gt_of_ne hne with hlt | hgt
      · rw [List.getElem?_append_left hlt]
      · rw [List.getElem?_eq_none (by omega), List.getElem?_eq_none (by simp; omega)]

/-! ## Programs of any length -/

/-- The positions in a program of the bytes that go to an address. -/
def writers (program : List UInt8) (address : UInt8) : Set ℕ :=
  {i | i < program.length ∧ i % 256 = address.toNat}

variable {program : List UInt8} {address byte : UInt8}

theorem eq_ofNat_iff (address : UInt8) (i : ℕ) :
    address = UInt8.ofNat i ↔ i % 256 = address.toNat := by
  rw [← UInt8.toNat_inj, UInt8.toNat_ofNat', eq_comm]

theorem writers_nil (address : UInt8) : writers [] address = ∅ := by
  ext j
  exact iff_of_false (fun hj => Nat.not_lt_zero j hj.1) id

theorem isGreatest_writers_concat (h : address = UInt8.ofNat program.length) :
    IsGreatest (writers (program ++ [byte]) address) program.length := by
  constructor
  · exact ⟨by simp, (eq_ofNat_iff address _).mp h⟩
  · rintro j ⟨hj, -⟩
    rw [List.length_append, List.length_singleton] at hj
    exact Nat.le_of_lt_succ hj

theorem writers_concat_of_ne (h : address ≠ UInt8.ofNat program.length) :
    writers (program ++ [byte]) address = writers program address := by
  ext j
  show j < (program ++ [byte]).length ∧ _ ↔ j < program.length ∧ _
  rw [List.length_append, List.length_singleton, Nat.lt_succ_iff_lt_or_eq]
  constructor
  · rintro ⟨hj | rfl, hcell⟩
    · exact ⟨hj, hcell⟩
    · exact absurd ((eq_ofNat_iff address _).mpr hcell) h
  · rintro ⟨hj, hcell⟩
    exact ⟨.inl hj, hcell⟩

/-- **The last writer wins.** Loading a program of any length answers its length. Afterwards a cell
holds the last of the bytes whose position is its address modulo 256, and what it held before if
there is none. -/
theorem load_last_writer (m : Memory) (program : List UInt8) (address : UInt8) :
    let after := (m.loadProgram program).2
    (m.loadProgram program).1 = program.length ∧
      ((∃ i, IsGreatest (writers program address) i ∧
          program[i]? = some (after.read address)) ∨
        writers program address = ∅ ∧ after.read address = m.read address) := by
  simp only [loadProgram, true_and]
  -- on the program from its end: the byte that is written last decides about its own cell only
  induction program using List.reverseRecOn with
  | nil => exact .inr ⟨writers_nil address, rfl⟩
  | append_singleton program byte ih =>
    rw [read_load_concat]
    by_cases h : address = UInt8.ofNat program.length
    · rw [if_pos h]
      exact .inl ⟨program.length, isGreatest_writers_concat h, List.getElem?_concat_length⟩
    · rw [if_neg h, writers_concat_of_ne h]
      rcases ih with ⟨i, hi, hbyte⟩ | hnone
      · refine .inl ⟨i, hi, ?_⟩
        rw [List.getElem?_append_left hi.1.1, hbyte]
      · exact .inr hnone

end Ls8.Memory
