import Ls8.Proofs.Listing.Tiling
import Ls8.Proofs.Machine.Memory

/-!
# Listings and walks

The entries of a program that fits in memory are found there again by a walk from address zero
(`walk_shows`). Both read the same bytes, as behind the program memory is zero, until the operands of
a walk wrap around; and both go on by what an entry covers, until the program ends within an entry.
-/

namespace Ls8.Listing

variable {program bytes rest : List UInt8} {ir : UInt8} {address k n : Nat} {e : Entry}

/-! ## A place in memory -/

/-- A place in memory shows what an entry of a program does. The entry is shorter where the program
ends within it, and the texts may differ where operands wrap around. -/
structure Shows (program : List UInt8) (s : Spot) (e : Entry) : Prop where
  address : s.address.toNat = e.address
  text : e.address + 2 ≤ 255 → s.text = e.text
  length : e.raw.length = min s.length.toNat (program.length - e.address)

theorem getD_of_drop (h : program.drop address = bytes) (k : Nat) :
    program.getD (address + k) 0 = bytes.getD k 0 := by
  rw [List.getD_eq_getElem?_getD, List.getD_eq_getElem?_getD, ← h, List.getElem?_drop]

theorem read_loaded (hsize : program.length ≤ 256) (h : program.drop address = bytes)
    (hk : address + k < 256) :
    (Memory.zero.load program).read (UInt8.ofNat address + UInt8.ofNat k) = bytes.getD k 0 := by
  rw [← UInt8.ofNat_add, Memory.read_load _ hsize hk, Memory.read_zero, getD_of_drop h]

theorem length_of_drop (h : program.drop address = ir :: rest) :
    program.length - address = rest.length + 1 := by
  rw [← List.length_drop, h, List.length_cons]

theorem lt_of_drop (h : program.drop address = ir :: rest) : address < program.length := by
  have := length_of_drop h
  omega

theorem read_opcode (hsize : program.length ≤ 256) (h : program.drop address = ir :: rest) :
    (Memory.zero.load program).read (UInt8.ofNat address) = ir := by
  have hread := read_loaded (k := 0) hsize h (Nat.lt_of_lt_of_le (lt_of_drop h) hsize)
  rwa [show UInt8.ofNat 0 = 0 from rfl, UInt8.add_zero] at hread

theorem shows_spot (hsize : program.length ≤ 256) (h : program.drop address = ir :: rest) :
    Shows program (spot (Memory.zero.load program) (UInt8.ofNat address))
      ⟨address, ir :: rest.take ((coverage ir).toNat - 1),
        text ir (rest.getD 0 0) (rest.getD 1 0)⟩ := by
  have haddress : address < 256 := Nat.lt_of_lt_of_le (lt_of_drop h) hsize
  refine ⟨UInt8.toNat_ofNat_of_lt' haddress, fun hend => ?_, ?_⟩
  · have hfirst := read_loaded (k := 1) hsize h (by simp only at hend; omega)
    have hsecond := read_loaded (k := 2) hsize h (by simp only at hend; omega)
    simp only [spot, read_opcode hsize h]
    exact congrArg₂ (text ir) hfirst hsecond
  · have hpos := coverage_pos ir
    simp only [spot, read_opcode hsize h, length_of_drop h, List.length_cons, List.length_take]
    omega

/-! ## The way through memory -/

theorem next_address (hrest : rest.drop ((coverage ir).toNat - 1) ≠ []) :
    address + 1 + (rest.take ((coverage ir).toNat - 1)).length = address + (coverage ir).toNat := by
  have hlt : (coverage ir).toNat - 1 < rest.length := by simpa using hrest
  have hpos := coverage_pos ir
  rw [List.length_take]
  omega

theorem walk_entriesFrom (hsize : program.length ≤ 256) (h : program.drop address = bytes) :
    ∀ {k n : Nat}, (entriesFrom address bytes)[k]? = some e → k < n →
      ∃ s, (walk (Memory.zero.load program) (UInt8.ofNat address) n)[k]? = some s ∧
        Shows program s e := by
  fun_induction entriesFrom address bytes with
  | case1 =>
    intro k n he
    cases he
  | case2 address ir rest size ih =>
    intro k n he hk
    obtain ⟨n, rfl⟩ := Nat.exists_eq_add_one_of_ne_zero (Nat.ne_zero_of_lt hk)
    cases k with
    | zero =>
      cases he
      exact ⟨_, rfl, shows_spot hsize h⟩
    | succ k =>
      rw [List.getElem?_cons_succ] at he
      have hrest : rest.drop size ≠ [] := by
        intro hnil
        rw [hnil, entriesFrom] at he
        cases he
      have hnext : address + 1 + (rest.take size).length = address + (coverage ir).toNat :=
        next_address hrest
      have hdrop : program.drop (address + 1 + (rest.take size).length) = rest.drop size := by
        have hsuffix : (ir :: rest).drop (coverage ir).toNat = rest.drop size := by
          obtain ⟨m, hm⟩ := Nat.exists_eq_add_one.mpr (coverage_pos ir)
          simp only [size, hm, List.drop_succ_cons, Nat.add_sub_cancel]
        rw [hnext, ← List.drop_drop, h, hsuffix]
      obtain ⟨s, hs, hshows⟩ := ih hdrop he (Nat.lt_of_succ_lt_succ hk)
      refine ⟨s, ?_, hshows⟩
      rw [hnext, UInt8.ofNat_add, UInt8.ofNat_toNat] at hs
      rw [walk, List.getElem?_cons_succ]
      simpa only [spot, read_opcode hsize h] using hs

/-! ## The end of the program -/

theorem end_lt (h : (ofBytes program)[k]? = some e) (hk : k + 1 < (ofBytes program).length) :
    e.address + e.raw.length < program.length := by
  obtain ⟨hlt, rfl⟩ := List.getElem?_eq_some_iff.mp h
  have hnext : (ofBytes program)[k + 1].address =
      (ofBytes program)[k].address + (ofBytes program)[k].raw.length :=
    List.isChain_iff_getElem.mp (isChain_entriesFrom 0 program) k hk
  have hmem : (ofBytes program)[k + 1] ∈ ofBytes program := List.getElem_mem hk
  have hpos := List.length_pos_iff.mpr (raw_of_mem_entriesFrom hmem).1
  have hend := end_le_of_mem hmem
  omega

/-- **A walk through memory shows the listing** of the program there, entry by entry. Only the last
entry of the listing may be shorter than what the walk comes to. -/
theorem walk_shows (hsize : program.length ≤ 256) (he : (ofBytes program)[k]? = some e)
    (hk : k < n) :
    ∃ s, (walk (Memory.zero.load program) 0 n)[k]? = some s ∧ Shows program s e ∧
      (k + 1 < (ofBytes program).length → e.raw.length = s.length.toNat) := by
  obtain ⟨s, hs, hshows⟩ := walk_entriesFrom hsize rfl he hk
  refine ⟨s, hs, hshows, fun hlast => ?_⟩
  have hend := end_lt he hlast
  have hlength := hshows.length
  omega

/-- A last instruction that is cut short by the end of memory, where the walk reads on at the
beginning. -/
theorem walk_shows_end_of_memory :
    let program := List.replicate 254 0x01 ++ [0x82, 0x03]
    let e : Entry := ⟨254, [0x82, 0x03], "LDI R3,0"⟩
    program.length ≤ 256 ∧ (ofBytes program)[254]? = some e ∧
      ∃ s, (walk (Memory.zero.load program) 0 255)[254]? = some s ∧ Shows program s e ∧
        (254 + 1 < (ofBytes program).length → e.raw.length = s.length.toNat) := by
  intro program e
  have hsize : program.length ≤ 256 := by decide +kernel
  have he : (ofBytes program)[254]? = some e := by decide +kernel
  exact ⟨hsize, he, walk_shows hsize he (by decide)⟩

end Ls8.Listing
