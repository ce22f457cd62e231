import Mathlib.Data.List.Induction
import Ls8.Proofs.Machine.Effects

/-!
# The stack

Pushes and pops make a list of the memory below the stack pointer. `Stacked` says so of a machine and
the values that have been pushed and not yet popped, and says what else is as it was before the first
of them. A push keeps this up as long as there is a cell that holds none of the values, and a pop as
long as there is a value. `stack_bounded`: so it is after any calls that keep the number of values
between 0 and 256, also where the stack wraps around.
-/

namespace Ls8

inductive StackCall where
  | push (value : UInt8)
  | pop
deriving DecidableEq

namespace StackCall

def change : StackCall → Int
  | push _ => 1
  | pop => -1

/-- How many more values have been pushed than popped. -/
def depth (calls : List StackCall) : Int :=
  calls.foldl (fun depth c => depth + c.change) 0

def update (values : List UInt8) : StackCall → List UInt8
  | push value => value :: values
  | pop => values.tail

/-- The values that have been pushed and not yet popped, the latest first. -/
def live (calls : List StackCall) : List UInt8 :=
  calls.foldl update []

/-- There are always between zero and `bound` values that have been pushed and not yet popped. -/
def StaysWithin (bound : Nat) (calls : List StackCall) : Prop :=
  ∀ k ≤ calls.length, 0 ≤ depth (calls.take k) ∧ depth (calls.take k) ≤ bound

instance (bound : Nat) (calls : List StackCall) : Decidable (StaysWithin bound calls) :=
  inferInstanceAs (Decidable (∀ k ≤ calls.length, _ ∧ _))

variable {bound : Nat} {calls : List StackCall} {c : StackCall}

@[simp] theorem depth_concat (calls : List StackCall) (c : StackCall) :
    depth (calls ++ [c]) = depth calls + c.change := by
  simp [depth]

@[simp] theorem live_concat (calls : List StackCall) (c : StackCall) :
    live (calls ++ [c]) = update (live calls) c := by
  simp [live]

theorem StaysWithin.take (h : StaysWithin bound calls) (k : Nat) :
    StaysWithin bound (calls.take k) := by
  intro j hj
  rw [List.take_take]
  rw [List.length_take] at hj
  exact h (min j k) (by omega)

theorem StaysWithin.of_concat (h : StaysWithin bound (calls ++ [c])) :
    StaysWithin bound calls ∧ 0 ≤ depth calls + c.change ∧ depth calls + c.change ≤ bound := by
  constructor
  · have hfront := h.take calls.length
    rwa [List.take_left] at hfront
  · have hlast := h (calls ++ [c]).length (Nat.le_refl _)
    rwa [List.take_length, depth_concat] at hlast

end StackCall

namespace Machine

open StackCall (StaysWithin depth depth_concat live live_concat update)

def call (m : Machine) : StackCall → Machine
  | .push value => m.push value
  | .pop => m.pop.2

/-- The address at a distance below the stack pointer. -/
def below (m : Machine) (distance : Nat) : Int :=
  (m.regs.sp.toNat - distance) % 256

/-- Since it was `start` the machine has come to have `values` on its stack, and there have never been
more than `bound`. -/
structure Stacked (start : Machine) (bound : Nat) (values : List UInt8) (m : Machine) : Prop where
  sp : m.regs.sp = start.regs.sp - UInt8.ofNat values.length
  cells : ∀ i v, values[i]? = some v → m.mem.read (m.regs.sp + UInt8.ofNat i) = v
  others : ∀ address, (∀ i, 1 ≤ i → i ≤ bound → address ≠ start.regs.sp - UInt8.ofNat i) →
    m.mem.read address = start.mem.read address
  registers : ∀ r ≠ 7, m.regs.value r = start.regs.value r
  pc : m.regs.pc = start.regs.pc
  fl : m.regs.fl = start.regs.fl

variable {start m : Machine} {bound : Nat} {values : List UInt8} {v : UInt8}
  {calls : List StackCall}

theorem ofNat_succ (n : Nat) : UInt8.ofNat (n + 1) = UInt8.ofNat n + 1 :=
  UInt8.ofNat_add n 1

theorem ofNat_succ_ne_zero {n : Nat} (h : n < 255) : UInt8.ofNat n + 1 ≠ 0 := by
  intro hzero
  have hmod := congrArg UInt8.toNat hzero
  rw [← ofNat_succ, UInt8.toNat_ofNat'] at hmod
  simp at hmod
  omega

theorem toNat_sub_ofNat (base : UInt8) (n : Nat) :
    ((base - UInt8.ofNat n).toNat : Int) = (base.toNat - n) % 256 := by
  have hbase := base.toNat_lt
  rw [UInt8.toNat_sub, UInt8.toNat_ofNat']
  omega

theorem eq_sub_ofNat_iff (address : UInt8) (m : Machine) (n : Nat) :
    address = m.regs.sp - UInt8.ofNat n ↔ address.toNat = m.below n := by
  rw [below, ← toNat_sub_ofNat, Int.natCast_inj, UInt8.toNat_inj]

/-! ## One call -/

theorem stacked_start (m : Machine) (bound : Nat) : Stacked m bound [] m where
  sp := by simp
  cells := by simp
  others _ _ := rfl
  registers _ _ := rfl
  pc := rfl
  fl := rfl

/-- A push goes to the cell below all values, and is not one of theirs unless these fill memory. -/
theorem Stacked.push (h : Stacked start bound values m) (hroom : values.length < bound)
    (hbound : bound ≤ 256) (v : UInt8) : Stacked start bound (v :: values) (m.push v) where
  sp := by
    rw [Machine.push, Registers.sp_setSp, h.sp, List.length_cons, ofNat_succ]
    grind
  cells := by
    intro i w hw
    rw [Machine.push, Registers.sp_setSp, Memory.read_write]
    cases i with
    | zero =>
      rw [if_pos (by simp)]
      exact Option.some.inj hw
    | succ i =>
      obtain ⟨hi, -⟩ := List.getElem?_eq_some_iff.mp hw
      rw [List.length_cons] at hi
      have hne := ofNat_succ_ne_zero (n := i) (by omega)
      have hsp : m.regs.sp - 1 + UInt8.ofNat (i + 1) = m.regs.sp + UInt8.ofNat i := by
        rw [ofNat_succ]
        grind
      rw [hsp, if_neg (by grind)]
      exact h.cells i w hw
  others := by
    intro address hother
    have hbelow := hother (values.length + 1) (by omega) (by omega)
    have hsp : m.regs.sp - 1 = start.regs.sp - UInt8.ofNat (values.length + 1) := by
      rw [h.sp, ofNat_succ]
      grind
    rw [Machine.push, Memory.read_write, hsp, if_neg hbelow]
    exact h.others address hother
  registers := by
    intro r hr
    rw [Machine.push, Registers.value_setSp, if_neg hr, h.registers r hr]
  pc := h.pc
  fl := h.fl

theorem Stacked.pop (h : Stacked start bound (v :: values) m) :
    m.pop.1 = v ∧ Stacked start bound values m.pop.2 := by
  constructor
  · have htop := h.cells 0 v rfl
    show m.mem.read m.regs.sp = v
    simpa using htop
  · refine ⟨?_, ?_, h.others, ?_, h.pc, h.fl⟩
    · rw [Machine.pop, drop, Registers.sp_setSp, h.sp, List.length_cons, ofNat_succ]
      grind
    · intro i w hw
      have hcell := h.cells (i + 1) w hw
      rw [Machine.pop, drop, Registers.sp_setSp]
      rwa [ofNat_succ, UInt8.add_comm (UInt8.ofNat i), ← UInt8.add_assoc] at hcell
    · intro r hr
      rw [Machine.pop, drop, Registers.value_setSp, if_neg hr, h.registers r hr]

theorem exists_of_length_pos (h : 0 < (values.length : Int)) : ∃ v rest, values = v :: rest := by
  cases values with
  | nil => simp at h
  | cons v rest => exact ⟨v, rest, rfl⟩

/-! ## Any calls -/

theorem stacked_calls (hbound : bound ≤ 256) (h : StaysWithin bound calls) :
    depth calls = (live calls).length ∧ Stacked m bound (live calls) (calls.foldl call m) := by
  induction calls using List.reverseRecOn with
  | nil => exact ⟨rfl, stacked_start m bound⟩
  | append_singleton calls c ih =>
    obtain ⟨hbefore, hpositive, hless⟩ := h.of_concat
    obtain ⟨hdepth, hstacked⟩ := ih hbefore
    rw [depth_concat, live_concat, List.foldl_append, List.foldl_cons, List.foldl_nil]
    rw [hdepth] at hpositive hless ⊢
    cases c with
    | push value =>
      rw [StackCall.change] at hless
      exact ⟨rfl, hstacked.push (by omega) hbound value⟩
    | pop =>
      rw [StackCall.change] at hpositive
      have hlength : 0 < ((live calls).length : Int) := by omega
      obtain ⟨v, rest, hvalues⟩ := exists_of_length_pos hlength
      rw [hvalues] at hstacked ⊢
      refine ⟨?_, hstacked.pop.2⟩
      rw [StackCall.change, update, List.tail_cons, List.length_cons]
      omega

/-- **The stack is a bounded list.** Let calls keep the number of values that have been pushed and not
yet popped between 0 and 256. Before each call, and after the last one,

* the stack pointer is as far below where it was at first as there are such values;
* if the call is a pop, it returns the one of them that was pushed last;
* if there are never more than `limit` of them, every cell that is not one of the `limit` cells below
  where the stack pointer was at first holds what it held at first;
* so do all other registers, the counter and the flags. -/
theorem stack_bounded (m : Machine) {calls : List StackCall} (h : StaysWithin 256 calls) (k : Nat) :
    let now := (calls.take k).foldl call m
    let values := live (calls.take k)
    depth (calls.take k) = values.length ∧
      now.regs.sp.toNat = m.below values.length ∧
      (calls[k]? = some .pop → values.head? = some now.pop.1) ∧
      (∀ limit, StaysWithin limit calls → ∀ address : UInt8,
        (∀ i, 1 ≤ i → i ≤ limit → address.toNat ≠ m.below i) →
          now.mem.read address = m.mem.read address) ∧
      (∀ r ≠ 7, now.regs.value r = m.regs.value r) ∧
      now.regs.pc = m.regs.pc ∧ now.regs.fl = m.regs.fl := by
  intro now values
  obtain ⟨hdepth, hstacked⟩ := stacked_calls (m := m) (Nat.le_refl 256) (h.take k)
  refine ⟨hdepth, (eq_sub_ofNat_iff _ m _).mp hstacked.sp, ?_, ?_, hstacked.registers, hstacked.pc,
    hstacked.fl⟩
  · intro hpop
    obtain ⟨hk, hcall⟩ := List.getElem?_eq_some_iff.mp hpop
    have hafter := (h (k + 1) hk).1
    rw [List.take_succ_eq_append_getElem hk, hcall, depth_concat, hdepth, StackCall.change] at hafter
    have hpositive : 0 < ((live (calls.take k)).length : Int) := by omega
    obtain ⟨v, rest, hvalues⟩ := exists_of_length_pos hpositive
    rw [hvalues] at hstacked
    show (live (calls.take k)).head? = some now.pop.1
    rw [hvalues, List.head?_cons, hstacked.pop.1]
  · intro limit hlimit address hother
    have hboth : StaysWithin (min limit 256) (calls.take k) := by
      intro j hj
      have h1 := h.take k j hj
      have h2 := hlimit.take k j hj
      omega
    obtain ⟨-, hstacked⟩ := stacked_calls (m := m) (Nat.min_le_right limit 256) hboth
    refine hstacked.others address fun i h1 hi heq => ?_
    exact hother i h1 (by omega) ((eq_sub_ofNat_iff address m i).mp heq)

/-- A stack that goes below address zero and back, with two values at most. -/
theorem stack_bounded_below_zero :
    let m := { initial with regs := initial.regs.setSp 1 }
    let calls : List StackCall := [.push 7, .push 8, .pop, .push 9, .pop, .pop]
    let now := (calls.take 4).foldl call m
    StaysWithin 256 calls ∧ StaysWithin 2 calls ∧ now.regs.sp.toNat = 0xFF ∧ now.pop.1 = 9 ∧
      now.mem.read 0xFE = m.mem.read 0xFE := by
  intro m calls now
  have hwithin : StaysWithin 256 calls := by decide
  have htwo : StaysWithin 2 calls := by decide
  obtain ⟨_, hsp, htop, hothers, _⟩ := stack_bounded m hwithin 4
  have hvalue : some 9 = some now.pop.1 := htop rfl
  refine ⟨hwithin, htwo, ?_, (Option.some.inj hvalue).symm, hothers 2 htwo 0xFE ?_⟩
  · exact Int.natCast_inj.mp (hsp.trans (by decide +kernel))
  · intro i h1 h2
    obtain rfl | rfl : i = 1 ∨ i = 2 := by omega
    · decide +kernel
    · decide +kernel

end Machine

end Ls8
