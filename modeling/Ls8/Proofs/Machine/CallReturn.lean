import Ls8.Proofs.Machine.Step

/-!
# Calls return

The stack is ordinary memory and nothing guards it, so what brings a subroutine back to its caller
is that no byte put on the stack meanwhile reaches the return address. `return_after_call`: a run
that keeps between 1 and 256 bytes on the stack since a call, and leaves the stack pointer to the
stack, comes back to the instruction behind the call with the stack pointer as it was.

The invariant is `Frame`: how many bytes lie on the stack since the call, and that the deepest of
them is still the return address. A push at depth 255 writes the last cell that is free; one at
depth 256 would come round to the return address.
-/

namespace Ls8

/-- How many more bytes lie on the stack after instructions executed in a row. -/
def Instruction.depth : List Instruction → Int
  | [] => 0
  | i :: is => i.depthChange + depth is

namespace Instruction

@[simp] theorem depth_nil : depth [] = 0 := rfl

@[simp] theorem depth_cons (i : Instruction) (is : List Instruction) :
    depth (i :: is) = i.depthChange + depth is := rfl

@[simp] theorem depth_append (is js : List Instruction) :
    depth (is ++ js) = depth is + depth js := by
  induction is with
  | nil => simp
  | cons i is ih => rw [List.cons_append, depth_cons, depth_cons, ih, Int.add_assoc]

end Instruction

namespace Machine

open Instruction (depth)

/-- Since the stack pointer was at `base`, `n` bytes have come to lie on the stack, and the deepest
of them is `value`. -/
structure Frame (base value : UInt8) (n : Int) (m : Machine) : Prop where
  sp : m.regs.sp = base - UInt8.ofInt n
  cell : m.mem.read (base - 1) = value

theorem ofInt_ne_zero {n : Int} (h1 : 1 ≤ n) (h255 : n ≤ 255) : UInt8.ofInt n ≠ 0 := by
  intro h
  have := congrArg UInt8.toNat h
  simp [UInt8.ofInt] at this
  omega

variable {m after : Machine} {i : Instruction} {base value : UInt8} {n : Int}

theorem Frame.next (h : Frame base value n m) (h1 : 1 ≤ n) (h256 : n + i.depthChange ≤ 256)
    (hdest : i.destination? ≠ some 7) : Frame base value (n + i.depthChange) (m.next i) := by
  constructor
  · rw [next_sp hdest, h.sp, UInt8.ofInt_add]
    grind
  · rw [next_mem]
    cases hp : m.pushed? i with
    | none => exact h.cell
    | some pushed =>
      have hdepth : i.depthChange = 1 := by
        cases i <;> simp_all [pushed?, Instruction.depthChange]
      have hne := ofInt_ne_zero h1 (by omega)
      have hcell : base - 1 ≠ m.regs.sp - 1 := by
        rw [h.sp]
        grind
      simp [h.cell, hcell]

theorem Frame.runs {is : List Instruction} (hrun : Runs m is after) (h : Frame base value n m)
    (hwithin : ∀ k ≤ is.length, 1 ≤ n + depth (is.take k) ∧ n + depth (is.take k) ≤ 256)
    (hdest : ∀ i ∈ is, i.destination? ≠ some 7) : Frame base value (n + depth is) after := by
  induction hrun generalizing n with
  | nil m => simpa using h
  | @cons m middle after i is hstep _ ih =>
    obtain ⟨_, _, rfl⟩ := executes_iff.mp hstep
    have h0 := hwithin 0 (by simp)
    have h1 := hwithin 1 (by simp)
    simp only [List.take_zero, List.take_succ_cons, Instruction.depth_nil,
      Instruction.depth_cons] at h0 h1
    have hnext := h.next (i := i) (by omega) (by omega) (hdest i (by simp))
    have hrest := ih hnext (fun k hk => ?_) (fun j hj => hdest j (by simp [hj]))
    · simpa [Int.add_assoc] using hrest
    · have := hwithin (k + 1) (by simpa using hk)
      simpa [Int.add_assoc] using this

theorem frame_call (m : Machine) (reg : UInt8) :
    Frame m.regs.sp (m.regs.pc + 2) 1 (m.next (.call reg)) := by
  constructor
  · exact next_sp (i := .call reg) (by simp [Instruction.destination?])
  · rw [next_mem]
    simp [pushed?]

/-- With one byte left on the stack, a return goes where that byte says. -/
theorem Frame.ret (h : Frame base value 1 m) :
    (m.next .ret).regs.pc = value ∧ (m.next .ret).regs.sp = base := by
  have hsp : m.regs.sp = base - 1 := h.sp
  constructor
  · have hpc : (m.next .ret).regs.pc = m.mem.read m.regs.sp := rfl
    rw [hpc, hsp, h.cell]
  · rw [next_sp (by simp [Instruction.destination?]), hsp, Instruction.depthChange,
      UInt8.ofInt_neg_one, UInt8.sub_neg, UInt8.sub_add_cancel]

/-- **A call returns.** In a run of successful steps from a call to a return, whatever lies between
them, let there be between 1 and 256 bytes on the stack from the call on until the return takes off
the last of them, and let no instruction between them have the stack pointer as its destination.
Then the return goes to the address behind the call, and the stack pointer is what it was. -/
theorem return_after_call {reg : UInt8} {body : List Instruction}
    (hrun : Runs m (.call reg :: (body ++ [.ret])) after)
    (hwithin : ∀ k ≤ body.length,
      1 ≤ depth (.call reg :: body.take k) ∧ depth (.call reg :: body.take k) ≤ 256)
    (hclosed : depth (.call reg :: (body ++ [.ret])) = 0)
    (hdest : ∀ i ∈ body, i.destination? ≠ some 7) :
    after.regs.pc.toNat = (m.regs.pc.toNat + 2) % 256 ∧ after.regs.r[7] = m.regs.r[7] := by
  obtain ⟨called, hcall, hrest⟩ := runs_cons_iff.mp hrun
  obtain ⟨last, hbody, hret⟩ := runs_append_iff.mp hrest
  obtain ⟨_, _, rfl⟩ := executes_iff.mp hcall
  obtain ⟨_, _, rfl⟩ := executes_iff.mp (runs_singleton_iff.mp hret)
  have hcloses : 1 + depth body = 1 := by
    simp [Instruction.depthChange] at hclosed
    omega
  have hframe := (frame_call m reg).runs hbody
    (fun k hk => by simpa [Instruction.depthChange] using hwithin k hk) hdest
  rw [hcloses] at hframe
  obtain ⟨hpc, hsp⟩ := hframe.ret
  refine ⟨?_, hsp⟩
  rw [hpc, UInt8.toNat_add]
  rfl

/-- A subroutine that calls another and uses the stack, which wraps around below address zero. -/
theorem return_after_nested_call :
    let m : Machine :=
      { withProgram [0x50, 1, 0x50, 2, 0x45, 1, 0x46, 3, 0x11, 0x11] with
        regs := ⟨#v[0, 2, 9, 0, 0, 0, 0, 1], 0, 0⟩ }
    ∃ after, Runs m [.call 1, .call 2, .ret, .push 1, .pop 3, .ret] after ∧
      after.regs.pc.toNat = (0 + 2) % 256 ∧ after.regs.sp = 1 := by
  intro m
  have hrun : Runs m (.call 1 :: ([.call 2, .ret, .push 1, .pop 3] ++ [.ret])) _ :=
    .cons (executes_next (by decide +kernel)) <| .cons (executes_next (by decide +kernel)) <|
    .cons (executes_next (by decide +kernel)) <| .cons (executes_next (by decide +kernel)) <|
    .cons (executes_next (by decide +kernel)) <| .cons (executes_next (by decide +kernel)) <|
    .nil _
  exact ⟨_, hrun, return_after_call hrun (by decide) (by decide) (by decide)⟩

end Machine

end Ls8
