import Ls8.Proofs.Machine.Failure

/-!
# Which registers a step asks for

Register operands are bytes, and the register file refuses those above 7. To see that this never
happens, the register file is watched: an `Inquiry` is work on it together with the numbers that
it was asked for, and it comes to nothing exactly if one of these was too large (`Inquiry.Fair`).
The watched instruction has the result of the instruction itself (`result_inquire`), and decoding lets
only such instructions through that have a result. So all numbers asked for are in range
(`asked_lt`), whatever the memory and the counter.
-/

namespace Ls8

/-- Work on the register file: the numbers of the registers that it asks for, in order, and its
result, which is missing once one of the registers is. -/
structure Inquiry (α : Type) where
  asked : List UInt8
  result : Option α

namespace Inquiry

variable {α β : Type}

instance : Monad Inquiry where
  pure a := ⟨[], some a⟩
  bind x f :=
    match x.result with
    | some a => ⟨x.asked ++ (f a).asked, (f a).result⟩
    | none => ⟨x.asked, none⟩

@[simp] theorem result_pure (a : α) : (pure a : Inquiry α).result = some a := rfl

@[simp] theorem result_bind (x : Inquiry α) (f : α → Inquiry β) :
    (x >>= f).result = x.result.bind fun a => (f a).result := by
  simp only [bind]
  cases x.result <;> rfl

theorem result_bind_pure (x : Inquiry α) (f : α → β) :
    (x >>= fun a => pure (f a)).result = x.result.map f := by
  rw [result_bind]
  exact (Option.map_eq_bind).symm

/-- There is no result exactly if one of the registers asked for is missing. -/
def Fair (x : Inquiry α) : Prop :=
  x.result = none ↔ ∃ r ∈ x.asked, 8 ≤ r

theorem fair_pure (a : α) : (pure a : Inquiry α).Fair := by
  simp [Fair, pure]

theorem Fair.bind {x : Inquiry α} {f : α → Inquiry β} (hx : x.Fair) (hf : ∀ a, (f a).Fair) :
    (x >>= f).Fair := by
  unfold Fair at hx ⊢
  simp only [Bind.bind]
  cases hresult : x.result with
  | none => simpa [hresult] using hx
  | some a =>
    have hbefore : ¬∃ r ∈ x.asked, 8 ≤ r := fun h => by simp [hx.mpr h] at hresult
    refine (hf a).trans ?_
    constructor
    · rintro ⟨r, hr, hr8⟩
      exact ⟨r, List.mem_append_right _ hr, hr8⟩
    · rintro ⟨r, hr, hr8⟩
      rcases List.mem_append.mp hr with hr | hr
      · exact absurd ⟨r, hr, hr8⟩ hbefore
      · exact ⟨r, hr, hr8⟩

end Inquiry

/-! ## The register file, watched -/

namespace Registers

def inquireGet (regs : Registers) (index : UInt8) : Inquiry UInt8 :=
  ⟨[index], regs.get? index⟩

def inquireSet (regs : Registers) (index value : UInt8) : Inquiry Registers :=
  ⟨[index], regs.set? index value⟩

def inquireCompute (regs : Registers) (op : Operation) (a b : UInt8) : Inquiry Registers := do
  let x ← regs.inquireGet a
  let y ← regs.inquireGet b
  match op.result? x y with
  | some value => regs.inquireSet a value
  | none => pure regs

variable (regs : Registers)

theorem fair_inquireGet (index : UInt8) : (regs.inquireGet index).Fair := by
  simp [Inquiry.Fair, inquireGet, get?, UInt8.le_iff_toNat_le]

theorem fair_inquireSet (index value : UInt8) : (regs.inquireSet index value).Fair := by
  simp [Inquiry.Fair, inquireSet, set?, UInt8.le_iff_toNat_le]

theorem fair_inquireCompute (op : Operation) (a b : UInt8) :
    (regs.inquireCompute op a b).Fair := by
  refine (regs.fair_inquireGet a).bind fun x => (regs.fair_inquireGet b).bind fun y => ?_
  split
  · exact regs.fair_inquireSet a _
  · exact Inquiry.fair_pure regs

theorem result_inquireCompute (op : Operation) (a b : UInt8) :
    (regs.inquireCompute op a b).result = regs.compute? op a b := by
  rw [inquireCompute, compute?, Inquiry.result_bind]
  refine Option.bind_congr fun x _ => ?_
  rw [Inquiry.result_bind]
  refine Option.bind_congr fun y _ => ?_
  cases op.result? x y <;> rfl

end Registers

namespace Machine

/-- What `apply` does, with the register file watched. -/
def inquire (m : Machine) : Instruction → Inquiry Machine
  | .hlt => pure { m with state := .halted }
  | .ldi reg value => do return { m with regs := ← m.regs.inquireSet reg value }
  | .prn reg => do
    let _ ← m.regs.inquireGet reg
    return m
  | .mul a b => do return { m with regs := ← m.regs.inquireCompute .mul a b }
  | .add a b => do return { m with regs := ← m.regs.inquireCompute .add a b }
  | .pop reg => do return { m.drop with regs := ← m.drop.regs.inquireSet reg m.top }
  | .push reg => do return m.push (← m.regs.inquireGet reg)
  | .call reg => do
    let pushed := m.push (m.regs.pc + 2)
    return pushed.jump (← pushed.regs.inquireGet reg)
  | .ret => pure (m.drop.jump m.top)

/-- The numbers of the registers that a step asks for. -/
def asked (m : Machine) : List UInt8 :=
  if m.state = .running then
    match m.fetch with
    | .ok i => (m.inquire i).asked
    | .error _ => []
  else []

variable {m : Machine} {i : Instruction}

theorem fair_inquire (m : Machine) (i : Instruction) : (m.inquire i).Fair := by
  have hpure (a : Machine) : (pure a : Inquiry Machine).Fair := Inquiry.fair_pure a
  cases i with
  | hlt | ret => exact hpure _
  | ldi reg value => exact (m.regs.fair_inquireSet reg value).bind fun _ => hpure _
  | prn reg | push reg => exact (m.regs.fair_inquireGet reg).bind fun _ => hpure _
  | mul a b => exact (m.regs.fair_inquireCompute .mul a b).bind fun _ => hpure _
  | add a b => exact (m.regs.fair_inquireCompute .add a b).bind fun _ => hpure _
  | pop reg => exact (m.drop.regs.fair_inquireSet reg m.top).bind fun _ => hpure _
  | call reg =>
    exact ((m.push (m.regs.pc + 2)).regs.fair_inquireGet reg).bind fun _ => hpure _

theorem result_inquire (m : Machine) (i : Instruction) : (m.inquire i).result = m.apply i := by
  cases i with
  | hlt | ret => rfl
  | ldi | prn | pop | push | call => exact Inquiry.result_bind_pure _ _
  | mul a b | add a b =>
    rw [apply, compute?, ← Registers.result_inquireCompute]
    exact Inquiry.result_bind_pure _ _

theorem asked_lt (m : Machine) : ∀ r ∈ m.asked, r < 8 := by
  intro r hr
  unfold asked at hr
  split at hr
  · split at hr
    · rename_i i hf
      have hresult : (m.inquire i).result ≠ none := by
        rw [result_inquire, apply_of_registers (fetch_eq_ok_iff.mp hf).2]
        simp
      exact UInt8.not_le.mp fun h8 => hresult ((fair_inquire m i).mpr ⟨r, hr, h8⟩)
    · simp at hr
  · simp at hr

theorem step_ne_missingRegister (m : Machine) (out : Sink) :
    (m.step out).result ≠ .error .missingRegister := by
  rcases hstep : m.step out with ⟨after, sink, e | i⟩
  · rcases step_eq_error_iff.mp hstep with
      ⟨_, _, _, rfl⟩ | ⟨_, _, ⟨_, _, _, rfl⟩ | ⟨_, _, _, _, rfl⟩⟩ <;> simp
  · simp

theorem registers_lt_of_step {out : Sink} (h : (m.step out).result = .ok i) :
    ∀ r ∈ i.registers, r < 8 := by
  rcases hstep : m.step out with ⟨after, sink, e | j⟩
  · simp [hstep] at h
  · obtain rfl : j = i := by simpa [hstep] using h
    exact (fetch_eq_ok_iff.mp (step_eq_ok_iff.mp hstep).2.1).2

end Machine

end Ls8
