import Ls8.Machine.Run
import Ls8.Proofs.Decoding

/-!
# Successful steps

A step decodes before it executes, so every register it touches exists. Where registers exist the
machine's partial operations are total ones (`Registers.value`, `Registers.update`), and a step
that succeeds takes the machine to `next`:

* `fetch_eq_ok_iff`: when an instruction is found at the counter;
* `step_of_fetch`, `step_eq_ok_iff`: what a step then does, and when it succeeds;
* `next_pc`, `next_r`, `next_sp`, `next_mem`: the counter, the registers, the stack pointer and the
  memory afterwards.

`Runs` strings such steps together; each of them may print to a sink of its own.
-/

namespace Ls8

/-! ## Registers that exist -/

namespace Registers

/-- The value of a general register; zero if there is none of that number. -/
def value (regs : Registers) (index : UInt8) : UInt8 :=
  (regs.get? index).getD 0

/-- The registers with a general register replaced, if there is one of that number. -/
def update (regs : Registers) (index value : UInt8) : Registers :=
  (regs.set? index value).getD regs

variable {regs regs' : Registers} {index v : UInt8}

theorem value_congr (h : regs'.r = regs.r) (index : UInt8) :
    regs'.value index = regs.value index := by
  rw [value, get?, h]
  rfl

theorem get?_of_lt (h : index < 8) : regs.get? index = some (regs.value index) := by
  have h8 : index.toNat < 8 := h
  simp [value, get?, h8]

theorem set?_of_lt (h : index < 8) : regs.set? index v = some (regs.update index v) := by
  have h8 : index.toNat < 8 := h
  simp [update, set?, h8]

theorem value_of_lt (h : index.toNat < 8) : regs.value index = regs.r[index.toNat] := by
  simp [value, get?, h]

theorem update_of_lt (h : index.toNat < 8) :
    regs.update index v = { regs with r := regs.r.set index.toNat v } := by
  simp [update, set?, h]

theorem update_of_le (h : 8 ≤ index.toNat) : regs.update index v = regs := by
  simp [update, set?, Nat.not_lt.mpr h]

@[simp] theorem sp_setSp : (regs.setSp v).sp = v := by
  simp [sp, setSp]

theorem sp_update (h : index ≠ 7) : (regs.update index v).sp = regs.sp := by
  have h7 : index.toNat ≠ 7 := fun h' => h (UInt8.toNat_inj.mp h')
  rcases Nat.lt_or_ge index.toNat 8 with h8 | h8
  · rw [update_of_lt h8, sp, sp]
    exact Vector.getElem_set_ne h8 (by decide) h7
  · rw [update_of_le h8]

@[simp] theorem pc_update : (regs.update index v).pc = regs.pc := by
  rcases Nat.lt_or_ge index.toNat 8 with h8 | h8
  · rw [update_of_lt h8]
  · rw [update_of_le h8]

theorem compute?_mul {a b : UInt8} (ha : a < 8) (hb : b < 8) :
    regs.compute? .mul a b = some (regs.update a (regs.value a * regs.value b)) := by
  simp [compute?, get?_of_lt ha, get?_of_lt hb, set?_of_lt ha, Operation.result?]

theorem compute?_add {a b : UInt8} (ha : a < 8) (hb : b < 8) :
    regs.compute? .add a b = some (regs.update a (regs.value a + regs.value b)) := by
  simp [compute?, get?_of_lt ha, get?_of_lt hb, set?_of_lt ha, Operation.result?]

end Registers

namespace Instruction

/-- The general register that an instruction names as its destination. -/
def destination? : Instruction → Option UInt8
  | ldi reg _ | pop reg => some reg
  | mul a _ | add a _ => some a
  | hlt | prn _ | push _ | call _ | ret => none

/-- An instruction puts a byte on the stack or takes one off. -/
def depthChange : Instruction → Int
  | push _ | call _ => 1
  | pop _ | ret => -1
  | hlt | ldi .. | prn _ | mul .. | add .. => 0

end Instruction

namespace Machine

/-! ## What an instruction does -/

/-- The machine after what an instruction on existing registers does besides moving the counter
on. -/
def effect (m : Machine) : Instruction → Machine
  | .hlt => { m with state := .halted }
  | .ldi reg value => { m with regs := m.regs.update reg value }
  | .prn _ => m
  | .mul a b => { m with regs := m.regs.update a (m.regs.value a * m.regs.value b) }
  | .add a b => { m with regs := m.regs.update a (m.regs.value a + m.regs.value b) }
  | .pop reg => { m.drop with regs := m.drop.regs.update reg m.top }
  | .push reg => m.push (m.regs.value reg)
  | .call reg => (m.push (m.regs.pc + 2)).jump ((m.push (m.regs.pc + 2)).regs.value reg)
  | .ret => m.drop.jump m.top

/-- The machine after a step that found an instruction on existing registers. -/
def next (m : Machine) (i : Instruction) : Machine :=
  ((m.effect i).proceed i (instructionLength i.opcode.byte)).count i

variable {m after : Machine} {i : Instruction} {out sink : Sink}

theorem apply_of_registers (h : ∀ r ∈ i.registers, r < 8) : m.apply i = some (m.effect i) := by
  cases i with
  | hlt | ret => rfl
  | ldi reg value =>
    simp only [Instruction.registers, List.forall_mem_singleton] at h
    simp [apply, effect, setRegister?, Registers.set?_of_lt h]
  | prn reg =>
    simp only [Instruction.registers, List.forall_mem_singleton] at h
    simp [apply, effect, Registers.get?_of_lt h]
  | mul a b =>
    obtain ⟨ha, hb⟩ : a < 8 ∧ b < 8 := by simpa [Instruction.registers] using h
    simp [apply, effect, Machine.compute?, Registers.compute?_mul ha hb]
  | add a b =>
    obtain ⟨ha, hb⟩ : a < 8 ∧ b < 8 := by simpa [Instruction.registers] using h
    simp [apply, effect, Machine.compute?, Registers.compute?_add ha hb]
  | pop reg =>
    simp only [Instruction.registers, List.forall_mem_singleton] at h
    simp [apply, effect, setRegister?, Registers.set?_of_lt h]
  | push reg =>
    simp only [Instruction.registers, List.forall_mem_singleton] at h
    simp [apply, effect, Registers.get?_of_lt h]
  | call reg =>
    simp only [Instruction.registers, List.forall_mem_singleton] at h
    simp [apply, effect, Registers.get?_of_lt h]

theorem fetch_eq_ok_iff :
    m.fetch = .ok i ↔
      i.encode <+: [m.mem.read m.regs.pc, m.mem.read (m.regs.pc + 1), m.mem.read (m.regs.pc + 2)] ∧
        ∀ r ∈ i.registers, r < 8 :=
  Instruction.decode_eq_ok_iff

theorem execute_of_fetch (h : m.fetch = .ok i) : m.execute i = some (m.next i) := by
  obtain ⟨hbytes, hregisters⟩ := fetch_eq_ok_iff.mp h
  have hopcode : m.opcodeByte = i.opcode.byte := (List.cons_prefix_cons.mp hbytes).1.symm
  rw [execute, apply_of_registers hregisters, hopcode]
  rfl

theorem step_of_fetch (hs : m.state = .running) (hf : m.fetch = .ok i) :
    m.step out =
      if out.hasRoom (m.printed i) then ⟨m.next i, out.accept (m.printed i), .ok i⟩
      else ⟨m.fail, out.accept (m.printed i), .error (.output out.refusal)⟩ := by
  simp only [step, hs, ne_eq, not_true_eq_false, if_false, hf, execute_of_fetch hf, Sink.write]
  cases out.hasRoom (m.printed i) <;> rfl

/-- **A step succeeds** exactly when the machine goes on, there is an instruction at the counter
and the sink has room for what it prints; the machine is then the `next` one. -/
theorem step_eq_ok_iff :
    m.step out = ⟨after, sink, .ok i⟩ ↔
      m.state = .running ∧ m.fetch = .ok i ∧ out.hasRoom (m.printed i) ∧
        sink = out.accept (m.printed i) ∧ after = m.next i := by
  by_cases hs : m.state = .running
  · cases hf : m.fetch with
    | error cause => simp [step, hs, hf]
    | ok j =>
      rw [step_of_fetch hs hf]
      constructor
      · intro h
        split at h
        · rename_i hroom
          cases h
          exact ⟨hs, rfl, hroom, rfl, rfl⟩
        · cases h
      · rintro ⟨_, hj, hroom, rfl, rfl⟩
        cases hj
        rw [if_pos hroom]
  · simp [step, hs]

/-! ## The machine afterwards -/

theorem next_r : (m.next i).regs.r = (m.effect i).regs.r := by
  unfold next proceed
  split <;> rfl

@[simp] theorem next_cycles : (m.next i).cycles = m.cycles + 1 := by
  cases i <;> rfl

theorem next_state : (m.next i).state = if i = .hlt then .halted else m.state := by
  cases i <;> rfl

theorem next_pc (h : i.setsCounter = false) :
    (m.next i).regs.pc = m.regs.pc + instructionLength i.opcode.byte := by
  have hpc : (m.effect i).regs.pc = m.regs.pc := by
    cases i with
    | hlt | prn | push => rfl
    | ldi | mul | add | pop => exact Registers.pc_update
    | call | ret => cases h
  rw [next, proceed, h]
  exact congrArg (· + _) hpc

/-- The byte that an instruction puts on the stack. -/
def pushed? (m : Machine) : Instruction → Option UInt8
  | .push reg => some (m.regs.value reg)
  | .call _ => some (m.regs.pc + 2)
  | _ => none

theorem next_mem :
    (m.next i).mem = (m.pushed? i).elim m.mem (m.mem.write (m.regs.sp - 1)) := by
  cases i <;> rfl

/-- Unless an instruction has the stack pointer as its destination, only the stack moves it. -/
theorem next_sp (h : i.destination? ≠ some 7) :
    (m.next i).regs.sp = m.regs.sp - UInt8.ofInt i.depthChange := by
  have h0 : UInt8.ofInt 0 = 0 := rfl
  have h1 : UInt8.ofInt (-1) = -1 := rfl
  rw [Registers.sp, next_r, ← Registers.sp]
  cases i with
  | hlt | prn _ => rw [Instruction.depthChange, h0, UInt8.sub_zero]; rfl
  | ldi a _ | mul a _ | add a _ =>
    have ha : a ≠ 7 := fun ha => h (ha ▸ rfl)
    rw [Instruction.depthChange, h0, UInt8.sub_zero]
    exact Registers.sp_update ha
  | push _ | call _ => exact Registers.sp_setSp
  | pop a =>
    have ha : a ≠ 7 := fun ha => h (ha ▸ rfl)
    rw [Instruction.depthChange, h1, UInt8.sub_neg]
    exact (Registers.sp_update ha).trans Registers.sp_setSp
  | ret =>
    rw [Instruction.depthChange, h1, UInt8.sub_neg]
    exact Registers.sp_setSp

/-! ## Runs of successful steps -/

/-- `m` executes `i`, printing to some sink, and becomes `after`. -/
def Executes (m : Machine) (i : Instruction) (after : Machine) : Prop :=
  ∃ out sink, m.step out = ⟨after, sink, .ok i⟩

theorem executes_iff :
    m.Executes i after ↔ m.state = .running ∧ m.fetch = .ok i ∧ after = m.next i := by
  constructor
  · rintro ⟨out, sink, h⟩
    obtain ⟨hs, hf, _, _, hafter⟩ := step_eq_ok_iff.mp h
    exact ⟨hs, hf, hafter⟩
  · rintro ⟨hs, hf, hafter⟩
    exact ⟨.unlimited, _, step_eq_ok_iff.mpr ⟨hs, hf, rfl, rfl, hafter⟩⟩

theorem executes_next
    (h : m.state = .running ∧
      i.encode <+: [m.mem.read m.regs.pc, m.mem.read (m.regs.pc + 1), m.mem.read (m.regs.pc + 2)] ∧
        ∀ r ∈ i.registers, r < 8) : m.Executes i (m.next i) :=
  executes_iff.mpr ⟨h.1, fetch_eq_ok_iff.mpr h.2, rfl⟩

/-- A run of successful steps, with the instructions executed in it, in order. -/
inductive Runs : Machine → List Instruction → Machine → Prop
  | nil (m : Machine) : Runs m [] m
  | cons {m middle after : Machine} {i : Instruction} {is : List Instruction} :
      m.Executes i middle → Runs middle is after → Runs m (i :: is) after

theorem runs_cons_iff {is : List Instruction} :
    Runs m (i :: is) after ↔ ∃ middle, m.Executes i middle ∧ Runs middle is after := by
  constructor
  · rintro ⟨⟩
    exact ⟨_, ‹_›, ‹_›⟩
  · rintro ⟨middle, h, hs⟩
    exact .cons h hs

theorem runs_append_iff {is js : List Instruction} :
    Runs m (is ++ js) after ↔ ∃ middle, Runs m is middle ∧ Runs middle js after := by
  induction is generalizing m with
  | nil =>
    constructor
    · intro h
      exact ⟨m, .nil m, h⟩
    · rintro ⟨_, ⟨⟩, h⟩
      exact h
  | cons i is ih =>
    simp only [List.cons_append, runs_cons_iff, ih]
    constructor
    · rintro ⟨first, h, middle, hs, hrest⟩
      exact ⟨middle, ⟨first, h, hs⟩, hrest⟩
    · rintro ⟨middle, ⟨first, h, hs⟩, hrest⟩
      exact ⟨first, h, middle, hs, hrest⟩

theorem runs_singleton_iff : Runs m [i] after ↔ m.Executes i after := by
  rw [runs_cons_iff]
  constructor
  · rintro ⟨_, h, ⟨⟩⟩
    exact h
  · intro h
    exact ⟨after, h, .nil after⟩

end Machine

end Ls8
