import Ls8.Proofs.Machine.Failure

/-!
# What an instruction changes

The opcode table with numbers instead of bytes: the counter, each cell and each register after an
instruction, from the numbers before it. All arithmetic is modulo 256. `step_effects` says that a
step that succeeds does what the table says and leaves everything else alone, whichever registers
coincide and whatever the stack hits.
-/

namespace Ls8

namespace Registers

variable {regs : Registers} {index v : UInt8}

theorem value_update (h : index < 8) (r : UInt8) :
    (regs.update index v).value r = if r = index then v else regs.value r := by
  have h8 : index.toNat < 8 := h
  rw [update_of_lt h8]
  by_cases hr : r.toNat < 8
  · rw [value_of_lt hr, value_of_lt hr, Vector.getElem_set]
    simp only [UInt8.toNat_inj, eq_comm]
  · have hne : r ≠ index := fun heq => hr (heq ▸ h8)
    simp [value, get?, hr, hne]

theorem setSp_eq_update : regs.setSp v = regs.update 7 v := by
  rw [update_of_lt (by decide)]
  rfl

theorem sp_eq_value : regs.sp = regs.value 7 := by
  rw [value_of_lt (by decide)]
  rfl

theorem value_setSp (r : UInt8) : (regs.setSp v).value r = if r = 7 then v else regs.value r := by
  rw [setSp_eq_update, value_update (by decide)]

@[simp] theorem fl_update : (regs.update index v).fl = regs.fl := by
  rcases Nat.lt_or_ge index.toNat 8 with h8 | h8
  · rw [update_of_lt h8]
  · rw [update_of_le h8]

end Registers

namespace Machine

/-! ## The table -/

def registerNumber (m : Machine) (r : UInt8) : Nat :=
  (m.regs.value r).toNat

def cellNumber (m : Machine) (address : UInt8) : Nat :=
  (m.mem.read address).toNat

/-- Where the counter is after an instruction. -/
def counterAfter (m : Machine) : Instruction → Nat
  | .call reg => if reg = 7 then (m.registerNumber 7 + 255) % 256 else m.registerNumber reg
  | .ret => m.cellNumber m.regs.sp
  | _ => (m.regs.pc.toNat + (instructionLength (m.mem.read m.regs.pc)).toNat) % 256

/-- What a cell holds after an instruction. -/
def cellAfter (m : Machine) (i : Instruction) (address : UInt8) : Nat :=
  match i with
  | .push reg =>
    if address.toNat = (m.registerNumber 7 + 255) % 256 then m.registerNumber reg
    else m.cellNumber address
  | .call _ =>
    if address.toNat = (m.registerNumber 7 + 255) % 256 then (m.regs.pc.toNat + 2) % 256
    else m.cellNumber address
  | .hlt | .ldi .. | .prn _ | .mul .. | .add .. | .pop _ | .ret => m.cellNumber address

/-- What a register holds after an instruction. -/
def registerAfter (m : Machine) (i : Instruction) (r : UInt8) : Nat :=
  match i with
  | .hlt | .prn _ => m.registerNumber r
  | .ldi reg value => if r = reg then value.toNat else m.registerNumber r
  | .mul a b =>
    if r = a then m.registerNumber a * m.registerNumber b % 256 else m.registerNumber r
  | .add a b =>
    if r = a then (m.registerNumber a + m.registerNumber b) % 256 else m.registerNumber r
  | .pop reg =>
    if r = reg then m.cellNumber m.regs.sp
    else if r = 7 then (m.registerNumber 7 + 1) % 256
    else m.registerNumber r
  | .push _ | .call _ => if r = 7 then (m.registerNumber 7 + 255) % 256 else m.registerNumber r
  | .ret => if r = 7 then (m.registerNumber 7 + 1) % 256 else m.registerNumber r

def textOf (m : Machine) : Instruction → String
  | .prn reg => toString (m.registerNumber reg) ++ "\n"
  | _ => ""

/-! ## One instruction -/

variable {m after : Machine} {i : Instruction} {out sink : Sink}

theorem toNat_sub_one (x : UInt8) : (x - 1).toNat = (x.toNat + 255) % 256 := by
  rw [UInt8.toNat_sub, Nat.add_comm]
  rfl

theorem toNat_add_one (x : UInt8) : (x + 1).toNat = (x.toNat + 1) % 256 :=
  UInt8.toNat_add x 1

theorem eq_below_iff (m : Machine) (address : UInt8) :
    address = m.regs.sp - 1 ↔ address.toNat = (m.registerNumber 7 + 255) % 256 := by
  rw [← UInt8.toNat_inj, toNat_sub_one, Registers.sp_eq_value, registerNumber]

theorem next_fl : (m.next i).regs.fl = m.regs.fl := by
  have heffect : (m.effect i).regs.fl = m.regs.fl := by
    cases i with
    | hlt | prn | push | call | ret => rfl
    | ldi | mul | add | pop => exact Registers.fl_update
  rw [next, proceed]
  split <;> exact heffect

theorem pc_next (hf : m.fetch = .ok i) : (m.next i).regs.pc.toNat = m.counterAfter i := by
  have hopcode : i.opcode.byte = m.mem.read m.regs.pc :=
    (List.cons_prefix_cons.mp (fetch_eq_ok_iff.mp hf).1).1
  cases i with
  | call reg =>
    have htarget : (m.next (.call reg)).regs.pc =
        (m.regs.setSp (m.regs.sp - 1)).value reg := rfl
    rw [htarget, Registers.value_setSp, apply_ite UInt8.toNat, toNat_sub_one,
      Registers.sp_eq_value]
    rfl
  | ret => rfl
  | hlt | ldi | prn | mul | add | pop | push =>
    rw [next_pc rfl, hopcode, UInt8.toNat_add]
    rfl

theorem cellNumber_next (address : UInt8) :
    (m.next i).cellNumber address = m.cellAfter i address := by
  rw [cellNumber, next_mem]
  cases i with
  | push reg | call reg =>
    simp only [pushed?, Option.elim_some, Memory.read_write, cellAfter, eq_below_iff,
      apply_ite UInt8.toNat, UInt8.toNat_add]
    rfl
  | hlt | ldi | prn | mul | add | pop | ret => rfl

theorem registerNumber_next (hregisters : ∀ r ∈ i.registers, r < 8) (r : UInt8) :
    (m.next i).registerNumber r = m.registerAfter i r := by
  rw [registerNumber, Registers.value_congr next_r]
  cases i with
  | hlt | prn => rfl
  | ldi reg value =>
    simp only [Instruction.registers, List.forall_mem_singleton] at hregisters
    rw [effect, Registers.value_update hregisters, registerAfter, apply_ite UInt8.toNat]
    rfl
  | mul a b =>
    obtain ⟨ha, _⟩ : a < 8 ∧ b < 8 := by simpa [Instruction.registers] using hregisters
    rw [effect, Registers.value_update ha, registerAfter, apply_ite UInt8.toNat, UInt8.toNat_mul]
    rfl
  | add a b =>
    obtain ⟨ha, _⟩ : a < 8 ∧ b < 8 := by simpa [Instruction.registers] using hregisters
    rw [effect, Registers.value_update ha, registerAfter, apply_ite UInt8.toNat, UInt8.toNat_add]
    rfl
  | pop reg =>
    simp only [Instruction.registers, List.forall_mem_singleton] at hregisters
    rw [effect, Registers.value_update hregisters, drop, Registers.value_setSp, registerAfter,
      apply_ite UInt8.toNat, apply_ite UInt8.toNat, toNat_add_one, Registers.sp_eq_value]
    rfl
  | push | call =>
    have hbelow : ((m.regs.setSp (m.regs.sp - 1)).value r).toNat =
        if r = 7 then (m.registerNumber 7 + 255) % 256 else m.registerNumber r := by
      rw [Registers.value_setSp, apply_ite UInt8.toNat, toNat_sub_one, Registers.sp_eq_value]
      rfl
    exact hbelow
  | ret =>
    have habove : ((m.regs.setSp (m.regs.sp + 1)).value r).toNat =
        if r = 7 then (m.registerNumber 7 + 1) % 256 else m.registerNumber r := by
      rw [Registers.value_setSp, apply_ite UInt8.toNat, toNat_add_one, Registers.sp_eq_value]
      rfl
    exact habove

theorem printed_eq_textOf (hf : m.fetch = .ok i) :
    m.printed i = Utf8.encode (m.textOf i).toList := by
  cases i with
  | prn reg => exact printed_prn hf
  | hlt | ldi | mul | add | pop | push | call | ret => rfl

/-- **An instruction does what the table says and nothing else.** After a step that succeeds the
flags are as they were and one more instruction is counted. The counter, every cell and every
register hold the numbers of the table, which are those before the step except where the instruction
says otherwise; the length of the instruction is that of the byte that was fetched, even if the step
has overwritten it. The run state changes only with a halt, and the sink takes the printed text. -/
theorem step_effects (h : m.step out = ⟨after, sink, .ok i⟩) :
    after.regs.fl = m.regs.fl ∧
      after.cycles = m.cycles + 1 ∧
      after.regs.pc.toNat = m.counterAfter i ∧
      (∀ address, after.cellNumber address = m.cellAfter i address) ∧
      (∀ r, after.registerNumber r = m.registerAfter i r) ∧
      after.state = (if i = .hlt then .halted else .running) ∧
      after.last = some i ∧
      sink.taken.toList = out.taken.toList ++ Utf8.encode (m.textOf i).toList := by
  obtain ⟨hs, hf, hroom, rfl, rfl⟩ := step_eq_ok_iff.mp h
  refine ⟨next_fl, next_cycles, pc_next hf, cellNumber_next, ?_, ?_, rfl, ?_⟩
  · exact registerNumber_next (fetch_eq_ok_iff.mp hf).2
  · rw [next_state, hs]
  · rw [Sink.toList_taken_of_hasRoom hroom, printed_eq_textOf hf]

/-- A push of the stack pointer that overwrites its own opcode with that of a shorter
instruction. -/
theorem step_effects_push_onto_itself :
    let m : Machine :=
      { withProgram [0x45, 7] with regs := ⟨#v[0, 0, 0, 0, 0, 0, 0, 1], 0, 5⟩ }
    ∃ after, m.step .unlimited = ⟨after, .unlimited, .ok (.push 7)⟩ ∧ after.regs.fl = 5 ∧
      after.regs.pc.toNat = 2 ∧ after.cellNumber 0 = 1 ∧ after.cellNumber 1 = 7 ∧
      after.registerNumber 7 = 0 := by
  intro m
  have h : m.step .unlimited = ⟨m.next (.push 7), .unlimited, .ok (.push 7)⟩ :=
    step_eq_ok_iff.mpr ⟨rfl, fetch_eq_ok_iff.mpr (by decide +kernel), rfl, rfl, rfl⟩
  obtain ⟨hfl, _, hpc, hcell, hregister, _⟩ := step_effects h
  exact ⟨_, h, hfl, hpc.trans (by decide +kernel), (hcell 0).trans (by decide +kernel),
    (hcell 1).trans (by decide +kernel), (hregister 7).trans (by decide +kernel)⟩

end Machine

end Ls8
