import Ls8.Proofs.Machine.Run
import Ls8.Proofs.Output

/-!
# Straight-line programs

`Op` is an instruction that neither calls nor returns nor stops, on registers that exist, and
`exec` interprets a list of them on registers and memory, without bytes, counter or fetching.
`run_code`: a machine in whose memory the bytes of such a list and of a halt behind it lie, from the
counter on, runs to the halt and ends with the registers, the memory and the output of `exec`.

Code may lie across the end of memory and may be written to. What the run needs is that no push
writes into the code that is still to be executed (`PushesMiss`); so the invariant of the run is
that this rest of the code is still where it was (`Stored`).
-/

namespace Ls8

namespace StraightLine

/-! ## Programs without bytes -/

inductive Op where
  | ldi (reg : Fin 8) (value : UInt8)
  | prn (reg : Fin 8)
  | mul (a b : Fin 8)
  | add (a b : Fin 8)
  | push (reg : Fin 8)
  | pop (reg : Fin 8)
deriving DecidableEq

/-- What a straight-line program works on. -/
structure Store where
  r : Vector UInt8 8
  mem : Memory
  /-- The text printed so far. -/
  output : String

namespace Store

def get (s : Store) (reg : Fin 8) : UInt8 :=
  s.r[reg]

def set (s : Store) (reg : Fin 8) (value : UInt8) : Store :=
  { s with r := s.r.set reg value }

def sp (s : Store) : UInt8 :=
  s.get 7

end Store

def Op.exec (s : Store) : Op → Store
  | ldi reg value => s.set reg value
  | prn reg => { s with output := s.output ++ (toString (s.get reg).toNat ++ "\n") }
  | mul a b => s.set a (s.get a * s.get b)
  | add a b => s.set a (s.get a + s.get b)
  | push reg => { s.set 7 (s.sp - 1) with mem := s.mem.write (s.sp - 1) (s.get reg) }
  | pop reg => (s.set 7 (s.sp + 1)).set reg (s.mem.read s.sp)

def exec (s : Store) (program : List Op) : Store :=
  program.foldl Op.exec s

/-! ## Their bytes -/

def registerByte (reg : Fin 8) : UInt8 :=
  UInt8.ofNat reg

def Op.instruction : Op → Instruction
  | ldi reg value => .ldi (registerByte reg) value
  | prn reg => .prn (registerByte reg)
  | mul a b => .mul (registerByte a) (registerByte b)
  | add a b => .add (registerByte a) (registerByte b)
  | push reg => .push (registerByte reg)
  | pop reg => .pop (registerByte reg)

def bytes (program : List Op) : List UInt8 :=
  program.flatMap fun op => op.instruction.encode

/-- The bytes of a program and of a halt behind it. -/
def code (program : List Op) : List UInt8 :=
  bytes program ++ Instruction.hlt.encode

/-- Bytes lie in memory, one after the other, from an address on. -/
def Stored (mem : Memory) (address : UInt8) (bs : List UInt8) : Prop :=
  ∀ k (h : k < bs.length), mem.read (address + UInt8.ofNat k) = bs[k]

/-- No push of the program, which lies at `address`, writes a byte of an instruction that is still
to be executed, the halt included. -/
def PushesMiss (address : UInt8) (program : List Op) (s : Store) : Prop :=
  ∀ before reg after, program = before ++ .push reg :: after →
    ∀ k < (code after).length,
      (exec s before).sp - 1 ≠ address + UInt8.ofNat ((bytes (before ++ [.push reg])).length + k)

instance (mem : Memory) (address : UInt8) (bs : List UInt8) : Decidable (Stored mem address bs) :=
  inferInstanceAs (Decidable (∀ k (h : k < bs.length), mem.read (address + UInt8.ofNat k) = bs[k]))

/-! ## Bytes in memory -/

theorem code_cons (op : Op) (program : List Op) :
    code (op :: program) = op.instruction.encode ++ code program := by
  simp [code, bytes]

theorem stored_append_iff {mem : Memory} {address : UInt8} {xs ys : List UInt8} :
    Stored mem address (xs ++ ys) ↔
      Stored mem address xs ∧ Stored mem (address + UInt8.ofNat xs.length) ys := by
  constructor
  · intro h
    refine ⟨fun k hk => ?_, fun k hk => ?_⟩
    · have := h k (by simp; omega)
      rwa [List.getElem_append_left hk] at this
    · have := h (xs.length + k) (by simp; omega)
      rw [List.getElem_append_right (by omega)] at this
      simpa [UInt8.add_assoc] using this
  · rintro ⟨hxs, hys⟩ k hk
    rcases Nat.lt_or_ge k xs.length with hlt | hge
    · rw [List.getElem_append_left hlt]
      exact hxs k hlt
    · have := hys (k - xs.length) (by simp at hk; omega)
      rw [List.getElem_append_right hge, ← this, UInt8.add_assoc, ← UInt8.ofNat_add,
        Nat.add_sub_cancel' hge]

theorem Stored.write {mem : Memory} {address target value : UInt8} {bs : List UInt8}
    (h : Stored mem address bs) (hmiss : ∀ k < bs.length, target ≠ address + UInt8.ofNat k) :
    Stored (mem.write target value) address bs := by
  intro k hk
  rw [Memory.read_write, if_neg (hmiss k hk).symm]
  exact h k hk

theorem Stored.fetched {mem : Memory} {address : UInt8} {bs : List UInt8} (h : Stored mem address bs)
    (h3 : bs.length ≤ 3) :
    bs <+: [mem.read address, mem.read (address + 1), mem.read (address + 2)] := by
  rw [List.prefix_iff_getElem?]
  intro k hk
  have hread := h k hk
  have : k = 0 ∨ k = 1 ∨ k = 2 := by omega
  rcases this with rfl | rfl | rfl <;> simpa using hread

theorem pushesMiss_nil (address : UInt8) (s : Store) : PushesMiss address [] s := by
  intro before reg after hprogram
  simp at hprogram

theorem pushesMiss_cons_iff {address : UInt8} {op : Op} {program : List Op} {s : Store} :
    PushesMiss address (op :: program) s ↔
      (∀ reg, op = .push reg → ∀ k < (code program).length,
        s.sp - 1 ≠ address + UInt8.ofNat op.instruction.encode.length + UInt8.ofNat k) ∧
      PushesMiss (address + UInt8.ofNat op.instruction.encode.length) program (op.exec s) := by
  constructor
  · intro h
    refine ⟨?_, ?_⟩
    · rintro reg rfl k hk
      have := h [] reg program rfl k hk
      simpa [exec, bytes, UInt8.add_assoc] using this
    · intro before reg after hprogram k hk
      have := h (op :: before) reg after (by rw [hprogram]; rfl) k hk
      simpa [exec, bytes, UInt8.add_assoc, Nat.add_assoc] using this
  · rintro ⟨hfirst, hrest⟩ before reg after hprogram k hk
    cases before with
    | nil =>
      obtain ⟨rfl, rfl⟩ := List.cons.inj hprogram
      simpa [exec, bytes, UInt8.add_assoc] using hfirst reg rfl k hk
    | cons first before =>
      obtain ⟨rfl, htail⟩ := List.cons.inj hprogram
      have := hrest before reg after htail k hk
      simpa [exec, bytes, UInt8.add_assoc, Nat.add_assoc] using this

instance decidablePushesMiss :
    (address : UInt8) → (program : List Op) → (s : Store) → Decidable (PushesMiss address program s)
  | address, [], s => isTrue (pushesMiss_nil address s)
  | address, op :: program, s =>
    have := decidablePushesMiss (address + UInt8.ofNat op.instruction.encode.length) program
      (op.exec s)
    decidable_of_iff _ pushesMiss_cons_iff.symm

/-- An instruction leaves the code behind it alone. -/
theorem Stored.exec {address : UInt8} {op : Op} {program : List Op} {s : Store}
    (h : Stored s.mem (address + UInt8.ofNat op.instruction.encode.length) (code program))
    (hmiss : ∀ reg, op = .push reg → ∀ k < (code program).length,
      s.sp - 1 ≠ address + UInt8.ofNat op.instruction.encode.length + UInt8.ofNat k) :
    Stored (op.exec s).mem (address + UInt8.ofNat op.instruction.encode.length) (code program) := by
  cases op with
  | push reg => exact h.write (hmiss reg rfl)
  | ldi | prn | mul | add | pop => exact h

/-! ## One instruction -/

theorem toNat_registerByte (reg : Fin 8) : (registerByte reg).toNat = reg := by
  have := reg.isLt
  simp only [registerByte, UInt8.toNat_ofNat']
  omega

theorem value_registerByte (regs : Registers) (reg : Fin 8) :
    regs.value (registerByte reg) = regs.r[reg] := by
  have h : (registerByte reg).toNat < 8 := toNat_registerByte reg ▸ reg.isLt
  simp [Registers.value_of_lt h, toNat_registerByte]

theorem update_registerByte (regs : Registers) (reg : Fin 8) (v : UInt8) :
    regs.update (registerByte reg) v = { regs with r := regs.r.set reg v } := by
  have h : (registerByte reg).toNat < 8 := toNat_registerByte reg ▸ reg.isLt
  simp [Registers.update_of_lt h, toNat_registerByte]

theorem registers_lt (op : Op) : ∀ r ∈ op.instruction.registers, r < 8 := by
  have h (reg : Fin 8) : registerByte reg < 8 := by
    show (registerByte reg).toNat < 8
    exact toNat_registerByte reg ▸ reg.isLt
  cases op <;> simp [Op.instruction, Instruction.registers, h]

/-- The machine at work on a store. -/
def Store.machine (s : Store) (pc fl : UInt8) (cycles : UInt64) (last : Option Instruction) :
    Machine :=
  ⟨⟨s.r, pc, fl⟩, s.mem, .running, cycles, last⟩

variable {s : Store} {pc fl : UInt8} {cycles : UInt64} {last : Option Instruction} {out : Sink}

theorem sp_registers : Registers.sp ⟨s.r, pc, fl⟩ = s.sp := rfl

theorem setSp_registers (value : UInt8) :
    Registers.setSp ⟨s.r, pc, fl⟩ value = ⟨(s.set 7 value).r, pc, fl⟩ := rfl

theorem next_machine (op : Op) :
    (s.machine pc fl cycles last).next op.instruction =
      (op.exec s).machine (pc + UInt8.ofNat op.instruction.encode.length) fl (cycles + 1)
        (some op.instruction) := by
  have hlength : instructionLength op.instruction.opcode.byte =
      UInt8.ofNat op.instruction.encode.length := by
    rw [Instruction.length_encode, UInt8.ofNat_toNat]
  have hcounter : op.instruction.setsCounter = false := by
    cases op <;> rfl
  rw [Machine.next, hlength, Machine.proceed, hcounter]
  cases op <;> simp [Op.instruction, Machine.effect, Machine.count, Registers.advance,
    Store.machine, value_registerByte, update_registerByte, Op.exec, Machine.push, Machine.drop,
    Machine.top, sp_registers, setSp_registers, Store.get, Store.set]

variable (pc fl cycles last) in
theorem output_exec (op : Op) :
    Utf8.encode (op.exec s).output.toList =
      Utf8.encode s.output.toList ++
        (s.machine pc fl cycles last).printed op.instruction := by
  cases op with
  | prn reg =>
    have hget : (s.machine pc fl cycles last).regs.get? (registerByte reg) =
        some (s.get reg) := by
      rw [Registers.get?_of_lt (registers_lt (.prn reg) _ (by simp [Op.instruction,
        Instruction.registers])), value_registerByte]
      rfl
    rw [Op.instruction, Machine.printed, hget, Option.elim_some, Machine.numberLine_eq, Op.exec,
      String.toList_append, Utf8.encode_append]
  | ldi | mul | add | push | pop => simp [Op.instruction, Machine.printed, Op.exec, Store.set]

theorem step_machine (op : Op) (hout : out.room = none)
    (hstored : Stored s.mem pc op.instruction.encode) :
    (s.machine pc fl cycles last).step (out.accept (Utf8.encode s.output.toList)) =
      ⟨(op.exec s).machine (pc + UInt8.ofNat op.instruction.encode.length) fl (cycles + 1)
          (some op.instruction),
        out.accept (Utf8.encode (op.exec s).output.toList), .ok op.instruction⟩ := by
  refine Machine.step_eq_ok_iff.mpr ⟨rfl, ?_, ?_, ?_, (next_machine op).symm⟩
  · exact Machine.fetch_eq_ok_iff.mpr
      ⟨hstored.fetched (Instruction.length_encode_le _), registers_lt op⟩
  · exact Sink.hasRoom_of_room_none (by simp [hout]) _
  · rw [output_exec pc fl cycles last op, Sink.accept_append]

/-! ## The run -/

theorem step_machine_hlt (hout : out.room = none)
    (hstored : Stored s.mem pc Instruction.hlt.encode) :
    (s.machine pc fl cycles last).step out =
      ⟨{ regs := ⟨s.r, pc + 1, fl⟩, mem := s.mem, state := .halted, cycles := cycles + 1,
         last := some .hlt }, out, .ok .hlt⟩ := by
  refine Machine.step_eq_ok_iff.mpr ⟨rfl, ?_, ?_, ?_, rfl⟩
  · exact Machine.fetch_eq_ok_iff.mpr ⟨hstored.fetched (by decide), by simp [Instruction.registers]⟩
  · exact Sink.hasRoom_of_room_none hout _
  · exact Sink.accept_nil.symm

variable (fl) in
theorem runFor_machine (program : List Op) (hout : out.room = none) :
    ∀ (s : Store) (pc : UInt8) (cycles : UInt64) (last : Option Instruction) (extra : Nat),
      Stored s.mem pc (code program) → PushesMiss pc program s →
        Machine.runFor (program.length + 1 + extra) (s.machine pc fl cycles last)
            (out.accept (Utf8.encode s.output.toList)) =
          ⟨{ regs := ⟨(exec s program).r, pc + UInt8.ofNat (code program).length, fl⟩
             mem := (exec s program).mem
             state := .halted
             cycles := cycles + UInt64.ofNat (program.length + 1)
             last := some .hlt },
            out.accept (Utf8.encode (exec s program).output.toList), .ok ()⟩ := by
  induction program with
  | nil =>
    intro s pc cycles last extra hstored _
    rw [List.length_nil, Nat.zero_add, Nat.add_comm,
      Machine.runFor_succ_of_ok (step_machine_hlt (by simp [hout]) hstored),
      Machine.runFor_of_stopped (by simp)]
    rfl
  | cons op program ih =>
    intro s pc cycles last extra hstored hmiss
    rw [code_cons, stored_append_iff] at hstored
    obtain ⟨hop, hrest⟩ := hstored
    obtain ⟨hfirst, hmiss⟩ := pushesMiss_cons_iff.mp hmiss
    have hrun := ih (op.exec s) _ (cycles + 1) (some op.instruction) extra
      (hrest.exec hfirst) hmiss
    have hlength : (op :: program).length + 1 + extra = program.length + 1 + extra + 1 := by
      simp only [List.length_cons]
      omega
    have hpc : pc + UInt8.ofNat (code (op :: program)).length =
        pc + UInt8.ofNat op.instruction.encode.length + UInt8.ofNat (code program).length := by
      rw [code_cons, List.length_append, UInt8.ofNat_add, UInt8.add_assoc]
    have hcycles : cycles + UInt64.ofNat ((op :: program).length + 1) =
        cycles + 1 + UInt64.ofNat (program.length + 1) := by
      rw [List.length_cons, Nat.add_comm (program.length + 1), UInt64.ofNat_add, UInt64.add_assoc]
      rfl
    rw [hlength, Machine.runFor_succ_of_ok (step_machine op hout hop), hrun, hpc, hcycles]
    rfl

/-- **A machine runs a straight-line program as it is interpreted.** Let the bytes of the program
and of a halt behind it lie in the memory of a running machine, from the counter on, and let no push
write a byte of an instruction that is still to be executed. Then a run with a sink that never
refuses executes every instruction and the halt, and registers, memory and output are those of the
interpretation; the counter stands behind the halt, and the flags are as they were. -/
theorem run_code (program : List Op) (m : Machine) (out : Sink) (hrunning : m.state = .running)
    (hstored : Stored m.mem m.regs.pc (code program))
    (hmiss : PushesMiss m.regs.pc program ⟨m.regs.r, m.mem, ""⟩)
    (hcycles : m.cycles.toNat + program.length + 1 < UInt64.size) (hout : out.room = none) :
    let s := exec ⟨m.regs.r, m.mem, ""⟩ program
    m.run out =
      ⟨{ regs := ⟨s.r, m.regs.pc + UInt8.ofNat (code program).length, m.regs.fl⟩
         mem := s.mem
         state := .halted
         cycles := m.cycles + UInt64.ofNat (program.length + 1)
         last := some .hlt },
        { out with taken := out.taken ++ Utf8.encode s.output.toList },
        .ok (UInt64.ofNat (program.length + 1))⟩ := by
  intro s
  obtain ⟨extra, hextra⟩ : ∃ extra,
      Machine.maxCycles - m.cycles.toNat + 1 = program.length + 1 + extra :=
    ⟨Machine.maxCycles - m.cycles.toNat - program.length, by
      simp only [Machine.maxCycles]
      omega⟩
  have hm : Store.machine ⟨m.regs.r, m.mem, ""⟩ m.regs.pc m.regs.fl m.cycles m.last = m := by
    rw [Store.machine, ← hrunning]
  have hempty : out.accept (Utf8.encode "".toList) = out := Sink.accept_nil
  have hrun := runFor_machine m.regs.fl program hout _ _ m.cycles m.last extra hstored hmiss
  rw [hm, hempty, Sink.accept_of_room_none hout] at hrun
  have hcount : m.cycles + UInt64.ofNat (program.length + 1) - m.cycles =
      UInt64.ofNat (program.length + 1) := by
    rw [UInt64.add_comm, UInt64.add_sub_cancel]
  rw [Machine.run, hextra, hrun, Machine.counted, Except.map, hcount]

/-- Code across the end of memory. The program takes its stack pointer for a number and pushes onto
its own first byte. -/
theorem run_code_across_end :
    let program := [Op.ldi 7 0xFE, .push 7, .pop 0, .add 0 7, .prn 0]
    let m : Machine :=
      { Machine.initial with
        regs := Registers.initial.jump 0xFD
        mem := Memory.zero.writeFrom 0xFD (code program) }
    Stored m.mem m.regs.pc (code program) ∧ PushesMiss m.regs.pc program ⟨m.regs.r, m.mem, ""⟩ ∧
      (m.run .unlimited).result = .ok 6 ∧ (m.run .unlimited).machine.regs.pc = 10 ∧
      (m.run .unlimited).sink.taken.toList = [0x32, 0x35, 0x32, 0x0A] := by
  intro program m
  have hstored : Stored m.mem m.regs.pc (code program) := by decide +kernel
  have hmiss : PushesMiss m.regs.pc program ⟨m.regs.r, m.mem, ""⟩ := by decide +kernel
  have hrun := run_code program m .unlimited rfl hstored hmiss (by decide +kernel) rfl
  rw [hrun]
  exact ⟨hstored, hmiss, rfl, by decide +kernel, by decide +kernel⟩

end StraightLine

end Ls8
