import Ls8.Proofs.Assembly.FirstFault
import Ls8.Proofs.Decoding

/-!
# Register operands of assembled instructions

An instruction has its registers in front of its other operands (`registers_eq_take`), and operands
of any kind may stand there: the name of a register that does not exist is reported
(`Reached.assemble_eq_invalidRegister`), but a number or the address of a label only has to be a byte.
So an assembled instruction decodes, unless a number or a label in the place of a register is above
the registers (`NamesNoRegister`), and then decoding blames a register (`decode_emission`).
-/

namespace Ls8

open Assembly (readOperand registerNumber?)

/-! ## Registers among the operands -/

/-- The number of operands that are registers. -/
def Opcode.registerCount : Opcode → Nat
  | ldi | prn | pop | push | call => 1
  | mul | add => 2
  | _ => 0

namespace Instruction

theorem registers_eq_take (i : Instruction) :
    i.registers = i.operands.take i.opcode.registerCount := by
  cases i <;> rfl

theorem exists_of_operands {op : Opcode} (hexecuted : op.isExecuted) {operands : List UInt8}
    (hlength : operands.length = (operandCount op.byte).toNat) :
    ∃ i : Instruction, i.opcode = op ∧ i.operands = operands := by
  cases op
  case hlt => exact ⟨hlt, rfl, (List.length_eq_zero_iff.mp hlength).symm⟩
  case ret => exact ⟨ret, rfl, (List.length_eq_zero_iff.mp hlength).symm⟩
  case prn =>
    obtain ⟨a, rfl⟩ := List.length_eq_one_iff.mp hlength
    exact ⟨prn a, rfl, rfl⟩
  case pop =>
    obtain ⟨a, rfl⟩ := List.length_eq_one_iff.mp hlength
    exact ⟨pop a, rfl, rfl⟩
  case push =>
    obtain ⟨a, rfl⟩ := List.length_eq_one_iff.mp hlength
    exact ⟨push a, rfl, rfl⟩
  case call =>
    obtain ⟨a, rfl⟩ := List.length_eq_one_iff.mp hlength
    exact ⟨call a, rfl, rfl⟩
  case ldi =>
    obtain ⟨a, b, rfl⟩ := List.length_eq_two.mp hlength
    exact ⟨ldi a b, rfl, rfl⟩
  case mul =>
    obtain ⟨a, b, rfl⟩ := List.length_eq_two.mp hlength
    exact ⟨mul a b, rfl, rfl⟩
  case add =>
    obtain ⟨a, b, rfl⟩ := List.length_eq_two.mp hlength
    exact ⟨add a b, rfl, rfl⟩
  all_goals exact absurd hexecuted (by decide)

/-- The bytes of an instruction decode to it, or to an error that blames a register. -/
theorem decode_of_encode {i : Instruction} {ir a b : UInt8} (h : i.encode <+: [ir, a, b]) :
    ((∀ r ∈ i.registers, r < 8) → decode ir a b = .ok i) ∧
      (¬(∀ r ∈ i.registers, r < 8) →
        ∃ r, decode ir a b = .error (.invalidRegister i.opcode r)) := by
  refine ⟨fun hregisters => decode_eq_ok_iff.mpr ⟨h, hregisters⟩, fun hbad => ?_⟩
  rw [encode, List.cons_prefix_cons] at h
  obtain ⟨rfl, hoperands⟩ := h
  rw [decode, Opcode.ofByte?_byte]
  cases i with
  | hlt | ret => simp [registers] at hbad
  | ldi reg | prn reg | pop reg | push reg | call reg =>
    have hlarge : ¬reg < 8 := by simpa [registers] using hbad
    have hreg : reg = a := (List.cons_prefix_cons.mp hoperands).1
    exact ⟨reg, by simp [ofOpcode, opcode, checkRegister, ← hreg, hlarge, bind, Except.bind]⟩
  | mul first second | add first second =>
    obtain ⟨hfirst, hrest⟩ := List.cons_prefix_cons.mp hoperands
    have hsecond : second = b := (List.cons_prefix_cons.mp hrest).1
    by_cases hsmall : first < 8
    · have hlarge : ¬second < 8 := by simpa [registers, hsmall] using hbad
      exact ⟨second, by
        simp [ofOpcode, opcode, checkRegister, ← hfirst, ← hsecond, hsmall, hlarge, bind,
          Except.bind]⟩
    · exact ⟨first, by simp [ofOpcode, opcode, checkRegister, ← hfirst, hsmall, bind, Except.bind]⟩

end Instruction

namespace Assembly

/-! ## What operands put in the place of a register -/

/-- A number or a label stands in the place of a register, and its byte is above the registers. -/
def NamesNoRegister (op : Opcode) (e : Emission) : Prop :=
  ∃ k < op.registerCount, ∃ operand byte, e.operands[k]? = some operand ∧
    e.operandBytes[k]? = some byte ∧ registerNumber? operand = none ∧ 8 ≤ byte

theorem readOperand_of_registerNumber? {operand : List Char} {r : UInt8}
    (hr : registerNumber? operand = some r) :
    readOperand operand =
      if r < 8 then .ok (.byte r) else .error (.invalidRegister (String.ofList operand)) := by
  have hne : operand ≠ [] := by
    rintro rfl
    cases hr
  rw [readOperand, List.isEmpty_eq_false_iff.mpr hne, if_neg (by decide), hr]

theorem Puts.of_registerNumber? {table : List (String × Nat)} {operand : List Char}
    {byte r : UInt8} (h : Puts table operand byte) (hr : registerNumber? operand = some r) :
    r < 8 ∧ byte = r := by
  obtain ⟨item, hitem, hplace⟩ := h
  rw [readOperand_of_registerNumber? hr] at hitem
  split at hitem
  · rename_i hsmall
    cases hitem
    cases hplace
    exact ⟨hsmall, rfl⟩
  · cases hitem

theorem Reached.assemble_eq_invalidRegister {source : String} {operand : List Char} {r : UInt8}
    (reached : Reached source operand) (hr : registerNumber? operand = some r) (hlarge : ¬r < 8) :
    assemble source = .error ⟨reached.line, .invalidRegister (String.ofList operand)⟩ := by
  refine reached.assemble_eq_error ?_
  rw [readOperand_of_registerNumber? hr, if_neg hlarge]

section

variable {table : List (String × Nat)} {e : Emission} {op : Opcode}

theorem namesNoRegister_iff (h : Emitted table e) :
    NamesNoRegister op e ↔ ¬∀ r ∈ e.operandBytes.take op.registerCount, r < 8 := by
  have hlength := h.operands.length_eq
  constructor
  · rintro ⟨k, hk, operand, byte, _, hbyte, _, hlarge⟩ hall
    have hmem : byte ∈ e.operandBytes.take op.registerCount := by
      refine List.mem_of_getElem? (i := k) ?_
      rw [List.getElem?_take_of_lt hk, hbyte]
    exact UInt8.not_lt.mpr hlarge (hall byte hmem)
  · intro hnot
    simp only [not_forall] at hnot
    obtain ⟨byte, hmem, hlarge⟩ := hnot
    obtain ⟨k, hk, hkbyte⟩ := List.mem_take_iff_getElem.mp hmem
    have hcount : k < op.registerCount := by omega
    have hbytes : k < e.operandBytes.length := by omega
    have hoperand := List.getElem?_eq_getElem (hlength ▸ hbytes : k < e.operands.length)
    obtain ⟨byte', hbyte', hputs⟩ := h.getElem? hoperand
    obtain rfl : byte = byte' := by
      rw [List.getElem?_eq_getElem hbytes, hkbyte] at hbyte'
      exact Option.some.inj hbyte'
    refine ⟨k, hcount, _, byte, hoperand, hbyte', ?_, UInt8.not_lt.mp hlarge⟩
    cases hregister : registerNumber? e.operands[k] with
    | none => rfl
    | some r =>
      obtain ⟨hsmall, rfl⟩ := hputs.of_registerNumber? hregister
      exact absurd hsmall hlarge

end

/-- **Assembled instructions decode**, whatever stands behind them, unless a number or a label that
is no register is in the place of one. The name of a register is never to blame. -/
theorem decode_emission {source : String} {bytes : List UInt8} (h : assemble source = .ok bytes)
    {e : Emission} (he : e ∈ emissions source bytes) {op : Opcode}
    (hop : Opcode.ofMnemonic? e.mnemonic = some op) (hexecuted : op.isExecuted) {ir a b : UInt8}
    (hbytes : e.bytes <+: [ir, a, b]) :
    (¬NamesNoRegister op e → ∃ i, Instruction.decode ir a b = .ok i ∧ i.encode = e.bytes) ∧
      (NamesNoRegister op e →
        ∃ r, Instruction.decode ir a b = .error (.invalidRegister op r)) ∧
      ∀ operand ∈ e.operands, ∀ r, registerNumber? operand = some r → r < 8 := by
  have hemitted := emitted_of_mem h he
  have hdata : e.isData = false := by
    rw [Statement.isData, beq_eq_false_iff_ne]
    intro hdb
    have hnone : Opcode.ofMnemonic? ['D', 'B'] = none := by decide
    rw [hdb, hnone] at hop
    cases hop
  obtain ⟨op', hop', hlength, hopcode⟩ := hemitted.opcode hdata
  obtain rfl : op = op' := Option.some.inj (hop.symm.trans hop')
  rw [hemitted.operands.length_eq] at hlength
  obtain ⟨i, rfl, hoperands⟩ := Instruction.exists_of_operands hexecuted hlength
  have hencode : i.encode = e.bytes := by
    rw [Instruction.encode, hoperands, hopcode]
  obtain ⟨hgood, hbad⟩ := Instruction.decode_of_encode (hencode ▸ hbytes)
  rw [Instruction.registers_eq_take, hoperands] at hgood hbad
  refine ⟨fun hnot => ?_, fun hnames => ?_, ?_⟩
  · rw [namesNoRegister_iff hemitted, not_not] at hnot
    exact ⟨i, hgood hnot, hencode⟩
  · exact hbad ((namesNoRegister_iff hemitted).mp hnames)
  · intro operand hmem r hr
    obtain ⟨k, hk⟩ := List.getElem?_of_mem hmem
    obtain ⟨byte, _, hputs⟩ := hemitted.getElem? hk
    exact (hputs.of_registerNumber? hr).1

theorem decode_emission_ldi_prn :
    assemble "LDI R1,200\nPRN 200" = .ok [0x82, 1, 200, 0x47, 200] ∧
      (∃ i, Instruction.decode 0x82 1 200 = .ok i ∧ i.encode = [0x82, 1, 200]) ∧
      ∃ r, Instruction.decode 0x47 200 0 = .error (.invalidRegister .prn r) := by
  have hok : assemble "LDI R1,200\nPRN 200" = .ok [0x82, 1, 200, 0x47, 200] := by decide +kernel
  let ldi : Emission := ⟨⟨"LDI".toList, ["R1".toList, "200".toList]⟩, 1, [0x82, 1, 200]⟩
  let prn : Emission := ⟨⟨"PRN".toList, ["200".toList]⟩, 2, [0x47, 200]⟩
  have hemissions : emissions "LDI R1,200\nPRN 200" [0x82, 1, 200, 0x47, 200] = [ldi, prn] := by
    decide +kernel
  have hldi := @decode_emission _ _ hok ldi (by simp [hemissions]) .ldi (by decide) rfl 0x82 1 200
    (List.prefix_refl _)
  have hprn := @decode_emission _ _ hok prn (by simp [hemissions]) .prn (by decide) rfl 0x47 200 0
    (List.prefix_append _ [0])
  refine ⟨hok, hldi.1 ?_, hprn.2.1 ⟨0, by decide, "200".toList, 200, rfl, rfl, by decide, by decide⟩⟩
  rintro ⟨k, hk, operand, byte, hoperand, _, hnone, _⟩
  obtain rfl : k = 0 := Nat.lt_one_iff.mp hk
  cases hoperand
  exact absurd hnone (by decide)

/-- A number in the place of a register is assembled, though no register has it. -/
theorem number_in_register :
    assemble "PRN 9" = .ok [0x47, 9] ∧
      emissions "PRN 9" [0x47, 9] = [⟨⟨"PRN".toList, ["9".toList]⟩, 1, [0x47, 9]⟩] ∧
      ∀ b, Instruction.decode 0x47 9 b = .error (.invalidRegister .prn 9) :=
  ⟨by decide +kernel, by decide +kernel, fun _ => rfl⟩

end Assembly

end Ls8
