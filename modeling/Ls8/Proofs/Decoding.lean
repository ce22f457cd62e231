import Ls8.Instruction

/-!
# What decoding accepts

`decode_eq_ok_iff`: three bytes decode to an instruction exactly when they begin with its bytes and
its registers exist. So the bytes behind an instruction never matter, and an instruction that was
decoded has its length from the two top bits of its first byte.
-/

namespace Ls8

/-! ## Results that may be errors -/

theorem except_bind_eq_ok_iff {ε α β : Type} {x : Except ε α} {f : α → Except ε β} {b : β} :
    (x >>= f) = .ok b ↔ ∃ a, x = .ok a ∧ f a = .ok b := by
  cases x <;> simp [bind, Except.bind]

theorem except_map_eq_ok_iff {ε α β : Type} {x : Except ε α} {f : α → β} {b : β} :
    x.map f = .ok b ↔ ∃ a, x = .ok a ∧ f a = b := by
  cases x <;> simp [Except.map]

/-! ## Instructions -/

namespace Instruction

theorem checkRegister_eq_ok_iff {op : Opcode} {register r : UInt8} :
    checkRegister op register = .ok r ↔ register < 8 ∧ register = r := by
  unfold checkRegister
  split <;> simp [*]

theorem ofOpcode_eq_ok_iff {op : Opcode} {a b : UInt8} {i : Instruction} :
    ofOpcode op a b = .ok i ↔
      i.opcode = op ∧ i.operands <+: [a, b] ∧ ∀ r ∈ i.registers, r < 8 := by
  constructor
  · intro h
    cases op <;>
      simp only [ofOpcode, except_bind_eq_ok_iff, checkRegister_eq_ok_iff, pure, Except.pure,
        Except.ok.injEq, reduceCtorEq] at h
    case hlt | ret =>
      subst h
      simp [opcode, operands, registers]
    case ldi | prn | pop | push | call =>
      obtain ⟨_, ⟨ha, rfl⟩, rfl⟩ := h
      simp [opcode, operands, registers, ha]
    case mul | add =>
      obtain ⟨_, ⟨ha, rfl⟩, _, ⟨hb, rfl⟩, rfl⟩ := h
      simp [opcode, operands, registers, ha, hb]
  · rintro ⟨rfl, hoperands, hregisters⟩
    cases i <;>
      simp_all [ofOpcode, opcode, operands, registers, checkRegister, bind, Except.bind, pure,
        Except.pure]

/-- **Decoding accepts exactly the encodings** of instructions on existing registers. -/
theorem decode_eq_ok_iff {ir a b : UInt8} {i : Instruction} :
    decode ir a b = .ok i ↔ i.encode <+: [ir, a, b] ∧ ∀ r ∈ i.registers, r < 8 := by
  rw [encode, List.cons_prefix_cons, and_assoc, decode]
  constructor
  · intro h
    split at h
    · rename_i op hop
      obtain ⟨hi, hrest⟩ := ofOpcode_eq_ok_iff.mp h
      exact ⟨hi ▸ Opcode.byte_of_ofByte? hop, hrest⟩
    · exact absurd h (by simp)
  · rintro ⟨hbyte, hrest⟩
    rw [← hbyte, Opcode.ofByte?_byte]
    exact ofOpcode_eq_ok_iff.mpr ⟨rfl, hrest⟩

theorem ofOpcode_eq_error {op : Opcode} {a b : UInt8} {e : DecodeError}
    (h : ofOpcode op a b = .error e) : e = .unimplemented op ∨ ∃ r, e = .invalidRegister op r := by
  cases op <;>
    simp [ofOpcode, checkRegister, bind, Except.bind, pure, Except.pure] at h <;>
    grind

/-- Why bytes are no instruction: the first one has no name, or it has one and is to blame, or a
register is. -/
theorem decode_eq_error {ir a b : UInt8} {e : DecodeError} (h : decode ir a b = .error e) :
    Opcode.ofByte? ir = none ∧ e = .unrecognized ir ∨
      ∃ op : Opcode, op.byte = ir ∧ (e = .unimplemented op ∨ ∃ r, e = .invalidRegister op r) := by
  unfold decode at h
  split at h
  · rename_i op hop
    exact .inr ⟨op, Opcode.byte_of_ofByte? hop, ofOpcode_eq_error h⟩
  · rename_i hnone
    exact .inl ⟨hnone, (Except.error.inj h).symm⟩

theorem decode_eq_unrecognized {ir a b byte : UInt8}
    (h : decode ir a b = .error (.unrecognized byte)) :
    Opcode.ofByte? ir = none ∧ byte = ir := by
  rcases decode_eq_error h with ⟨hnone, heq⟩ | ⟨op, _, heq | ⟨r, heq⟩⟩
  · exact ⟨hnone, DecodeError.unrecognized.inj heq⟩
  · cases heq
  · cases heq

theorem decode_eq_unimplemented {ir a b : UInt8} {op : Opcode}
    (h : decode ir a b = .error (.unimplemented op)) : op.byte = ir := by
  rcases decode_eq_error h with ⟨_, heq⟩ | ⟨op', hop, heq | ⟨r, heq⟩⟩
  · cases heq
  · cases heq
    exact hop
  · cases heq

theorem length_encode (i : Instruction) :
    i.encode.length = (instructionLength i.opcode.byte).toNat := by
  cases i <;> simp only [encode, operands, opcode, List.length_cons, List.length_nil] <;> decide

theorem length_encode_le (i : Instruction) : i.encode.length ≤ 3 := by
  cases i <;> simp [encode, operands]

end Instruction

end Ls8
