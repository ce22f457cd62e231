import Ls8.Proofs.Assembly.Disassembly

/-!
# Entries in memory

What an entry shows depends on the bytes that it covers and on no other (`text_congr`). So writing a
byte that no entry covers leaves a walk through memory as it is (`walk_write`). The end of an entry's
text says why its bytes are no instruction, if they are none.
-/

namespace Ls8.Listing

open Numeral (hex)

variable {ir a b a' b' : UInt8}

/-! ## What a text depends on -/

section

variable {op : Opcode}
  (h : [a, b].take (operandCount op.byte).toNat = [a', b'].take (operandCount op.byte).toNat)

include h

theorem ofOpcode_congr : Instruction.ofOpcode op a b = Instruction.ofOpcode op a' b' := by
  cases op <;> simp_all [Opcode.byte, operandCount, Instruction.ofOpcode]

theorem plainOperands_congr : plainOperands op a b = plainOperands op a' b' := by
  have hcount := toNat_operandCount op
  unfold plainOperands
  generalize (operandCount op.byte).toNat = count at *
  match count, hcount with
  | 0, _ => rfl
  | 1, _ => simp_all
  | 2, _ => simp_all

end

theorem decode_congr (h : covered ir a b = covered ir a' b') :
    Instruction.decode ir a b = Instruction.decode ir a' b' := by
  unfold Instruction.decode
  cases hop : Opcode.ofByte? ir with
  | none => rfl
  | some op =>
    obtain rfl := Opcode.byte_of_ofByte? hop
    rw [covered_byte, covered_byte] at h
    exact ofOpcode_congr (List.cons.inj h).2

theorem text_congr (h : covered ir a b = covered ir a' b') : text ir a b = text ir a' b' := by
  unfold text
  rw [decode_congr h]
  rcases hdecode : Instruction.decode ir a' b' with (_ | op | _) | _
  · rfl
  · obtain rfl := Instruction.decode_eq_unimplemented hdecode
    rw [covered_byte, covered_byte] at h
    simp only [plainOperands_congr (List.cons.inj h).2]
  · rfl
  · rfl

/-! ## What a text says of bytes that are no instruction -/

/-- The text says that the opcode has no rule. -/
def IsUnimplemented (text : String) : Prop :=
  " ; unimplemented".toList <:+ text.toList

instance (text : String) : Decidable (IsUnimplemented text) :=
  inferInstanceAs (Decidable (_ <:+ _))

def dataText (byte : UInt8) : String :=
  "DB 0x" ++ hex byte.toNat

variable {cause : DecodeError}

theorem not_mem_dataText (byte : UInt8) : ';' ∉ (dataText byte).toList := by
  have htext : (dataText byte).toList = (plainLine 0 0 (.error (.unrecognized byte))).statement := by
    simp [dataText, PlainLine.statement, plainLine, Assembly.plainStatement,
      hexOperand]
  rw [htext]
  exact PlainLine.not_mem_statement _ (by decide)

theorem text_eq_dataText_iff (h : Instruction.decode ir a b = .error cause) :
    text ir a b = dataText ir ↔ ∃ byte, cause = .unrecognized byte := by
  have hmark (h : ';' ∈ (text ir a b).toList) : text ir a b ≠ dataText ir :=
    fun heq => not_mem_dataText ir (heq ▸ h)
  rcases cause with byte | op | ⟨op, r⟩
  · obtain ⟨_, rfl⟩ := Instruction.decode_eq_unrecognized h
    simp [text, h, dataText]
  · simpa using hmark (by simp [text, h])
  · simpa using hmark (by simp [text, h])

theorem isUnimplemented_text_iff (h : Instruction.decode ir a b = .error cause) :
    IsUnimplemented (text ir a b) ↔ ∃ op, cause = .unimplemented op := by
  rcases cause with byte | op | ⟨op, r⟩
  · have hno : ¬IsUnimplemented (text ir a b) := by
      intro hsuffix
      refine not_mem_dataText ir ?_
      rw [← (text_eq_dataText_iff h).mpr ⟨byte, rfl⟩]
      exact hsuffix.mem (by decide)
    simpa using hno
  · have hyes : IsUnimplemented (text ir a b) :=
      ⟨(op.mnemonic ++ plainOperands op a b).toList, by simp [text, h]⟩
    simpa using hyes
  · have hno : ¬IsUnimplemented (text ir a b) := by
      rintro ⟨front, heq⟩
      have := congrArg List.getLast? heq
      simp [text, h] at this
    simpa using hno

theorem isBadRegister_iff (h : Instruction.decode ir a b = .error cause) :
    IsBadRegister (text ir a b) ↔ ∃ op r, cause = .invalidRegister op r := by
  rw [isBadRegister_text_iff, h]
  simp

/-! ## Walks -/

/-- The entry covers the byte at an address. -/
def Spot.Covers (e : Spot) (address : UInt8) : Prop :=
  address - e.address < e.length

instance (e : Spot) (address : UInt8) : Decidable (e.Covers address) :=
  inferInstanceAs (Decidable (_ < _))

variable {m : Memory} {address target value : UInt8}

theorem covers_spot {k : Nat} (h : k < (coverage (m.read address)).toNat) :
    (spot m address).Covers (address + UInt8.ofNat k) := by
  have hk : k < 256 := Nat.lt_of_lt_of_le h (Nat.le_trans (coverage_le _) (by decide))
  rw [Spot.Covers, spot, UInt8.add_comm, UInt8.add_sub_cancel, UInt8.lt_iff_toNat_lt,
    UInt8.toNat_ofNat_of_lt' hk]
  exact h

theorem read_write_of_not_covers (h : ¬(spot m address).Covers target) {k : Nat}
    (hk : k < (coverage (m.read address)).toNat) :
    (m.write target value).read (address + UInt8.ofNat k) = m.read (address + UInt8.ofNat k) := by
  rw [Memory.read_write, if_neg]
  rintro rfl
  exact h (covers_spot hk)

theorem covered_congr {m' : Memory}
    (h : ∀ k < (coverage (m.read address)).toNat,
      m'.read (address + UInt8.ofNat k) = m.read (address + UInt8.ofNat k)) :
    covered (m.read address) (m'.readOffset address 1) (m'.readOffset address 2) =
      covered (m.read address) (m.readOffset address 1) (m.readOffset address 2) := by
  have hle := coverage_le (m.read address)
  simp only [covered, Memory.readOffset]
  generalize (coverage (m.read address)).toNat = n at *
  obtain rfl | rfl | rfl | rfl : n = 0 ∨ n = 1 ∨ n = 2 ∨ n = 3 := by omega
  · rfl
  · rfl
  · have h1 : m'.read (address + 1) = m.read (address + 1) := h 1 (by decide)
    rw [h1]
    rfl
  · have h1 : m'.read (address + 1) = m.read (address + 1) := h 1 (by decide)
    have h2 : m'.read (address + 2) = m.read (address + 2) := h 2 (by decide)
    rw [h1, h2]

theorem spot_write (h : ¬(spot m address).Covers target) :
    spot (m.write target value) address = spot m address := by
  have hread : ∀ k < (coverage (m.read address)).toNat,
      (m.write target value).read (address + UInt8.ofNat k) = m.read (address + UInt8.ofNat k) :=
    fun k hk => read_write_of_not_covers h hk
  have hopcode : (m.write target value).read address = m.read address := by
    simpa using hread 0 (coverage_pos _)
  simp only [spot, hopcode, text_congr (covered_congr hread)]

theorem walk_write {n : Nat} (h : ∀ e ∈ walk m address n, ¬e.Covers target) :
    walk (m.write target value) address n = walk m address n := by
  induction n generalizing address with
  | zero => rfl
  | succ n ih =>
    obtain ⟨hfirst, hrest⟩ := List.forall_mem_cons.mp h
    rw [walk, walk, spot_write hfirst, ih hrest]

end Ls8.Listing
