/-!
# The opcode map

Twenty bytes have names. The machine executes nine of them and knows the other eleven by name
only. The two top bits of any byte, named or not, say how many operand bytes follow it.
-/

namespace Ls8

inductive Opcode where
  | hlt
  | ldi
  | prn
  | mul
  | add
  | pop
  | push
  | call
  | ret
  | cmp
  | jmp
  | jne
  | jeq
  | and
  | or
  | xor
  | not
  | shl
  | shr
  | mod
deriving DecidableEq

namespace Opcode

/-- The opcode map, in its order. -/
def all : List Opcode :=
  [hlt, ldi, prn, mul, add, pop, push, call, ret, cmp, jmp, jne, jeq, and, or, xor, not, shl, shr,
    mod]

def byte : Opcode → UInt8
  | hlt => 0b00000001
  | ldi => 0b10000010
  | prn => 0b01000111
  | mul => 0b10100010
  | add => 0b10100000
  | pop => 0b01000110
  | push => 0b01000101
  | call => 0b01010000
  | ret => 0b00010001
  | cmp => 0b10100111
  | jmp => 0b01010100
  | jne => 0b01010110
  | jeq => 0b01010101
  | and => 0b10101000
  | or => 0b10101010
  | xor => 0b10101011
  | not => 0b01101001
  | shl => 0b10101100
  | shr => 0b10101101
  | mod => 0b10100100

def mnemonic : Opcode → String
  | hlt => "HLT"
  | ldi => "LDI"
  | prn => "PRN"
  | mul => "MUL"
  | add => "ADD"
  | pop => "POP"
  | push => "PUSH"
  | call => "CALL"
  | ret => "RET"
  | cmp => "CMP"
  | jmp => "JMP"
  | jne => "JNE"
  | jeq => "JEQ"
  | and => "AND"
  | or => "OR"
  | xor => "XOR"
  | not => "NOT"
  | shl => "SHL"
  | shr => "SHR"
  | mod => "MOD"

def ofByte? (b : UInt8) : Option Opcode :=
  all.find? fun op => op.byte == b

/-- The opcode of a name; the case of ASCII letters does not matter. -/
def ofMnemonic? (name : List Char) : Option Opcode :=
  all.find? fun op => op.mnemonic.toList == name.map Char.toUpper

/-- The machine has a rule for the opcode. -/
def isExecuted : Opcode → Bool
  | hlt | ldi | prn | mul | add | pop | push | call | ret => true
  | _ => false

end Opcode

/-- The number of operand bytes that the top bits of an opcode byte announce. -/
def operandCount (ir : UInt8) : UInt8 :=
  ir >>> 6

/-- The number of bytes of an instruction that starts with `ir`. -/
def instructionLength (ir : UInt8) : UInt8 :=
  operandCount ir + 1

theorem instructionLength_pos (ir : UInt8) : 0 < (instructionLength ir).toNat := by
  have h : (instructionLength ir).toNat = ir.toNat / 64 + 1 := by
    have := ir.toNat_lt
    simp [instructionLength, operandCount, UInt8.toNat_add, Nat.shiftRight_eq_div_pow]
    omega
  omega

namespace Opcode

theorem ofByte?_byte (op : Opcode) : ofByte? op.byte = some op := by
  cases op <;> decide

theorem byte_of_ofByte? {b : UInt8} {op : Opcode} (h : ofByte? b = some op) : op.byte = b := by
  simpa using List.find?_some h

theorem ofMnemonic?_mnemonic (op : Opcode) : ofMnemonic? op.mnemonic.toList = some op := by
  cases op <;> decide

end Opcode

end Ls8
