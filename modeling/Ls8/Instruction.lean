import Ls8.Opcode
import Ls8.Text.Numeral

/-!
# Instructions

The nine instructions that the machine executes, their bytes and their assembly text. Decoding
admits register operands 0 to 7 only; the type itself does not restrict them, since an instruction
may also come from a saved machine.
-/

namespace Ls8

open Numeral (binary decimal)

/-- An executable instruction with its operand bytes. -/
inductive Instruction where
  /-- Stop the machine. -/
  | hlt
  /-- Put a value into a register. -/
  | ldi (reg value : UInt8)
  /-- Print a register in decimal. -/
  | prn (reg : UInt8)
  /-- Multiply register `a` by register `b`. -/
  | mul (a b : UInt8)
  /-- Add register `b` to register `a`. -/
  | add (a b : UInt8)
  /-- Pop the stack into a register. -/
  | pop (reg : UInt8)
  /-- Push a register on the stack. -/
  | push (reg : UInt8)
  /-- Push the return address and go to the address in a register. -/
  | call (reg : UInt8)
  /-- Pop an address and go there. -/
  | ret
deriving DecidableEq

/-- Why three bytes are not an executable instruction. -/
inductive DecodeError where
  /-- The first byte has no name. -/
  | unrecognized (byte : UInt8)
  /-- The first byte has a name, but no rule. -/
  | unimplemented (opcode : Opcode)
  /-- A register operand is above 7. -/
  | invalidRegister (opcode : Opcode) (register : UInt8)
deriving DecidableEq

def DecodeError.message : DecodeError → String
  | .unrecognized byte => "unrecognized instruction 0b" ++ binary byte.toNat
  | .unimplemented opcode =>
    "unrecognized instruction 0b" ++ binary opcode.byte.toNat ++ " (" ++ opcode.mnemonic ++
      " is not implemented)"
  | .invalidRegister opcode register =>
    "invalid register R" ++ decimal register.toNat ++ " for instruction 0b" ++
      binary opcode.byte.toNat

/-- The error names an opcode byte that the machine has no rule for. -/
def DecodeError.isUnrecognized : DecodeError → Bool
  | .unrecognized _ | .unimplemented _ => true
  | .invalidRegister .. => false

namespace Instruction

def opcode : Instruction → Opcode
  | hlt => .hlt
  | ldi .. => .ldi
  | prn _ => .prn
  | mul .. => .mul
  | add .. => .add
  | pop _ => .pop
  | push _ => .push
  | call _ => .call
  | ret => .ret

def operands : Instruction → List UInt8
  | hlt | ret => []
  | ldi reg value => [reg, value]
  | prn reg | pop reg | push reg | call reg => [reg]
  | mul a b | add a b => [a, b]

def encode (i : Instruction) : List UInt8 :=
  i.opcode.byte :: i.operands

/-- The instruction leaves the address of the next one in the counter by itself. -/
def setsCounter : Instruction → Bool
  | call _ | ret => true
  | _ => false

def registers : Instruction → List UInt8
  | hlt | ret => []
  | ldi reg _ | prn reg | pop reg | push reg | call reg => [reg]
  | mul a b | add a b => [a, b]

/-- A register operand, if it is one of the eight. -/
def checkRegister (opcode : Opcode) (register : UInt8) : Except DecodeError UInt8 :=
  if register < 8 then .ok register else .error (.invalidRegister opcode register)

/-- The instruction with the given opcode and the two bytes after it. -/
def ofOpcode (op : Opcode) (a b : UInt8) : Except DecodeError Instruction :=
  match op with
  | .hlt => .ok hlt
  | .ldi => do return ldi (← checkRegister .ldi a) b
  | .prn => do return prn (← checkRegister .prn a)
  | .mul => do return mul (← checkRegister .mul a) (← checkRegister .mul b)
  | .add => do return add (← checkRegister .add a) (← checkRegister .add b)
  | .pop => do return pop (← checkRegister .pop a)
  | .push => do return push (← checkRegister .push a)
  | .call => do return call (← checkRegister .call a)
  | .ret => .ok ret
  | other => .error (.unimplemented other)

/-- The instruction that starts with the byte `ir`; `a` and `b` are the two bytes after it, whether
it has operands or not. -/
def decode (ir a b : UInt8) : Except DecodeError Instruction :=
  match Opcode.ofByte? ir with
  | some op => ofOpcode op a b
  | none => .error (.unrecognized ir)

/-- A register's name in assembly text. -/
def registerName (register : UInt8) : String :=
  "R" ++ decimal register.toNat

def text : Instruction → String
  | hlt => "HLT"
  | ldi reg value => "LDI " ++ registerName reg ++ "," ++ decimal value.toNat
  | prn reg => "PRN " ++ registerName reg
  | mul a b => "MUL " ++ registerName a ++ "," ++ registerName b
  | add a b => "ADD " ++ registerName a ++ "," ++ registerName b
  | pop reg => "POP " ++ registerName reg
  | push reg => "PUSH " ++ registerName reg
  | call reg => "CALL " ++ registerName reg
  | ret => "RET"

/-- A record with one field. -/
def describeOne (name field : String) (value : UInt8) : String :=
  name ++ " \x7b " ++ field ++ ": " ++ decimal value.toNat ++ " \x7d"

def describeTwo (name field₁ : String) (value₁ : UInt8) (field₂ : String) (value₂ : UInt8) :
    String :=
  name ++ " \x7b " ++ field₁ ++ ": " ++ decimal value₁.toNat ++ ", " ++ field₂ ++ ": " ++
    decimal value₂.toNat ++ " \x7d"

/-- An instruction spelled out with the names of its operands, as records and reports show it. -/
def describe : Instruction → String
  | hlt => "Hlt"
  | ldi reg value => describeTwo "Ldi" "reg" reg "value" value
  | prn reg => describeOne "Prn" "reg" reg
  | mul a b => describeTwo "Mul" "a" a "b" b
  | add a b => describeTwo "Add" "a" a "b" b
  | pop reg => describeOne "Pop" "reg" reg
  | push reg => describeOne "Push" "reg" reg
  | call reg => describeOne "Call" "reg" reg
  | ret => "Ret"

end Instruction

end Ls8
