import Ls8.Instruction
import Ls8.Machine.Memory
import Ls8.Text.Basic

/-!
# Listings

Bytes as assembly text. A listing cuts a program into entries, each as long as its first byte says
if that byte has a name, and one byte long otherwise. `ofBytes` lists a whole program, whose last
entry may lack operand bytes; `spot` and `walk` look into memory, where operands wrap around.
-/

namespace Ls8

open Numeral (decimal hex)

namespace Listing

/-- The number of bytes that an entry starting with `ir` covers. -/
def coverage (ir : UInt8) : UInt8 :=
  match Opcode.ofByte? ir with
  | some _ => instructionLength ir
  | none => 1

theorem coverage_pos (ir : UInt8) : 0 < (coverage ir).toNat := by
  unfold coverage
  split
  · exact instructionLength_pos ir
  · decide

/-- The operands of an opcode without a rule, as plain numbers. -/
def plainOperands (op : Opcode) (a b : UInt8) : String :=
  match (operandCount op.byte).toNat with
  | 0 => ""
  | 1 => " " ++ decimal a.toNat
  | _ => " " ++ decimal a.toNat ++ "," ++ decimal b.toNat

/-- The text of an entry: the instruction, or why its three bytes are none. -/
def text (ir a b : UInt8) : String :=
  match Instruction.decode ir a b with
  | .ok i => i.text
  | .error (.unimplemented op) => op.mnemonic ++ plainOperands op a b ++ " ; unimplemented"
  | .error (.invalidRegister op _) => op.mnemonic ++ " ??? ; bad register"
  | .error (.unrecognized byte) => "DB 0x" ++ hex byte.toNat

/-! ## A whole program -/

/-- An entry of a program's listing. -/
structure Entry where
  address : Nat
  /-- The bytes covered. -/
  raw : List UInt8
  text : String
deriving DecidableEq

/-- The entries of the bytes from an address on. Operands behind the end count as zero. -/
def entriesFrom (address : Nat) : List UInt8 → List Entry
  | [] => []
  | ir :: rest =>
    let size := (coverage ir).toNat - 1
    ⟨address, ir :: rest.take size, text ir (rest.getD 0 0) (rest.getD 1 0)⟩ ::
      entriesFrom (address + 1 + (rest.take size).length) (rest.drop size)
termination_by bytes => bytes.length
decreasing_by simp only [List.length_drop, List.length_cons]; omega

def ofBytes (bytes : List UInt8) : List Entry :=
  entriesFrom 0 bytes

/-- The bytes of an entry in hexadecimal. -/
def Entry.rawText (e : Entry) : String :=
  " ".intercalate (e.raw.map fun b => hex b.toNat)

def Entry.line (e : Entry) : String :=
  hex e.address ++ ": " ++ Text.leftAligned 9 e.rawText ++ " " ++ e.text ++ "\n"

def header : String :=
  "; LS8 Disassembly\n; ---------------\n\n"

def render (bytes : List UInt8) : String :=
  header ++ String.join ((ofBytes bytes).map Entry.line)

/-! ## A look into memory -/

/-- An entry at an address of memory. -/
structure Spot where
  address : UInt8
  text : String
  length : UInt8
deriving DecidableEq

def spot (m : Memory) (address : UInt8) : Spot :=
  let ir := m.read address
  ⟨address, text ir (m.readOffset address 1) (m.readOffset address 2), coverage ir⟩

/-- `n` entries from an address on, each behind the one before. -/
def walk (m : Memory) (address : UInt8) : Nat → List Spot
  | 0 => []
  | n + 1 => spot m address :: walk m (address + (spot m address).length) n

end Listing

end Ls8
