import Ls8.Text.Numeral

/-!
# Registers

Eight general registers, the program counter and the flags. The last register is the stack
pointer.
-/

namespace Ls8

open Numeral (decimal)

/-- The register file. -/
structure Registers where
  r : Vector UInt8 8
  pc : UInt8
  fl : UInt8
deriving DecidableEq

namespace Registers

/-- The stack pointer after power-on. -/
def stackBase : UInt8 := 0xF4

/-- The registers after power-on. -/
def initial : Registers where
  r := #v[0, 0, 0, 0, 0, 0, 0, stackBase]
  pc := 0
  fl := 0

/-- The value of a general register, if there is one of that number. -/
def get? (regs : Registers) (index : UInt8) : Option UInt8 :=
  regs.r[index.toNat]?

/-- The registers with a general register replaced, if there is one of that number. -/
def set? (regs : Registers) (index value : UInt8) : Option Registers :=
  if h : index.toNat < 8 then some { regs with r := regs.r.set index.toNat value } else none

def sp (regs : Registers) : UInt8 :=
  regs.r[7]

def setSp (regs : Registers) (value : UInt8) : Registers :=
  { regs with r := regs.r.set 7 value }

def advance (regs : Registers) (distance : UInt8) : Registers :=
  { regs with pc := regs.pc + distance }

def jump (regs : Registers) (address : UInt8) : Registers :=
  { regs with pc := address }

/-- The registers spelled out, as reports show them. -/
def describe (regs : Registers) : String :=
  "Registers \x7b r: [" ++ ", ".intercalate (regs.r.toList.map fun v => decimal v.toNat) ++
    "], pc: " ++ decimal regs.pc.toNat ++ ", fl: " ++ decimal regs.fl.toNat ++ " \x7d"

end Registers

end Ls8
