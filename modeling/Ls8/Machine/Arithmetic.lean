import Ls8.Journal
import Ls8.Machine.Registers

/-!
# Register arithmetic

Operations on two registers whose result replaces the first. Products and sums wrap around; the
other operations have a name but no effect.
-/

namespace Ls8

open Numeral (decimal)

/-- An operation on two registers. -/
inductive Operation where
  | mul
  | add
  | cmp
  | and
  | or
  | xor
  | not
  | shl
  | shr
  | mod
deriving DecidableEq

namespace Operation

def all : List Operation :=
  [mul, add, cmp, and, or, xor, not, shl, shr, mod]

def name : Operation → String
  | mul => "Mul"
  | add => "Add"
  | cmp => "Cmp"
  | and => "And"
  | or => "Or"
  | xor => "Xor"
  | not => "Not"
  | shl => "Shl"
  | shr => "Shr"
  | mod => "Mod"

def ofName? (name : String) : Option Operation :=
  all.find? fun op => op.name == name

/-- The result of an operation that has a rule. -/
def result? (x y : UInt8) : Operation → Option UInt8
  | mul => some (x * y)
  | add => some (x + y)
  | _ => none

/-- The operation has a rule. -/
def isImplemented (op : Operation) : Bool :=
  (op.result? 0 0).isSome

end Operation

namespace Registers

/-- The registers after an operation on registers `a` and `b`; none if one of them is missing. -/
def compute? (regs : Registers) (op : Operation) (a b : UInt8) : Option Registers := do
  let x ← regs.get? a
  let y ← regs.get? b
  match op.result? x y with
  | some value => regs.set? a value
  | none => some regs

/-- What an operation on existing registers reports: a warning if it has no rule. -/
def computeRecords (regs : Registers) (op : Operation) (a b : UInt8) : List Journal.Record :=
  if (regs.compute? op a b).isSome ∧ op.isImplemented = false then
    [⟨.warn, .arithmetic, "ALU operation " ++ op.name ++ " is not implemented; R" ++
      decimal a.toNat ++ " unchanged"⟩]
  else []

end Registers

end Ls8
