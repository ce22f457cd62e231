import Ls8.Instruction
import Ls8.Machine.Arithmetic
import Ls8.Machine.Memory
import Ls8.Machine.Registers

/-!
# The machine

Registers, memory, a run state, a count of executed instructions and the last of them. The stack
lives in memory and grows down from the address in the stack pointer; nothing checks its bounds.
-/

namespace Ls8

open Numeral (decimal)

/-- Whether the machine goes on. -/
inductive RunState where
  | running
  | halted
  | error
deriving DecidableEq

namespace RunState

def name : RunState → String
  | running => "Running"
  | halted => "Halted"
  | error => "Error"

def ofName? (name : String) : Option RunState :=
  [running, halted, error].find? fun s => s.name == name

end RunState

structure Machine where
  regs : Registers
  mem : Memory
  state : RunState
  /-- The number of executed instructions. -/
  cycles : UInt64
  last : Option Instruction
deriving DecidableEq

namespace Machine

/-- The machine after power-on. -/
def initial : Machine where
  regs := .initial
  mem := .zero
  state := .running
  cycles := 0
  last := none

/-- The machine with a program written into its memory. -/
def load (m : Machine) (program : List UInt8) : Machine :=
  { m with mem := m.mem.load program }

/-- The machine after power-on, with a program in its memory. -/
def withProgram (program : List UInt8) : Machine :=
  initial.load program

/-- A reset is like switching off and on: the program is lost too. -/
def reset (_ : Machine) : Machine :=
  initial

def isRunning (m : Machine) : Bool :=
  m.state == .running

def isHalted (m : Machine) : Bool :=
  m.state == .halted

/-- Lowers the stack pointer and stores a byte there. -/
def push (m : Machine) (value : UInt8) : Machine :=
  let sp := m.regs.sp - 1
  { m with regs := m.regs.setSp sp, mem := m.mem.write sp value }

def top (m : Machine) : UInt8 :=
  m.mem.read m.regs.sp

/-- Raises the stack pointer. -/
def drop (m : Machine) : Machine :=
  { m with regs := m.regs.setSp (m.regs.sp + 1) }

def pop (m : Machine) : UInt8 × Machine :=
  (m.top, m.drop)

def jump (m : Machine) (address : UInt8) : Machine :=
  { m with regs := m.regs.jump address }

/-- Sets a general register, if there is one of that number. -/
def setRegister? (m : Machine) (index value : UInt8) : Option Machine :=
  (m.regs.set? index value).map fun regs => { m with regs }

/-- Computes on two registers, if both exist. -/
def compute? (m : Machine) (op : Operation) (a b : UInt8) : Option Machine :=
  (m.regs.compute? op a b).map fun regs => { m with regs }

/-- The machine in short, as reports show it. -/
def describe (m : Machine) : String :=
  "Cpu \x7b state: " ++ m.state.name ++ ", cycles: " ++ decimal m.cycles.toNat ++ ", regs: " ++
    m.regs.describe ++ " \x7d"

def describeLast (m : Machine) : String :=
  match m.last with
  | none => "None"
  | some i => "Some(" ++ i.describe ++ ")"

end Machine

end Ls8
