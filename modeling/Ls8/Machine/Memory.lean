import Ls8.Journal
import Ls8.Text.Numeral

/-!
# Memory

256 cells of one byte. Every byte is an address, and addresses wrap around, so a program longer
than memory overwrites its own beginning.
-/

namespace Ls8

open Numeral (decimal)

structure Memory where
  cells : Vector UInt8 256
deriving DecidableEq

namespace Memory

def zero : Memory :=
  ⟨Vector.replicate 256 0⟩

def read (m : Memory) (address : UInt8) : UInt8 :=
  have := address.toNat_lt
  m.cells[address.toNat]

def write (m : Memory) (address value : UInt8) : Memory :=
  ⟨m.cells.set address.toNat value address.toNat_lt⟩

/-- The byte at a distance after an address. -/
def readOffset (m : Memory) (address offset : UInt8) : UInt8 :=
  m.read (address + offset)

/-- Writes bytes one after the other from an address on. -/
def writeFrom (m : Memory) (address : UInt8) : List UInt8 → Memory
  | [] => m
  | b :: bs => (m.write address b).writeFrom (address + 1) bs

/-- Memory with a program loaded at address zero. -/
def load (m : Memory) (program : List UInt8) : Memory :=
  m.writeFrom 0 program

/-- Loads a program; answers how many bytes were written. -/
def loadProgram (m : Memory) (program : List UInt8) : Nat × Memory :=
  (program.length, m.load program)

/-- What loading a program reports: a warning if it does not fit, and its size. -/
def loadRecords (program : List UInt8) : List Journal.Record :=
  (if program.length > 256 then
    [⟨.warn, .memory, "program image is " ++ decimal program.length ++
      " bytes, wrapping past address 0xFF"⟩]
  else []) ++
  [⟨.debug, .memory, "loaded " ++ decimal program.length ++ " bytes into memory"⟩]

/-- At most `count` cells from `start` on, with their addresses, up to the end of memory. -/
def dump (m : Memory) (start count : Nat) : List (UInt8 × UInt8) :=
  (List.range' start (min (start + count) 256 - start)).map fun i =>
    (UInt8.ofNat i, m.read (UInt8.ofNat i))

/-- All cells in order of address. -/
def toList (m : Memory) : List UInt8 :=
  m.cells.toList

/-- A memory of other than 256 cells was asked for. -/
structure SizeError where
  found : Nat
deriving DecidableEq

def SizeError.message (e : SizeError) : String :=
  "memory must have exactly 256 cells, found " ++ decimal e.found

def ofList (cells : List UInt8) : Except SizeError Memory :=
  if h : cells.length = 256 then .ok ⟨⟨cells.toArray, by simpa using h⟩⟩
  else .error ⟨cells.length⟩

/-- How many cells are in use, as reports show memory. -/
def describe (m : Memory) : String :=
  "Memory \x7b non_zero_cells: " ++ decimal (m.toList.countP (· != 0)) ++
    ", total_cells: 256 \x7d"

@[simp]
theorem read_write (m : Memory) (a b value : UInt8) :
    (m.write a value).read b = if b = a then value else m.read b := by
  simp only [read, write, Vector.getElem_set, UInt8.toNat_inj, eq_comm]

@[simp]
theorem read_zero (a : UInt8) : zero.read a = 0 := by
  simp [read, zero]

end Memory

end Ls8
