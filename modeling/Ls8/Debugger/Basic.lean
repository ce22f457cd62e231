import Ls8.Listing
import Ls8.Session

/-!
# The debugger

A session with breakpoints. Stepping executes one instruction; running executes one at each tick
until the machine stops or stands at a breakpoint. Every action leaves a status.
-/

namespace Ls8

open Numeral (decimal hex)

/-- What the debugger did last. -/
inductive Status where
  | ready
  | stopped (state : RunState)
  | executed (address : UInt8) (i : Instruction)
  | failed (e : StepError)
  | running
  | finished (cycles : UInt64)
  | atBreakpoint (address : UInt8)
  | breakpointRemoved (address : UInt8)
  | breakpointSet (address : UInt8)
  | reset
  | paused
deriving DecidableEq

def Status.text : Status → String
  | ready => "Ready. Press 's' to step, 'r' to run, 'q' to quit."
  | stopped state => "CPU stopped: " ++ state.name
  | executed address i => "PC=" ++ hex address.toNat ++ ": " ++ i.text
  | failed e => "Error: " ++ e.message
  | running => "Running..."
  | finished cycles => "Stopped after " ++ decimal cycles.toNat ++ " cycles"
  | atBreakpoint address => "Breakpoint at PC=" ++ hex address.toNat
  | breakpointRemoved address => "Removed breakpoint at PC=" ++ hex address.toNat
  | breakpointSet address => "Set breakpoint at PC=" ++ hex address.toNat
  | reset => "Reset. Ready."
  | paused => "Paused."

structure Debugger where
  session : Session
  breakpoints : List UInt8
  /-- The machine goes on at each tick. -/
  running : Bool
  status : Status
  /-- The first row of memory shown; a row has eight cells. -/
  scroll : Nat

namespace Debugger

def start (program : List UInt8) : Debugger where
  session := .start program
  breakpoints := []
  running := false
  status := .ready
  scroll := 0

def machine (d : Debugger) : Machine :=
  d.session.machine

/-- The address of the next instruction. -/
def pc (d : Debugger) : UInt8 :=
  d.machine.regs.pc

def step (d : Debugger) : Debugger :=
  if d.machine.isRunning then
    match d.session.step with
    | (.ok i, session) => { d with session, status := .executed d.pc i }
    | (.error e, session) => { d with session, status := .failed e, running := false }
  else { d with status := .stopped d.machine.state, running := false }

/-- Lets the machine go on at each tick. -/
def run (d : Debugger) : Debugger :=
  { d with running := true, status := .running }

def pause (d : Debugger) : Debugger :=
  { d with running := false, status := .paused }

/-- Goes on by one instruction, unless the machine has stopped or is at a breakpoint. -/
def tick (d : Debugger) : Debugger :=
  if !d.running then d
  else if !d.machine.isRunning then
    { d with running := false, status := .finished d.machine.cycles }
  else if d.breakpoints.contains d.pc then
    { d with running := false, status := .atBreakpoint d.pc }
  else d.step

def addBreakpoint (d : Debugger) (address : UInt8) : Debugger :=
  { d with breakpoints := d.breakpoints.insert address }

/-- Sets a breakpoint at the next instruction, or removes it. -/
def toggleBreakpoint (d : Debugger) : Debugger :=
  if d.breakpoints.contains d.pc then
    { d with breakpoints := d.breakpoints.filter (· != d.pc), status := .breakpointRemoved d.pc }
  else { d.addBreakpoint d.pc with status := .breakpointSet d.pc }

/-- Starts the program again; breakpoints stay. -/
def reset (d : Debugger) : Debugger :=
  { d with session := d.session.reset, running := false, status := .reset }

/-- The breakpoints in ascending order. -/
def breakpointList (d : Debugger) : List UInt8 :=
  ((List.range 256).map UInt8.ofNat).filter d.breakpoints.contains

/-- `n` entries of the listing from the next instruction on. -/
def listing (d : Debugger) (n : Nat) : List Listing.Spot :=
  Listing.walk d.machine.mem d.pc n

def stepRecords (d : Debugger) : List Journal.Record :=
  d.machine.stepRecords

def tickRecords (d : Debugger) : List Journal.Record :=
  if d.running && !d.breakpoints.contains d.pc then d.stepRecords else []

end Debugger

end Ls8
