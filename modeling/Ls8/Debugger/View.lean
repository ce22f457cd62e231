import Ls8.Debugger.Basic
import Ls8.Debugger.Screen
import Ls8.Text.Basic

/-!
# The debugger's screen

Two columns. On the left the listing, the registers and the status, on the right memory, the
program's output and the keys.
-/

namespace Ls8.Debugger

open Numeral (binary decimal hex)
open Screen (Colour Line Panel Row Span Style)

/-- The width of the left column: 55 percent, rounded to the nearest, a half upwards. -/
def leftWidth (width : Nat) : Nat :=
  (55 * width + 50) / 100

def entryStyle (current marked : Bool) : Style :=
  if current then .boldOf .yellow else if marked then .of .red else .plain

/-- An entry of the listing; `current` is the next instruction. -/
def entryLine (d : Debugger) (current : Bool) (e : Listing.Spot) : Line :=
  let marked := d.breakpoints.contains e.address
  { spans := [⟨(if marked then "●" else " ") ++ " " ++ (if current then "▶ " else "  ") ++
      hex e.address.toNat ++ ": " ++ e.text, {}⟩]
    style := entryStyle current marked }

def listingPanel (d : Debugger) (height : Nat) : Panel where
  title := " Disassembly "
  lines :=
    match d.listing (height - 2) with
    | [] => []
    | first :: rest => d.entryLine true first :: rest.map (d.entryLine false)
  frame := .of .cyan

/-- A general register: its name and its value. -/
def registerSpans (index : Nat) (value : UInt8) : List Span :=
  [⟨"R" ++ decimal index ++ (if index = 7 then "/SP" else "") ++ ": ", {}⟩,
    ⟨hex value.toNat ++ " (" ++ Text.rightAligned 3 (decimal value.toNat) ++ ")  ", .of .white⟩]

def registerLine (regs : Registers) (first : Nat) : Line :=
  { spans := (List.range' first 4).flatMap fun i => registerSpans i (regs.r[i]?.getD 0) }

/-- The registers, the count of instructions and the run state. -/
def registersPanel (d : Debugger) : Panel where
  title := " Registers "
  lines :=
    [registerLine d.machine.regs 0, registerLine d.machine.regs 4,
      { spans :=
          [⟨"PC: ", {}⟩, ⟨hex d.pc.toNat, .of .yellow⟩, ⟨"   FL: ", {}⟩,
            ⟨binary d.machine.regs.fl.toNat, .of .white⟩] },
      { spans :=
          [⟨"Cycles: ", {}⟩, ⟨decimal d.machine.cycles.toNat, .of .cyan⟩, ⟨"   State: ", {}⟩,
            ⟨d.machine.state.name, .of (if d.machine.isRunning then .green else .red)⟩] }]
  frame := .of .green

def statusPanel (d : Debugger) : Panel where
  title := " Status "
  lines := [.plain d.status.text]
  style := .of .white

def cellStyle (regs : Registers) (address value : UInt8) : Style :=
  if address = regs.pc then .boldOf .yellow
  else if address = regs.sp then .boldOf .magenta
  else if value ≠ 0 then .of .white
  else .of .darkGray

def memoryLine (m : Machine) (row : Nat) : Line :=
  { spans :=
      ⟨hex (row * 8) ++ ": ", .of .darkGray⟩ ::
        (m.mem.dump (row * 8) 8).map fun (address, value) =>
          ⟨hex value.toNat ++ " ", cellStyle m.regs address value⟩ }

/-- Memory from the first row shown on. -/
def memoryPanel (d : Debugger) : Panel where
  title := " Memory "
  lines := (List.range' d.scroll (32 - d.scroll)).map (memoryLine d.machine)
  frame := .of .magenta

/-- The last lines of the output. -/
def outputPanel (d : Debugger) (height : Nat) : Panel where
  title := " Output "
  lines :=
    let all := d.session.outputLines
    (all.drop (all.length - (height - 2))).map .plain

def helpPanel : Panel where
  title := " Help "
  lines :=
    [.plain "s: Step  r: Run  p: Pause  b: Breakpoint",
      .plain "x: Reset  ↑↓: Scroll memory  q: Quit"]
  style := .of .darkGray

/-- The heights of three panels one above another. The last two are to have `second` and `third`
rows and the first the others, at least ten; where that cannot be, the first has ten rows, as far
as they go, and the last two share what is left. -/
def stackHeights (height second third : Nat) : Nat × Nat × Nat :=
  let first := max (height - (second + third)) (min height 10)
  let rest := height - first
  let last := min third (rest / 2)
  (first, rest - last, last)

def leftColumn (d : Debugger) (width height : Nat) : List Row :=
  let (top, middle, bottom) := stackHeights height 7 3
  (d.listingPanel top).rows width top ++ d.registersPanel.rows width middle ++
    d.statusPanel.rows width bottom

def rightColumn (d : Debugger) (width height : Nat) : List Row :=
  let (top, middle, bottom) := stackHeights height 8 4
  d.memoryPanel.rows width top ++ (d.outputPanel middle).rows width middle ++
    helpPanel.rows width bottom

def screen (d : Debugger) (width height : Nat) : List Row :=
  let left := leftWidth width
  List.zipWith (· ++ ·) (d.leftColumn left height) (d.rightColumn (width - left) height)

end Ls8.Debugger
