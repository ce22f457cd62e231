import Ls8.Debugger.Basic

/-!
# Keys

The debugger at work: in each round it draws its screen, takes one key, and goes on by a tick if it
is running. The key `q` ends the work after its round.
-/

namespace Ls8.Debugger

inductive Key where
  | char (c : Char)
  | up
  | down
  /-- Any key without a meaning. -/
  | other
deriving DecidableEq

/-- The last first row of memory that can be scrolled to. -/
def maxScroll : Nat := 31

/-- The debugger after a key. -/
def press (d : Debugger) : Key → Debugger
  | .char 's' => { d with running := false }.step
  | .char 'r' => d.run
  | .char 'p' => d.pause
  | .char 'b' => d.toggleBreakpoint
  | .char 'x' => d.reset
  | .up => { d with scroll := d.scroll - 1 }
  | .down => if d.scroll < maxScroll then { d with scroll := d.scroll + 1 } else d
  | _ => d

/-- The debugger after a round with a key. -/
def round (d : Debugger) (key : Key) : Debugger :=
  (d.press key).tick

/-- The key that ends the work. -/
def Key.quits (key : Key) : Bool :=
  key == .char 'q'

/-- The debugger as it is drawn last: before the first key that ends the work, or after all
keys. -/
def lastDrawn (d : Debugger) : List Key → Debugger
  | [] => d
  | key :: rest => if key.quits then d else (d.round key).lastDrawn rest

end Ls8.Debugger
