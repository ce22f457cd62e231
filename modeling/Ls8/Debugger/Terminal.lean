import Ls8.Debugger.Screen
import Ls8.Text.Numeral

/-!
# Terminals

How a screen is drawn on a terminal. Styles are control sequences, which begin with an escape
character and a bracket. The cells that a wide symbol covers are not drawn.
-/

namespace Ls8.Terminal

open Numeral (decimal)
open Screen (Colour Row Style)

/-- The beginning of a control sequence. -/
def escape : String := "\x1b["

def clear : String := escape ++ "2J" ++ escape ++ "H"

def colourNumber : Colour → Nat
  | .red => 31
  | .green => 32
  | .yellow => 33
  | .magenta => 35
  | .cyan => 36
  | .white => 37
  | .darkGray => 90

def select (style : Style) : String :=
  escape ++ "0" ++ (if style.bold then ";1" else "") ++
    style.colour.elim "" (fun colour => ";" ++ decimal (colourNumber colour)) ++ "m"

/-- The cells of a row that are drawn, of which the first `covered` are not. -/
def drawnFrom (covered : Nat) : Row → Row
  | [] => []
  | cell :: rest =>
    match covered with
    | 0 => cell :: drawnFrom (Width.ofCluster cell.symbol.toList - 1) rest
    | covered + 1 => drawnFrom covered rest

def drawRow (row : Row) : String :=
  String.join (((drawnFrom 0 row).splitBy fun a b => a.style == b.style).map fun cells =>
    select ((cells.head?.map (·.style)).getD {}) ++ Screen.text cells) ++ select .plain

def draw (rows : List Row) : String :=
  clear ++ "\n".intercalate (rows.map drawRow)

end Ls8.Terminal
