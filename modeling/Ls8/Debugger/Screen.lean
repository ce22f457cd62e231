import Ls8.Text.Grapheme.Basic
import Ls8.Text.Width.Basic

/-!
# Screens

A screen is made of rows of cells, a cell being a symbol and a style. A symbol is what a reader
takes for one character; a wide one takes its cell and leaves those behind it blank. A panel is a
box with a title and lines of styled text, cut at its inner width and height.
-/

namespace Ls8.Screen

inductive Colour where
  | yellow
  | red
  | cyan
  | green
  | white
  | magenta
  | darkGray
deriving DecidableEq

def Colour.name : Colour → String
  | yellow => "Yellow"
  | red => "Red"
  | cyan => "Cyan"
  | green => "Green"
  | white => "White"
  | magenta => "Magenta"
  | darkGray => "DarkGray"

/-- How a cell looks. -/
structure Style where
  colour : Option Colour := none
  bold : Bool := false
deriving DecidableEq

def Style.plain : Style := {}

def Style.of (colour : Colour) : Style :=
  { colour := some colour }

def Style.boldOf (colour : Colour) : Style :=
  { colour := some colour, bold := true }

/-- A style laid over another: it keeps what the upper one leaves open. -/
def Style.over (upper lower : Style) : Style :=
  { colour := upper.colour <|> lower.colour, bold := upper.bold || lower.bold }

structure Cell where
  symbol : String
  style : Style
deriving DecidableEq

def Cell.blank (style : Style) : Cell :=
  ⟨" ", style⟩

abbrev Row := List Cell

/-- A piece of text in one style. -/
structure Span where
  text : String
  style : Style := {}

/-- A line of text; its style covers the whole width. -/
structure Line where
  spans : List Span
  style : Style := {}

def Line.plain (text : String) : Line :=
  { spans := [⟨text, {}⟩] }

/-- A symbol with the number of cells that it takes. -/
structure Glyph where
  symbol : String
  width : Nat
  style : Style

/-- The glyphs of a piece of text, over a style. -/
def Span.glyphs (span : Span) (lower : Style) : List Glyph :=
  (Grapheme.clusters span.text.toList).map fun cluster =>
    ⟨String.ofList cluster, Width.ofCluster cluster, span.style.over lower⟩

/-- The cell of a glyph and those that it covers. -/
def Glyph.cells (glyph : Glyph) (ground : Style) : Row :=
  ⟨glyph.symbol, glyph.style⟩ :: List.replicate (glyph.width - 1) (Cell.blank ground)

/-- The cells of glyphs up to the first that does not fit into `room` cells. -/
def fitting (ground : Style) (room : Nat) : List Glyph → Row
  | [] => []
  | glyph :: rest =>
    if glyph.width ≤ room then glyph.cells ground ++ fitting ground (room - glyph.width) rest
    else []

/-- The cells of a line that is `width` cells wide, over a style. A glyph without a width, or wider
than the whole line, is left out. -/
def Line.cells (line : Line) (width : Nat) (lower : Style) : Row :=
  let ground := line.style.over lower
  let glyphs := (line.spans.flatMap (·.glyphs ground)).filter fun glyph =>
    0 < glyph.width && glyph.width ≤ width
  (fitting ground width glyphs ++ List.replicate width (Cell.blank ground)).take width

/-- A box with a title and text. -/
structure Panel where
  title : String
  lines : List Line
  /-- The style of the whole box. -/
  style : Style := {}
  /-- The style of the frame and the title. -/
  frame : Style := {}

namespace Panel

/-- A row of the frame: two ends and a fill, with text after the first end. -/
def edge (p : Panel) (width : Nat) (left fill right : Char) (text : String) : Row :=
  let inner := width - 2
  let chars := left :: (text.toList ++ List.replicate inner fill).take inner ++ [right]
  (chars.take width).map fun c => ⟨String.singleton c, p.frame.over p.style⟩

/-- A row between the edges. -/
def body (p : Panel) (width : Nat) (line : Line) : Row :=
  let side : Cell := ⟨"│", p.frame.over p.style⟩
  (side :: line.cells (width - 2) p.style ++ [side]).take width

def rows (p : Panel) (width height : Nat) : List Row :=
  let inner := height - 2
  let lines := (p.lines ++ List.replicate inner (Line.plain "")).take inner
  (p.edge width '┌' '─' '┐' p.title :: lines.map (p.body width) ++
    [p.edge width '└' '─' '┘' ""]).take height

end Panel

/-! ## Looking at a screen -/

def text (row : Row) : String :=
  String.join (row.map (·.symbol))

/-- A stretch of neighbouring cells of one style. -/
structure Run where
  column : Nat
  length : Nat
  style : Style

/-- The stretches of a row, the first of which starts at `column`. -/
def runsFrom (column : Nat) : List Row → List Run
  | [] => []
  | cells :: rest =>
    ⟨column, cells.length, (cells.head?.map (·.style)).getD {}⟩ ::
      runsFrom (column + cells.length) rest

/-- The longest stretches of one style in a row, without the plain ones. -/
def runs (row : Row) : List Run :=
  (runsFrom 0 (row.splitBy fun a b => a.style == b.style)).filter (·.style != {})

end Ls8.Screen
