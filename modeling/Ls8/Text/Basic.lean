/-!
# Texts

White space, lines and columns, for texts as lists of characters. A set of characters is written as a
list of inclusive ranges of code points.
-/

namespace Ls8.Text

def inRanges (ranges : List (Nat × Nat)) (c : Char) : Bool :=
  ranges.any fun (low, high) => low ≤ c.toNat && c.toNat ≤ high

/-! ## White space

`isBlank` is the Unicode property White_Space; `trim` takes such characters off both ends. -/

/-- The inclusive ranges of code points that are white space. -/
def blankRanges : List (Nat × Nat) :=
  [(0x09, 0x0D), (0x20, 0x20), (0x85, 0x85), (0xA0, 0xA0), (0x1680, 0x1680), (0x2000, 0x200A),
    (0x2028, 0x2029), (0x202F, 0x202F), (0x205F, 0x205F), (0x3000, 0x3000)]

def isBlank (c : Char) : Bool :=
  inRanges blankRanges c

def trimEnd (cs : List Char) : List Char :=
  (cs.reverse.dropWhile isBlank).reverse

def trim (cs : List Char) : List Char :=
  trimEnd (cs.dropWhile isBlank)

/-- The first word of a trimmed text, and what follows the white space character after it. -/
def splitWord (cs : List Char) : List Char × List Char :=
  (cs.takeWhile (!isBlank ·), (cs.dropWhile (!isBlank ·)).drop 1)

/-! ## Lines

A text is cut at its line feeds. A carriage return right before a line feed belongs to the line
end, and a text that ends in a line feed has no further, empty line. -/

/-- Drops one carriage return at the end. -/
def dropReturn (cs : List Char) : List Char :=
  if cs.getLast? = some '\r' then cs.dropLast else cs

/-- The lines among the segments between line feeds: all but the last segment ended in one. -/
def finishLines : List (List Char) → List (List Char)
  | [] => []
  | [last] => if last.isEmpty then [] else [last]
  | segment :: rest => dropReturn segment :: finishLines rest

/-- The lines of a text, without their ends. -/
def lines (cs : List Char) : List (List Char) :=
  finishLines (cs.splitOn '\n')

/-! ## Columns

Texts filled up with spaces to the width of a column. A wider text stays as it is. -/

def leftAligned (width : Nat) (s : String) : String :=
  String.ofList (s.toList.rightpad width ' ')

def rightAligned (width : Nat) (s : String) : String :=
  String.ofList (s.toList.leftpad width ' ')

end Ls8.Text
