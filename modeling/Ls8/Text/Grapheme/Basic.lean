import Ls8.Text.Basic
import Ls8.Text.Grapheme.Table

/-!
# Grapheme clusters

What a reader takes for one character may be written with several: a letter and its marks, a
syllable of Hangul, a flag, pictographs that are joined. `clusters` splits a text between such
groups, by the rules for extended grapheme clusters. Nothing is lost: `flatten_clusters`.
-/

namespace Ls8.Grapheme

open Text (inRanges)

/-- The part that a character plays in a cluster. -/
inductive Kind where
  | carriageReturn
  | lineFeed
  | control
  | extend
  /-- A mark that joins consonants. -/
  | linker
  /-- The mark that keeps its neighbours apart. -/
  | nonJoiner
  /-- The joiner of pictographs. -/
  | joiner
  | spacing
  | prepend
  | leading
  | vowel
  | trailing
  /-- A syllable of Hangul without a last consonant. -/
  | openSyllable
  /-- A syllable of Hangul with a last consonant. -/
  | closedSyllable
  /-- One of the letters of which two make a flag. -/
  | regional
  | pictograph
  | consonant
  | plain
deriving DecidableEq

/-- The kind of a character outside ASCII. -/
def Kind.tabled (c : Char) : Kind :=
  let n := c.toNat
  if 0xAC00 ≤ n ∧ n ≤ 0xD7A3 then if (n - 0xAC00) % 28 = 0 then .openSyllable else .closedSyllable
  else if n = 0x200C then .nonJoiner
  else if n = 0x200D then .joiner
  else if 0x1F1E6 ≤ n ∧ n ≤ 0x1F1FF then .regional
  else if inRanges linkerRanges c then .linker
  else if inRanges extendRanges c then .extend
  else if inRanges spacingRanges c then .spacing
  else if inRanges controlRanges c then .control
  else if inRanges prependRanges c then .prepend
  else if inRanges leadingRanges c then .leading
  else if inRanges vowelRanges c then .vowel
  else if inRanges trailingRanges c then .trailing
  else if inRanges pictographRanges c then .pictograph
  else if inRanges consonantRanges c then .consonant
  else .plain

def Kind.of (c : Char) : Kind :=
  if c = '\r' then .carriageReturn
  else if c = '\n' then .lineFeed
  else if c.toNat < 0x20 ∨ c.toNat = 0x7F then .control
  else if c.toNat < 0x80 then .plain
  else .tabled c

/-- What a cluster that has been read so far may go on with. -/
inductive Tail where
  /-- A line feed only. -/
  | carriageReturn
  /-- Nothing. -/
  | closed
  /-- Anything but a control. -/
  | prepend
  /-- A syllable or its beginning. -/
  | leading
  /-- A vowel or a last consonant. -/
  | vowel
  /-- A last consonant. -/
  | trailing
  /-- The second letter of a flag. -/
  | regional
  /-- A joiner that counts. -/
  | pictograph
  /-- A pictograph. -/
  | joined
  /-- A linker that counts. -/
  | consonant
  /-- A consonant. -/
  | linked
  /-- Marks. -/
  | plain
deriving DecidableEq

namespace Tail

def begin : Kind → Tail
  | .carriageReturn => carriageReturn
  | .lineFeed | .control => closed
  | .prepend => prepend
  | .leading => leading
  | .vowel | .openSyllable => vowel
  | .trailing | .closedSyllable => trailing
  | .regional => regional
  | .pictograph => pictograph
  | .consonant => consonant
  | .extend | .linker | .nonJoiner | .joiner | .spacing | .plain => plain

def afterMark : Tail → Tail
  | pictograph => pictograph
  | consonant => consonant
  | linked => linked
  | _ => plain

def afterLinker : Tail → Tail
  | pictograph => pictograph
  | consonant | linked => linked
  | _ => plain

/-- After the mark that keeps its neighbours apart. -/
def afterNonJoiner : Tail → Tail
  | pictograph => pictograph
  | _ => plain

def afterJoiner : Tail → Tail
  | pictograph => joined
  | consonant => consonant
  | linked => linked
  | _ => plain

/-- After a further character, unless a new cluster begins with it. -/
def next? : Tail → Kind → Option Tail
  | carriageReturn, .lineFeed => some closed
  | carriageReturn, _ | closed, _ => none
  | _, .carriageReturn | _, .lineFeed | _, .control => none
  | t, .extend => some t.afterMark
  | t, .linker => some t.afterLinker
  | t, .nonJoiner => some t.afterNonJoiner
  | t, .joiner => some t.afterJoiner
  | _, .spacing => some plain
  | prepend, k => some (begin k)
  | leading, .leading => some leading
  | leading, .vowel | leading, .openSyllable => some vowel
  | leading, .closedSyllable => some trailing
  | vowel, .vowel => some vowel
  | vowel, .trailing | trailing, .trailing => some trailing
  | regional, .regional => some plain
  | joined, .pictograph => some pictograph
  | linked, .consonant => some consonant
  | _, _ => none

end Tail

/-- The clusters of a text, the first of which begins with `read`, last character first. -/
def clustersFrom (read : List Char) (tail : Tail) : List Char → List (List Char)
  | [] => [read.reverse]
  | c :: rest =>
    match tail.next? (.of c) with
    | some tail => clustersFrom (c :: read) tail rest
    | none => read.reverse :: clustersFrom [c] (.begin (.of c)) rest

def clusters : List Char → List (List Char)
  | [] => []
  | c :: rest => clustersFrom [c] (.begin (.of c)) rest

theorem flatten_clustersFrom (read : List Char) (tail : Tail) (cs : List Char) :
    (clustersFrom read tail cs).flatten = read.reverse ++ cs := by
  induction cs generalizing read tail with
  | nil => simp [clustersFrom]
  | cons c rest ih =>
    rw [clustersFrom]
    split
    · simp [ih]
    · simp [ih]

theorem flatten_clusters (cs : List Char) : (clusters cs).flatten = cs := by
  cases cs with
  | nil => rfl
  | cons c rest => simp [clusters, flatten_clustersFrom]

end Ls8.Grapheme
