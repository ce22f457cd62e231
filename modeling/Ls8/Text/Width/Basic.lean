import Ls8.Text.Basic
import Ls8.Text.Grapheme.Table
import Ls8.Text.Width.Table

/-!
# Widths

The number of cells that a grapheme cluster takes on a screen. A character takes one cell or two, or
none if it is a mark; in some sequences characters are shown as one, and then they share two cells.
Control characters take one cell.
-/

namespace Ls8.Width

open Text (inRanges)

/-- The width of a character that stands alone. -/
def ofChar (c : Char) : Nat :=
  if c.toNat ≤ 0xA0 then 1
  else if inRanges hiddenRanges c then 0
  else if inRanges Grapheme.extendRanges c && !inRanges standingRanges c then 0
  else if c.toNat = 0x17D8 then 3
  else if c.toNat = 0x17A4 || inRanges wideRanges c then 2
  else 1

/-- The selector of the emoji look. -/
def isEmojiSelector (c : Char) : Bool :=
  c.toNat == 0xFE0F

/-- The selector of the text look. -/
def isTextSelector (c : Char) : Bool :=
  c.toNat == 0xFE0E

/-- A skin tone. -/
def isModifier (c : Char) : Bool :=
  0x1F3FB ≤ c.toNat && c.toNat ≤ 0x1F3FF

def isJoiner (c : Char) : Bool :=
  c.toNat == 0x200D

/-- One of the letters of which two make a flag. -/
def isRegional (c : Char) : Bool :=
  0x1F1E6 ≤ c.toNat && c.toNat ≤ 0x1F1FF

/-- The sign that makes a key of the character in front of it. -/
def isKeycap (c : Char) : Bool :=
  c.toNat == 0x20E3

/-- The flag that tags may follow. -/
def isFlag (c : Char) : Bool :=
  c.toNat == 0x1F3F4

/-- The tag that ends tags. -/
def isLastTag (c : Char) : Bool :=
  c.toNat == 0xE007F

def isLetterTag (c : Char) : Bool :=
  0xE0061 ≤ c.toNat && c.toNat ≤ 0xE007A

def isDigitTag (c : Char) : Bool :=
  0xE0030 ≤ c.toNat && c.toNat ≤ 0xE0039

/-- The sign of Khmer that puts the next letter below the last. -/
def isStacker (c : Char) : Bool :=
  c.toNat == 0x17D2

/-- A pictograph that the selector of the text look makes narrow. The squared ideographs stay
wide. -/
def isNarrowable (c : Char) : Bool :=
  inRanges emojiRanges c && inRanges selectableRanges c && !(c.toNat / 0x100 == 0x1F2)

/-- What stands behind a character, as far as it bears upon its width. -/
inductive Behind where
  | nothing
  | emojiSelector
  | textSelector
  | modifier
  | emoji
  /-- A letter that can be put below the last. -/
  | stackable
  /-- A joiner with a pictograph behind it. -/
  | joiner
  /-- A selector of the emoji look, with such a joiner behind it or behind the sign of a key. -/
  | joinedSelector
  /-- The sign of a key with such a joiner behind it. -/
  | joinedKeycap
  /-- The second letter of a flag with such a joiner behind it. -/
  | joinedRegional
  /-- Tags with such a joiner behind them: digits, and letters behind those. -/
  | joinedTags (digits letters : Nat)
deriving DecidableEq

/-- What stands behind the characters in front of a character. -/
def Behind.ofChar (c : Char) : Behind :=
  if isEmojiSelector c then emojiSelector
  else if isTextSelector c then textSelector
  else if isModifier c then modifier
  else if inRanges emojiRanges c then emoji
  else if inRanges stackableRanges c then stackable
  else nothing

/-- Adds a character that nothing behind it bears upon. -/
def alone (c : Char) (width : Nat) : Nat × Behind :=
  (width + Width.ofChar c, if c.toNat ≤ 0xA0 then .nothing else .ofChar c)

/-- Adds a character in front of a joiner. -/
def beforeJoiner (c : Char) (width : Nat) : Nat × Behind :=
  if isEmojiSelector c then (width, .joinedSelector)
  else if isModifier c then (width, .modifier)
  else if isKeycap c then (width, .joinedKeycap)
  else if isRegional c then (width + 1, .joinedRegional)
  else if isLastTag c then (width, .joinedTags 0 0)
  else if inRanges emojiRanges c then (width, .emoji)
  else alone c width

/-- Adds a character in front of tags. The tags of a region are its two letters or three digits
and up to four letters for a part of it; only whole ones belong to the flag. -/
def beforeTags (c : Char) (digits letters width : Nat) : Nat × Behind :=
  if isLetterTag c ∧ digits = 0 ∧ letters < 6 then (width, .joinedTags 0 (letters + 1))
  else if isDigitTag c ∧ digits < 3 ∧ letters ≤ 4 then (width, .joinedTags (digits + 1) letters)
  else if isFlag c ∧ (digits = 3 ∨ digits = 0 ∧ 3 ≤ letters) then (width, .emoji)
  else alone c width

/-- Adds a character in front of a text, given the width of the text and what it begins with. -/
def before (c : Char) : Nat × Behind → Nat × Behind
  | (width, .nothing) => alone c width
  | (width, .emojiSelector) =>
    if inRanges selectableRanges c then (width + 2, .emoji) else alone c width
  | (width, .textSelector) =>
    if isEmojiSelector c then (width, .emojiSelector)
    else if isNarrowable c then (width + 1, .nothing)
    else alone c width
  | (width, .modifier) =>
    if inRanges modifiableRanges c then (width, .emoji)
    else if isJoiner c then (width, .joiner)
    else alone c width
  | (width, .emoji) => if isJoiner c then (width, .joiner) else alone c width
  | (width, .stackable) =>
    if isStacker c then (width - 1, .nothing)
    else if inRanges transparentRanges c then (width, .stackable)
    else alone c width
  | (width, .joiner) => beforeJoiner c width
  | (width, .joinedSelector) =>
    if inRanges selectableRanges c then (width, .emoji) else alone c width
  | (width, .joinedKeycap) =>
    if isEmojiSelector c then (width, .joinedSelector) else alone c width
  | (width, .joinedRegional) =>
    if isRegional c then (width - 1, .nothing) else alone c width
  | (width, .joinedTags digits letters) => beforeTags c digits letters width

def ofCluster (cs : List Char) : Nat :=
  (cs.foldr before (0, .nothing)).1

end Ls8.Width
