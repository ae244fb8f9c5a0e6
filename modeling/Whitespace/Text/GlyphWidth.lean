import Whitespace.Text.Blank
import Whitespace.Text.Columns
import Whitespace.Text.Glyph

/-!
# Columns of a glyph

The columns of a glyph are those of its characters, counted from the last to the
first.  A picture takes two columns however many characters spell it: a sign with
a selector, a skin tone on a picture, pictures with joiners between them.
-/

namespace Whitespace
namespace Text

inductive Follower where
  | other
  | signSelector
  | pictureSelector (joined : Bool)
  | picture
  | skinTone
  /-- A joiner in front of a picture. -/
  | joiner
  /-- A Khmer letter, which a coeng puts below the letter before it. -/
  | letter
  deriving DecidableEq, Repr

def isStackedLetter (c : Char) : Bool :=
  inRanges [0x1780, 0x1783, 0x1784, 0x1788, 0x1789, 0x178D, 0x178E, 0x1794, 0x1795, 0x1799,
    0x179B, 0x179E, 0x17A0, 0x17A1, 0x17A2, 0x17A3, 0x17A7, 0x17A8, 0x17AB, 0x17AD, 0x17AF,
    0x17B0] c

def isCoeng (c : Char) : Bool :=
  c.toNat == 0x17D2

def isInvisibleMark (c : Char) : Bool :=
  inRanges [0x34F, 0x350, 0x17B4, 0x17B6, 0x180B, 0x180E, 0x180F, 0x1810, 0x200D, 0x200E, 0xFE00,
    0xFE10, 0xE0100, 0xE01F0] c

/-- Ideographs in a frame stay two columns wide as signs. -/
def isFramedIdeograph (c : Char) : Bool :=
  0x1F200 ≤ c.toNat && c.toNat ≤ 0x1F2FF

namespace Follower

def apart (c : Char) (columns : Nat) : Nat × Follower :=
  if isPictureSelector c then (columns, .pictureSelector false)
  else if isSignSelector c then (columns, .signSelector)
  else if isSkinTone c then (columns + 2, .skinTone)
  else if isPicture c then (columns + 2, .picture)
  else if isStackedLetter c then (columns + 1, .letter)
  else (columns + charWidth c, .other)

def count (c : Char) (columns : Nat) : Follower -> Nat × Follower
  | .other => apart c columns
  | .signSelector =>
      if isSelectable c && isPicture c && !isFramedIdeograph c then (columns + 1, .other)
      else apart c columns
  | .pictureSelector joined =>
      if isSelectable c then (columns + (if joined then 0 else 2), .picture) else apart c columns
  | .picture =>
      if isJoiner c then (columns, .joiner) else apart c columns
  | .skinTone =>
      if isToneBase c then (columns, .picture)
      else if isJoiner c then (columns, .joiner)
      else apart c columns
  | .joiner =>
      if isPictureSelector c then (columns, .pictureSelector true)
      else if isSkinTone c then (columns, .skinTone)
      else if isPicture c then (columns, .picture)
      else apart c columns
  | .letter =>
      if isCoeng c then (columns - 1, .other)
      else if isInvisibleMark c then (columns, .letter)
      else apart c columns

end Follower

namespace Glyph

def width (glyph : Glyph) : Nat :=
  (glyph.chars.foldr (fun c behind => behind.2.count c behind.1) (0, Follower.other)).1

/-- Whether a row of words may be cut at a glyph: at blanks that do not hold words together. -/
def isBlank (glyph : Glyph) : Bool :=
  glyph.chars == ['\u200b'] || (glyph.chars.all Text.isBlank && glyph.chars != ['\u00a0'])

end Glyph

def rowWidth (row : List Glyph) : Nat :=
  row.foldr (fun glyph columns => glyph.width + columns) 0

end Text
end Whitespace
