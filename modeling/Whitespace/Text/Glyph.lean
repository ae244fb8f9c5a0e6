import Whitespace.Text.Conjunct
import Whitespace.Text.Emoji
import Whitespace.Text.Extending
import Whitespace.Text.Ignorable
import Whitespace.Text.SpacingMark

/-!
# Glyphs

A glyph is what a reader takes for one character: a base together with the marks
and joined characters that follow it.
-/

namespace Whitespace
namespace Text

structure Glyph where
  base : Char
  marks : List Char := []
  deriving DecidableEq, Repr

namespace Glyph

def chars (glyph : Glyph) : List Char :=
  glyph.base :: glyph.marks

def text (glyph : Glyph) : String :=
  String.ofList glyph.chars

end Glyph

/-!
# Kinds of characters

Hangul syllables are written whole, or spelled with leading consonants, vowels
and trailing consonants.
-/

def isJoiner (c : Char) : Bool :=
  c.toNat == 0x200D

def isLeadingConsonant (c : Char) : Bool :=
  inRanges [0x1100, 0x1160, 0xA960, 0xA97D] c

def isVowel (c : Char) : Bool :=
  inRanges [0x1160, 0x11A8, 0xD7B0, 0xD7C7, 0x16D63, 0x16D64, 0x16D67, 0x16D6B] c

def isTrailingConsonant (c : Char) : Bool :=
  inRanges [0x11A8, 0x1200, 0xD7CB, 0xD7FC] c

def isSyllable (c : Char) : Bool :=
  inRanges [0xAC00, 0xD7A4] c

/-- Syllables without a trailing consonant: every twenty-eighth one. -/
def isOpenSyllable (c : Char) : Bool :=
  isSyllable c && (c.toNat - 0xAC00) % 28 == 0

/-- Signs that are written in front of the character they belong to. -/
def isPrepended (c : Char) : Bool :=
  inRanges [0x600, 0x606, 0x6DD, 0x6DE, 0x70F, 0x710, 0x890, 0x892, 0x8E2, 0x8E3, 0xD4E, 0xD4F,
    0x110BD, 0x110BE, 0x110CD, 0x110CE, 0x111C2, 0x111C4, 0x113D1, 0x113D2, 0x1193F, 0x11940,
    0x11941, 0x11942, 0x11A84, 0x11A8A, 0x11D46, 0x11D47, 0x11F02, 0x11F03] c

def isFiller (c : Char) : Bool :=
  inRanges [0x115F, 0x1161, 0x3164, 0x3165, 0xFFA0, 0xFFA1] c

/-- Characters that stand alone: control and format characters and line ends. -/
def isSolitary (c : Char) : Bool :=
  inRanges [0x0, 0x20, 0x7F, 0xA0, 0x2028, 0x202A, 0xFFF9, 0xFFFC, 0x13430, 0x13440] c ||
    (isIgnorable c && !isExtending c && !isJoiner c && !isFiller c)

def isMark (c : Char) : Bool :=
  isExtending c || isSkinTone c

/-!
# Cutting a text into glyphs

Whether a character goes on with a glyph depends on the characters of the glyph
so far, which are given here from the last to the first.
-/

def joinsSyllable (last c : Char) : Bool :=
  (isLeadingConsonant last && (isLeadingConsonant c || isVowel c || isSyllable c)) ||
    ((isOpenSyllable last || isVowel last) && (isVowel c || isTrailingConsonant c)) ||
    ((isSyllable last || isTrailingConsonant last) && isTrailingConsonant c)

def joinsEmoji (before : List Char) (c : Char) : Bool :=
  isPictograph c &&
    match before with
    | joiner :: earlier => isJoiner joiner && (earlier.dropWhile isMark).head?.any isPictograph
    | [] => false

def joinsFlag (before : List Char) (c : Char) : Bool :=
  isFlagLetter c && (before.takeWhile isFlagLetter).length % 2 == 1

/-- Two consonants with a virama between them, and no sign that keeps them apart. -/
def joinsConsonant (before : List Char) (c : Char) : Bool :=
  let between := fun d => (isMark d && d.toNat != 0x200C) || isJoiner d
  isBoundConsonant c && (before.takeWhile between).any isVirama &&
    (before.dropWhile between).head?.any isBoundConsonant

def joins (before : List Char) (c : Char) : Bool :=
  match before with
  | [] => false
  | last :: _ =>
      if isSolitary last || isSolitary c then false
      else
        isMark c || isJoiner c || isSpacingMark c || isPrepended last || joinsSyllable last c ||
          joinsEmoji before c || joinsFlag before c || joinsConsonant before c

def glyphsFrom (glyph : Glyph) : List Char -> List Glyph
  | [] => [glyph]
  | c :: rest =>
      if joins glyph.chars.reverse c then
        glyphsFrom { glyph with marks := glyph.marks ++ [c] } rest
      else
        glyph :: glyphsFrom { base := c } rest

def glyphs : List Char -> List Glyph
  | [] => []
  | c :: rest => glyphsFrom { base := c } rest

end Text
end Whitespace
