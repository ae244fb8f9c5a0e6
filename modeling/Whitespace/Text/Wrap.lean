import Whitespace.Text.GlyphWidth

/-!
# Wrapped lines

A line that is too long for its row goes on in the next one.  It is cut behind a
word where it can be; the blanks at the cut fill up the row and are dropped.  A
word that is longer than a row is cut anywhere.  A line of blanks alone has an
empty row in front of it.
-/

namespace Whitespace
namespace Text

structure Wrapping where
  row : List Glyph := []
  blanks : List Glyph := []
  word : List Glyph := []
  inWord : Bool := false

namespace Wrapping

def columns (state : Wrapping) : Nat :=
  rowWidth state.row + rowWidth state.blanks + rowWidth state.word

def settle (state : Wrapping) : Wrapping :=
  { state with row := state.row ++ state.blanks ++ state.word, blanks := [], word := [] }

def add (state : Wrapping) (glyph : Glyph) : Wrapping :=
  if glyph.isBlank then
    { state with blanks := state.blanks ++ [glyph], inWord := false }
  else
    { state with word := state.word ++ [glyph], inWord := true }

/-- The blanks that are left when the first of them fill up the room in a row. -/
def dropFitting (room : Nat) : List Glyph -> List Glyph
  | [] => []
  | blank :: rest =>
      if blank.width ≤ room then dropFitting (room - blank.width) rest else blank :: rest

def breakRow (limit : Nat) (state : Wrapping) : Wrapping :=
  { state with
    row := [], blanks := dropFitting (limit - rowWidth state.row) state.blanks }

/-- Whether the row is settled before a glyph: behind a word, or when it is too long for a row. -/
def settlesBefore (limit : Nat) (state : Wrapping) (glyph : Glyph) : Bool :=
  (state.inWord && glyph.isBlank) ||
    (state.row.isEmpty &&
      limit < rowWidth state.word + rowWidth state.blanks + glyph.width)

def fullBefore (limit : Nat) (state : Wrapping) (glyph : Glyph) : Bool :=
  limit ≤ rowWidth state.row || (0 < glyph.width && limit ≤ state.columns)

def finish (state : Wrapping) : List (List Glyph) :=
  let last := state.settle.row
  if last.isEmpty then []
  else if state.row.isEmpty ∧ state.word.isEmpty then [[], last]
  else [last]

def rows (limit : Nat) (state : Wrapping) : List Glyph -> List (List Glyph)
  | [] => state.finish
  | glyph :: rest =>
      if limit < glyph.width then rows limit state rest
      else
        let state := if state.settlesBefore limit glyph then state.settle else state
        if state.fullBefore limit glyph then
          let next := state.breakRow limit
          let next := if glyph.isBlank ∧ next.blanks.isEmpty then next else next.add glyph
          state.row :: rows limit next rest
        else
          rows limit (state.add glyph) rest

end Wrapping

/-- The rows of a line on a screen with `limit` columns; there is at least one. -/
def wrap (limit : Nat) (line : List Char) : List (List Glyph) :=
  match Wrapping.rows limit {} (glyphs line) with
  | [] => [[]]
  | rows => rows

def cut : Nat -> List Glyph -> List Glyph
  | _, [] => []
  | room, glyph :: rest =>
      if glyph.width ≤ room then glyph :: cut (room - glyph.width) rest else []

end Text
end Whitespace
