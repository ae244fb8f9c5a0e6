import Whitespace.Text.GlyphWidth

/-!
# Character screens

A screen is a list of rows of cells.  Panels are boxes with a title; they are
joined side by side and one above the other.  A glyph of two columns stands in
the first of its cells and covers the second.
-/

namespace Whitespace

inductive Colour where
  | red
  | green
  | yellow
  | magenta
  | cyan
  | gray
  | darkGray
  | white
  deriving DecidableEq, Repr

def Colour.name : Colour -> String
  | red => "Red"
  | green => "Green"
  | yellow => "Yellow"
  | magenta => "Magenta"
  | cyan => "Cyan"
  | gray => "Gray"
  | darkGray => "DarkGray"
  | white => "White"

structure Paint where
  colour : Option Colour := none
  bold : Bool := false
  deriving DecidableEq, Repr, Inhabited

namespace Paint

def plain : Paint := {}

def of (colour : Colour) : Paint :=
  { colour := some colour }

end Paint

structure Cell where
  glyph : Text.Glyph
  paint : Paint
  deriving DecidableEq, Repr

namespace Cell

def ofChar (paint : Paint) (c : Char) : Cell :=
  ⟨{ base := c }, paint⟩

def blank (paint : Paint) : Cell :=
  ofChar paint ' '

def ofGlyph (paint : Paint) (glyph : Text.Glyph) : List Cell :=
  match glyph.width with
  | 0 => []
  | more + 1 => ⟨glyph, paint⟩ :: List.replicate more (blank paint)

end Cell

def paintGlyphs (paint : Paint) (glyphs : List Text.Glyph) : List Cell :=
  glyphs.flatMap (Cell.ofGlyph paint)

def paintText (paint : Paint) (text : String) : List Cell :=
  paintGlyphs paint (Text.glyphs text.toList)

structure ContentRow where
  cells : List Cell
  fill : Paint

namespace ContentRow

def ofGlyphs (paint : Paint) (glyphs : List Text.Glyph) : ContentRow :=
  ⟨paintGlyphs paint glyphs, paint⟩

def filled (paint : Paint) (text : String) : ContentRow :=
  ⟨paintText paint text, paint⟩

def spans (parts : List (Paint × String)) : ContentRow :=
  ⟨parts.flatMap fun part => paintText part.1 part.2, Paint.plain⟩

def fit (width : Nat) (row : ContentRow) : List Cell :=
  (row.cells ++ List.replicate (width - row.cells.length) (Cell.blank row.fill)).take width

end ContentRow

abbrev Screen := List (List Cell)

namespace Screen

def topEdge (width : Nat) (border : Paint) (title : String) : List Cell :=
  let title := title.toList.take (width - 2)
  let line := title ++ List.replicate (width - 2 - title.length) '─'
  ('┌' :: line ++ ['┐']).map (Cell.ofChar border)

def bottomEdge (width : Nat) (border : Paint) : List Cell :=
  ('└' :: List.replicate (width - 2) '─' ++ ['┘']).map (Cell.ofChar border)

def panel (width height : Nat) (border fill : Paint) (title : String)
    (content : List ContentRow) : Screen :=
  let edge := Cell.ofChar border '│'
  let visible := content.take (height - 2)
  let blank : List ContentRow := List.replicate (height - 2 - visible.length) ⟨[], fill⟩
  let inner := (visible ++ blank).map fun row => edge :: row.fit (width - 2) ++ [edge]
  topEdge width border title :: inner ++ [bottomEdge width border]

def beside (left right : Screen) : Screen :=
  List.zipWith (· ++ ·) left right

/-- A row as it is seen: behind the cell of a wide glyph there is a plain blank. -/
def cover (covered : Bool) : List Cell -> List Cell
  | [] => []
  | cell :: rest =>
      (if covered then Cell.blank Paint.plain else cell) :: cover (1 < cell.glyph.width) rest

def shown (screen : Screen) : Screen :=
  screen.map (cover false)

/-!
# Rows as text and as runs of paint
-/

def rowText (row : List Cell) : String :=
  String.join (row.map fun cell => cell.glyph.text)

structure Run where
  column : Nat
  length : Nat
  paint : Paint
  deriving DecidableEq, Repr

def allRuns (column : Nat) : List Cell -> List Run
  | [] => []
  | cell :: rest =>
      match allRuns (column + 1) rest with
      | [] => [⟨column, 1, cell.paint⟩]
      | run :: runs =>
          if run.paint = cell.paint then ⟨column, run.length + 1, run.paint⟩ :: runs
          else ⟨column, 1, cell.paint⟩ :: run :: runs

def runs (row : List Cell) : List Run :=
  (allRuns 0 row).filter fun run => run.paint != Paint.plain

end Screen
end Whitespace
