/-!
# Patterns

A pattern describes texts.  It is matched at the front of a text, and every way
to match it leaves a rest.  The ways come in the order in which they are tried:
a first choice before a second one, and more rounds of a repetition before fewer.
-/

namespace Whitespace
namespace Text

inductive Pattern where
  | empty
  | one (accepts : Char -> Bool)
  | sequence (first second : Pattern)
  | choice (first second : Pattern)
  | many (inner : Pattern)

namespace Pattern

def literal (c : Char) : Pattern :=
  one (· == c)

def optional (inner : Pattern) : Pattern :=
  choice inner empty

def repeated (inner : Pattern) : Pattern :=
  sequence inner (many inner)

def chain (patterns : List Pattern) : Pattern :=
  patterns.foldr sequence empty

def rounds (round : List Char -> List (List Char)) : Nat -> List Char -> List (List Char)
  | 0, text => [text]
  | count + 1, text => (round text).flatMap (rounds round count) ++ [text]

/-- What matches leave of a text.  A repetition needs no more rounds than the text has
characters, since a round that takes none changes nothing. -/
def rests : Pattern -> List Char -> List (List Char)
  | empty, text => [text]
  | one accepts, text =>
      match text with
      | [] => []
      | c :: rest => if accepts c then [rest] else []
  | sequence first second, text => (first.rests text).flatMap second.rests
  | choice first second, text => first.rests text ++ second.rests text
  | many inner, text => rounds inner.rests text.length text

def isMatch (pattern : Pattern) (text : List Char) : Bool :=
  (pattern.rests text).any List.isEmpty

/-- What a group matches between two patterns that take the ends of the text. -/
def capture? (before group behind : Pattern) (text : List Char) : Option (List Char) :=
  (before.rests text).findSome? fun inside =>
    ((group.rests inside).find? behind.isMatch).map fun rest =>
      inside.take (inside.length - rest.length)

end Pattern
end Text
end Whitespace
