/-!
# Lines

A line ends with a line feed or with the text; a text that ends with a line feed
has no further, empty line.  The content of a line is what stands before its
line feed and before one carriage return in front of that.
-/

namespace Whitespace
namespace Text

/-- Cut a text after every line feed; `taken` is the start of the first line, reversed. -/
def rawLinesFrom (taken : List Char) : List Char -> List (List Char)
  | [] => if taken.isEmpty then [] else [taken.reverse]
  | c :: rest =>
      if c = '\n' then
        (c :: taken).reverse :: rawLinesFrom [] rest
      else
        rawLinesFrom (c :: taken) rest

def rawLines (text : List Char) : List (List Char) :=
  rawLinesFrom [] text

/-- A line without its end: a line feed, or a carriage return and a line feed. -/
def chomp (line : List Char) : List Char :=
  match line.reverse with
  | '\n' :: '\r' :: rest => rest.reverse
  | '\n' :: rest => rest.reverse
  | _ => line

def lines (text : List Char) : List (List Char) :=
  (rawLines text).map chomp

end Text
end Whitespace
