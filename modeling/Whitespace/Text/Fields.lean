/-!
# Fields

Cutting a text at every occurrence of a separator.  There is always one field
more than there are separators.
-/

namespace Whitespace
namespace Text

def fields (separator : Char) : List Char -> List (List Char)
  | [] => [[]]
  | c :: rest =>
      if c = separator then [] :: fields separator rest
      else
        match fields separator rest with
        | [] => [[c]]
        | field :: others => (c :: field) :: others

end Text
end Whitespace
