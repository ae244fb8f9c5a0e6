/-!
# JSON values

Objects keep their fields in the order of the text, repeated keys included, and
numbers keep their literal.  A text that holds half of a surrogate pair in its
escapes is valid as a value but spells no string.
-/

namespace Whitespace

inductive Json where
  | null
  | bool (value : Bool)
  | number (literal : String)
  | text (content : Option String)
  | array (items : List Json)
  | object (fields : List (Option String × Json))

namespace Json

def ofString (content : String) : Json :=
  text (some content)

def ofNat (n : Nat) : Json :=
  number (toString n)

def natural? : Json -> Option Nat
  | number literal => if literal.toList.all Char.isDigit then literal.toNat? else none
  | _ => none

end Json
end Whitespace
