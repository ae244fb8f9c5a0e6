import Whitespace.Style
import Whitespace.Json.Reader

/-!
# Style descriptions in JSON

A description is an object with the fields `name`, `space`, `tab` and `lf`, or
an array of these four texts in order.  Each field is given once; other fields
are ignored.
-/

namespace Whitespace
namespace Style
namespace Spec

def valuesOf (key : String) (fields : List (Option String × Json)) : List Json :=
  (fields.filter fun field => field.1 == some key).map Prod.snd

def textField? (key : String) (fields : List (Option String × Json)) : Option String :=
  match valuesOf key fields with
  | [.text (some content)] => some content
  | _ => none

def ofFields? (fields : List (Option String × Json)) : Option Spec := do
  if fields.any fun field => field.1.isNone then none
  else
    return {
      name := (<- textField? "name" fields)
      space := (<- textField? "space" fields)
      tab := (<- textField? "tab" fields)
      lineFeed := (<- textField? "lf" fields) }

def ofJson? : Json -> Option Spec
  | .object fields => ofFields? fields
  | .array [.text (some name), .text (some space), .text (some tab), .text (some lineFeed)] =>
      some ⟨name, space, tab, lineFeed⟩
  | _ => none

end Spec

def ofDescription (text : String) : Except StyleError Style :=
  match (Json.parse? text).bind Spec.ofJson? with
  | none => .error .malformed
  | some spec => ofSpec spec

end Style
end Whitespace
