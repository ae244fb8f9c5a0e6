/-!
# Padding

Texts brought to a least width; longer texts stay as they are.
-/

namespace Whitespace
namespace Text

def padLeft (width : Nat) (fill : Char) (text : String) : String :=
  String.ofList (List.replicate (width - text.length) fill) ++ text

def padRight (width : Nat) (fill : Char) (text : String) : String :=
  text ++ String.ofList (List.replicate (width - text.length) fill)

end Text
end Whitespace
