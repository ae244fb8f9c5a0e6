import Whitespace.Text.Shapeless

/-!
# Quoted text

Quoted text shows every character: line ends, tabs, the backslash and the quote
in use are escaped, and a character without a shape of its own is written as its
number in hexadecimal.
-/

namespace Whitespace
namespace Text

def escapeNumber (c : Char) : String :=
  "\\u\x7b" ++ String.ofList (Nat.toDigits 16 c.toNat) ++ "\x7d"

def escape (quote : Char) (c : Char) : String :=
  if c = '\x00' then "\\0"
  else if c = '\t' then "\\t"
  else if c = '\r' then "\\r"
  else if c = '\n' then "\\n"
  else if c = '\\' ∨ c = quote then String.ofList ['\\', c]
  else if isShapeless c then escapeNumber c
  else c.toString

def quoteString (text : String) : String :=
  "\"" ++ String.join (text.toList.map (escape '"')) ++ "\""

def quoteChar (c : Char) : String :=
  "'" ++ escape '\'' c ++ "'"

end Text
end Whitespace
