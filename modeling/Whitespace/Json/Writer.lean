import Whitespace.Json

/-!
# Writing JSON

Compact text has no blanks.  Pretty text puts every item and field on a line of
its own, two blanks deeper than what holds it; empty containers stay on one line.
-/

namespace Whitespace
namespace Json

/-!
# Quoted texts
-/

def escapeControl (c : Char) : String :=
  "\\u" ++ String.ofList (List.replicate (4 - (Nat.toDigits 16 c.toNat).length) '0') ++
    String.ofList (Nat.toDigits 16 c.toNat)

def escape (c : Char) : String :=
  if c = '"' then "\\\""
  else if c = '\\' then "\\\\"
  else if c = '\x08' then "\\b"
  else if c = '\x0c' then "\\f"
  else if c = '\n' then "\\n"
  else if c = '\r' then "\\r"
  else if c = '\t' then "\\t"
  else if c.toNat < 0x20 then escapeControl c
  else c.toString

def quote (content : String) : String :=
  "\"" ++ String.join (content.toList.map escape) ++ "\""

/-- A text that spells no string is written as the replacement character. -/
def quoteText (content : Option String) : String :=
  quote (content.getD "�")

/-!
# Compact text
-/

mutual

def compact : Json -> String
  | null => "null"
  | bool true => "true"
  | bool false => "false"
  | number literal => literal
  | text content => quoteText content
  | array items => "[" ++ String.intercalate "," (compactItems items) ++ "]"
  | object fields => "\x7b" ++ String.intercalate "," (compactFields fields) ++ "\x7d"

def compactItems : List Json -> List String
  | [] => []
  | item :: rest => compact item :: compactItems rest

def compactFields : List (Option String × Json) -> List String
  | [] => []
  | (key, value) :: rest => (quoteText key ++ ":" ++ compact value) :: compactFields rest

end

/-!
# Pretty text
-/

def margin (depth : Nat) : String :=
  String.ofList (List.replicate (2 * depth) ' ')

def block (depth : Nat) (opening closing : String) (entries : List String) : String :=
  if entries.isEmpty then opening ++ closing
  else
    opening ++ "\n" ++
      String.intercalate ",\n" (entries.map fun entry => margin (depth + 1) ++ entry) ++
        "\n" ++ margin depth ++ closing

mutual

/-- The pretty text of a value that starts on a line `depth` levels deep. -/
def prettyAt (depth : Nat) : Json -> String
  | null => "null"
  | bool true => "true"
  | bool false => "false"
  | number literal => literal
  | text content => quoteText content
  | array items => block depth "[" "]" (prettyItems (depth + 1) items)
  | object fields => block depth "\x7b" "\x7d" (prettyFields (depth + 1) fields)

def prettyItems (depth : Nat) : List Json -> List String
  | [] => []
  | item :: rest => prettyAt depth item :: prettyItems depth rest

def prettyFields (depth : Nat) : List (Option String × Json) -> List String
  | [] => []
  | (key, value) :: rest =>
      (quoteText key ++ ": " ++ prettyAt depth value) :: prettyFields depth rest

end

def pretty (value : Json) : String :=
  prettyAt 0 value

end Json
end Whitespace
