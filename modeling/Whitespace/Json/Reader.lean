import Whitespace.Json

/-!
# Reading JSON

The grammar is the usual one: four blank characters, no trailing commas, no
leading zeros, no control characters inside quotes.  Reading is total; the
nesting of calls is bounded by the length of the text.
-/

namespace Whitespace
namespace Json

/-!
# Blanks and numbers
-/

def isBlank (c : Char) : Bool :=
  c == ' ' || c == '\t' || c == '\n' || c == '\r'

def skipBlanks (text : List Char) : List Char :=
  text.dropWhile isBlank

def readDigits (text : List Char) : Option (List Char × List Char) :=
  match text.takeWhile Char.isDigit with
  | [] => none
  | digits => some (digits, text.dropWhile Char.isDigit)

/-- The digits before the point: a lone zero, or digits that start with another one. -/
def readWhole (text : List Char) : Option (List Char × List Char) :=
  match text with
  | '0' :: rest => some (['0'], rest)
  | _ => readDigits text

def readFraction (text : List Char) : Option (List Char × List Char) :=
  match text with
  | '.' :: rest => do
      let (digits, rest) <- readDigits rest
      return ('.' :: digits, rest)
  | _ => some ([], text)

def readExponent (text : List Char) : Option (List Char × List Char) :=
  match text with
  | mark :: rest =>
      if mark = 'e' ∨ mark = 'E' then
        match rest with
        | sign :: digits =>
            if sign = '+' ∨ sign = '-' then do
              let (digits, rest) <- readDigits digits
              return (mark :: sign :: digits, rest)
            else do
              let (digits, rest) <- readDigits rest
              return (mark :: digits, rest)
        | [] => none
      else
        some ([], text)
  | [] => some ([], text)

def readUnsigned (text : List Char) : Option (List Char × List Char) := do
  let (whole, rest) <- readWhole text
  let (fraction, rest) <- readFraction rest
  let (exponent, rest) <- readExponent rest
  return (whole ++ fraction ++ exponent, rest)

def readNumber (text : List Char) : Option (Json × List Char) :=
  match text with
  | '-' :: rest => do
      let (literal, rest) <- readUnsigned rest
      return (number (String.ofList ('-' :: literal)), rest)
  | _ => do
      let (literal, rest) <- readUnsigned text
      return (number (String.ofList literal), rest)

/-!
# Quoted texts

Inside quotes a text is a sequence of code units.  Escapes may name the two
halves of a surrogate pair, which together stand for one character.
-/

def hexDigit? (c : Char) : Option Nat :=
  if '0' ≤ c ∧ c ≤ '9' then some (c.toNat - '0'.toNat)
  else if 'a' ≤ c ∧ c ≤ 'f' then some (c.toNat - 'a'.toNat + 10)
  else if 'A' ≤ c ∧ c ≤ 'F' then some (c.toNat - 'A'.toNat + 10)
  else none

def hexUnit? (a b c d : Char) : Option Nat := do
  return (((<- hexDigit? a) * 16 + (<- hexDigit? b)) * 16 + (<- hexDigit? c)) * 16 +
    (<- hexDigit? d)

def escaped? : Char -> Option Char
  | '"' => some '"'
  | '\\' => some '\\'
  | '/' => some '/'
  | 'b' => some '\x08'
  | 'f' => some '\x0c'
  | 'n' => some '\n'
  | 'r' => some '\r'
  | 't' => some '\t'
  | _ => none

/-- The code units up to the closing quote, newest first after `units`. -/
def readUnits (units : List Nat) : List Char -> Option (List Nat × List Char)
  | [] => none
  | '"' :: rest => some (units.reverse, rest)
  | '\\' :: 'u' :: a :: b :: c :: d :: rest =>
      match hexUnit? a b c d with
      | some unit => readUnits (unit :: units) rest
      | none => none
  | '\\' :: c :: rest =>
      match escaped? c with
      | some char => readUnits (char.toNat :: units) rest
      | none => none
  | c :: rest => if c.toNat < 0x20 then none else readUnits (c.toNat :: units) rest

/-- The characters of code units; none when half of a surrogate pair stands alone. -/
def joinUnits : List Nat -> Option (List Char)
  | [] => some []
  | unit :: rest =>
      if 0xD800 ≤ unit ∧ unit < 0xDC00 then
        match rest with
        | low :: rest =>
            if 0xDC00 ≤ low ∧ low < 0xE000 then do
              let char := Char.ofNat (0x10000 + (unit - 0xD800) * 0x400 + (low - 0xDC00))
              return char :: (<- joinUnits rest)
            else none
        | [] => none
      else if 0xDC00 ≤ unit ∧ unit < 0xE000 then none
      else do return Char.ofNat unit :: (<- joinUnits rest)

def readText (text : List Char) : Option (Option String × List Char) := do
  let (units, rest) <- readUnits [] text
  return ((joinUnits units).map String.ofList, rest)

/-!
# Values
-/

mutual

/-- One value and what follows it; `fuel` bounds the nesting of calls. -/
def readValue (fuel : Nat) (text : List Char) : Option (Json × List Char) :=
  match fuel with
  | 0 => none
  | fuel + 1 =>
      match skipBlanks text with
      | '"' :: rest => do
          let (content, rest) <- readText rest
          return (Json.text content, rest)
      | '[' :: rest =>
          match skipBlanks rest with
          | ']' :: rest => some (array [], rest)
          | rest => do
              let (items, rest) <- readItems fuel rest
              return (array items, rest)
      | '\x7b' :: rest =>
          match skipBlanks rest with
          | '\x7d' :: rest => some (object [], rest)
          | rest => do
              let (fields, rest) <- readFields fuel rest
              return (object fields, rest)
      | 'n' :: 'u' :: 'l' :: 'l' :: rest => some (null, rest)
      | 't' :: 'r' :: 'u' :: 'e' :: rest => some (bool true, rest)
      | 'f' :: 'a' :: 'l' :: 's' :: 'e' :: rest => some (bool false, rest)
      | text => readNumber text

def readItems (fuel : Nat) (text : List Char) : Option (List Json × List Char) :=
  match fuel with
  | 0 => none
  | fuel + 1 => do
      let (item, rest) <- readValue fuel text
      match skipBlanks rest with
      | ']' :: rest => return ([item], rest)
      | ',' :: rest =>
          let (items, rest) <- readItems fuel rest
          return (item :: items, rest)
      | _ => none

def readFields (fuel : Nat) (text : List Char) :
    Option (List (Option String × Json) × List Char) :=
  match fuel with
  | 0 => none
  | fuel + 1 =>
      match skipBlanks text with
      | '"' :: rest => do
          let (key, rest) <- readText rest
          match skipBlanks rest with
          | ':' :: rest =>
              let (value, rest) <- readValue fuel rest
              match skipBlanks rest with
              | '\x7d' :: rest => return ([(key, value)], rest)
              | ',' :: rest =>
                  let (fields, rest) <- readFields fuel rest
                  return ((key, value) :: fields, rest)
              | _ => none
          | _ => none
      | _ => none

end

def parse? (text : String) : Option Json := do
  let chars := text.toList
  let (value, rest) <- readValue (2 * chars.length + 2) chars
  if (skipBlanks rest).isEmpty then some value else none

end Json
end Whitespace
