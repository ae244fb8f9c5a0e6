import Whitespace.Text.Blank
import Whitespace.Text.Decimal
import Whitespace.Text.Fields
import Whitespace.Text.Integer
import Whitespace.Text.Pattern

/-!
# Push sequences

`PUSHS` pushes a sequence of values: a bracketed list of integers, or the code
points of a quoted text.  A tilde in front reverses the sequence.  The sequence
is expanded into ordinary assembly lines, one `PUSH` for each value.
-/

namespace Whitespace

inductive SequenceError where
  | missingArgument
  | malformed (argument : String)
  deriving DecidableEq, Repr

def SequenceError.message : SequenceError -> String
  | missingArgument => "PUSHS requires an argument"
  | malformed argument => s!"cannot expand PUSHS {argument}"

namespace PushSequence

def name : String := "PUSHS"

/-- Whether a word names the sequence; letters are read in either case. -/
def isName (word : List Char) : Bool :=
  word.map Char.toUpper == name.toList

/-!
# Lists

A list is recognised by a pattern.  Its items are found by other means: the
brackets at its ends are taken off, and what stands between the commas is read.
A list of digits that do not belong to integers is recognised and cannot be read.
-/

def blanks : Text.Pattern :=
  .many (.one Text.isBlank)

def minus : Text.Pattern :=
  .optional (.literal '-')

def digits : Text.Pattern :=
  .repeated (.one Text.isDecimal)

/-- The pattern `\[\s*(?:-?\d+\s*,\s*)*-?\d+\s*\]`. -/
def listPattern : Text.Pattern :=
  .chain
    [.literal '[', blanks, .many (.chain [minus, digits, blanks, .literal ',', blanks]),
      minus, digits, blanks, .literal ']']

def items? (text : List Char) : Option (List Int) :=
  let opened := text.dropWhile (· == '[')
  let inner := (opened.reverse.dropWhile (· == ']')).reverse
  (Text.fields ',' inner).mapM fun field => Text.readInteger? (Text.trim field)

/-!
# Texts
-/

/-- What the group of the pattern `"(.*)"` finds. -/
def quoted? (text : List Char) : Option (List Char) :=
  Text.Pattern.capture? (.literal '"') (.many (.one (· != '\n'))) (.literal '"') text

/-!
# Arguments
-/

def read? (body : List Char) : Option (List Int) :=
  if listPattern.isMatch body then items? body
  else (quoted? body).map fun inner => inner.map fun c => (c.toNat : Int)

def reversal (argument : List Char) : Bool × List Char :=
  match argument with
  | '~' :: rest => (true, Text.trimStart rest)
  | _ => (false, argument)

def values (argument : List Char) : Except SequenceError (List Int) :=
  let trimmed := Text.trim argument
  let (reversed, body) := reversal trimmed
  match read? body with
  | none => .error (.malformed (String.ofList trimmed))
  | some values => .ok (if reversed then values.reverse else values)

/-!
# Expansion
-/

def line (value : Int) : String :=
  "PUSH " ++ toString value

def expand (argument : Option (List Char)) : Except SequenceError (List String) :=
  match (argument.map Text.trim).filter (! ·.isEmpty) with
  | none => .error .missingArgument
  | some argument => do return (<- values argument).map line

end PushSequence
end Whitespace
