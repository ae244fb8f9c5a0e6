import Whitespace.Assembly.Fault

/-!
# Argument literals

An argument is written in one of four ways: `b` and the binary digits of the
literal itself, a character between single quotes, a decimal integer, or a
hexadecimal integer after `0x`.  Integers take a minus sign in front.  Labels
are not negative.
-/

namespace Whitespace
namespace Argument

/-!
# Characters
-/

def escape? : Char -> Option Char
  | 'n' => some '\n'
  | 't' => some '\t'
  | 'r' => some '\r'
  | '0' => some '\x00'
  | '\\' => some '\\'
  | '\'' => some '\''
  | _ => none

def quotedChar (inner : List Char) : Except LiteralFault Char :=
  match inner with
  | [] => .error .unterminatedChar
  | [c] => if c = '\\' then .error .notSingleChar else .ok c
  | ['\\', c] =>
      match escape? c with
      | some char => .ok char
      | none => .error (.unknownEscape c)
  | _ => .error .notSingleChar

def character (rest : List Char) : Except LiteralFault Char :=
  if rest.getLast? = some '\'' then quotedChar rest.dropLast else .error .unterminatedChar

/-!
# Integers
-/

def radixOf (body : List Char) : Nat × List Char :=
  match body with
  | '0' :: 'x' :: digits => (16, digits)
  | '0' :: 'X' :: digits => (16, digits)
  | digits => (10, digits)

def magnitude (body : List Char) : Except LiteralFault Nat :=
  let (radix, digits) := radixOf body
  match digits with
  | [] | '+' :: _ | '-' :: _ => .error .expectedDigits
  | _ =>
      match Text.readNatural? radix digits with
      | some value => .ok value
      | none => .error (.notInteger radix)

def integer (text : List Char) : Except LiteralFault Int :=
  match text with
  | '\'' :: rest => do return ((<- character rest).toNat : Int)
  | '-' :: body => do return -((<- magnitude body) : Int)
  | body => do return ((<- magnitude body) : Int)

/-!
# Literals
-/

def inLiteral {α : Type} (text : List Char) : Except LiteralFault α -> Except AssemblyFault α
  | .ok value => .ok value
  | .error fault => .error (.invalidLiteral (String.ofList text) fault)

def bits (text : List Char) : Except LiteralFault (List Bool) :=
  match digitsOfBits text with
  | .ok digits => .ok digits
  | .error error => .error (.digits error)

def number (text : List Char) : Except AssemblyFault Number :=
  match text with
  | 'b' :: digits => Number.mk <$> inLiteral text (bits digits)
  | _ => Number.ofInt <$> inLiteral text (integer text)

def label (text : List Char) : Except AssemblyFault Label :=
  match text with
  | 'b' :: digits => Label.mk <$> inLiteral text (bits digits)
  | _ => do
      let value <- inLiteral text (integer text)
      if value < 0 then .error (.outOfRange value) else return Label.ofNat value.toNat

end Argument
end Whitespace
