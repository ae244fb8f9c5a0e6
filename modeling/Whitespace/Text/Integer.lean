/-!
# Integers in text

Digits are `0` to `9` and then the letters in either case.  An underscore may
stand anywhere among the digits but first.
-/

namespace Whitespace
namespace Text

def digitValue? (c : Char) : Option Nat :=
  if '0' ≤ c ∧ c ≤ '9' then some (c.toNat - '0'.toNat)
  else if 'a' ≤ c ∧ c ≤ 'z' then some (c.toNat - 'a'.toNat + 10)
  else if 'A' ≤ c ∧ c ≤ 'Z' then some (c.toNat - 'A'.toNat + 10)
  else none

/-- Go on reading digits after those that spell `value`. -/
def readDigits (radix value : Nat) : List Char -> Option Nat
  | [] => some value
  | c :: rest =>
      if c = '_' then readDigits radix value rest
      else
        match digitValue? c with
        | some digit =>
            if digit < radix then readDigits radix (value * radix + digit) rest else none
        | none => none

/-- An unsigned integer: at least one digit, the first character no underscore. -/
def readNatural? (radix : Nat) (text : List Char) : Option Nat :=
  match text with
  | [] => none
  | '_' :: _ => none
  | _ => readDigits radix 0 text

def readInteger? (text : List Char) : Option Int :=
  match text with
  | '-' :: digits => (readNatural? 10 digits).map fun n => -(n : Int)
  | '+' :: digits => (readNatural? 10 digits).map fun n => (n : Int)
  | digits => (readNatural? 10 digits).map fun n => (n : Int)

end Text
end Whitespace
