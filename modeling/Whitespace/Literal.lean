import Whitespace.Symbol

/-!
# Literals

A literal is a string of binary digits.  A number starts with a sign digit (one
for negative) and continues with the digits of its magnitude, most significant
first; the magnitude of a negative number is written complemented.  A label is
an unsigned magnitude.

Literals keep their digits as written, so padded and canonical spellings of one
value stay apart; the value is computed from the digits.
-/

namespace Whitespace

inductive LiteralError where
  | terminator (position : Nat)
  | invalidBit (char : Char)
  deriving DecidableEq, Repr

def LiteralError.message : LiteralError -> String
  | terminator position => s!"terminator inside literal at digit {position}"
  | invalidBit char => s!"invalid binary digit '{char}'"

def LiteralError.shifted (error : LiteralError) (count : Nat) : LiteralError :=
  match error with
  | terminator position => .terminator (position + count)
  | other => other

/-!
# Binary magnitudes

Zero is written with one digit; every other number starts with a one.
-/

namespace Binary

def digits (n : Nat) : List Bool :=
  if n < 2 then [n == 1] else digits (n / 2) ++ [n % 2 == 1]
termination_by n
decreasing_by omega

def value (digits : List Bool) : Nat :=
  digits.foldl (fun n bit => 2 * n + bit.toNat) 0

@[simp] theorem value_append_singleton (digits : List Bool) (bit : Bool) :
    value (digits ++ [bit]) = 2 * value digits + bit.toNat := by
  simp [value, List.foldl_append]

theorem value_digits (n : Nat) : value (digits n) = n := by
  rw [digits]
  split
  case isTrue small =>
      cases n with
      | zero => rfl
      | succ m =>
          have one : m = 0 := by omega
          rw [one]
          rfl
  case isFalse large =>
      have ih := value_digits (n / 2)
      rw [value_append_singleton, ih]
      cases Nat.mod_two_eq_zero_or_one n with
      | inl even =>
          simp [even]
          omega
      | inr odd =>
          simp [odd]
          omega
termination_by n
decreasing_by omega

end Binary

/-!
# Digits as symbols and as text

In text form the digits are zeros and ones.
-/

def digitsOfBits : List Char -> Except LiteralError (List Bool)
  | [] => .ok []
  | '0' :: rest => do return false :: (<- digitsOfBits rest)
  | '1' :: rest => do return true :: (<- digitsOfBits rest)
  | char :: _ => .error (.invalidBit char)

def symbolsOfDigits (digits : List Bool) : List Symbol :=
  digits.map Symbol.ofBit

def bitsOfDigits (digits : List Bool) : String :=
  String.ofList (digits.map fun bit => if bit then '1' else '0')

theorem digitsOfBits_bitsOfDigits (digits : List Bool) :
    digitsOfBits (bitsOfDigits digits).toList = .ok digits := by
  simp only [bitsOfDigits, String.toList_ofList]
  induction digits with
  | nil => rfl
  | cons bit rest ih =>
      cases bit with
      | false => simp [digitsOfBits, ih, bind, Except.bind, pure, Except.pure]
      | true => simp [digitsOfBits, ih, bind, Except.bind, pure, Except.pure]

/-!
# Decoding

A word of symbols is a digit string when it holds no line feed; the error names
the position of the first one.  The sign of a number is read by itself, so a place
in the magnitude is one less than in the word.
-/

/-- Read digits that stand behind `offset` others of the given value. -/
def readMagnitude (complement : Bool) (offset value : Nat) :
    List Symbol -> Except LiteralError Nat
  | [] => .ok value
  | symbol :: rest =>
      match symbol.bit? with
      | none => .error (.terminator offset)
      | some bit =>
          readMagnitude complement (offset + 1) (2 * value + (bit != complement).toNat) rest

def decodeMagnitude (complement : Bool) (word : List Symbol) : Except LiteralError Nat :=
  readMagnitude complement 0 0 word

def decodeNumber : List Symbol -> Except LiteralError Int
  | [] => .ok 0
  | sign :: magnitude =>
      match sign.bit? with
      | none => .error (.terminator 0)
      | some negative =>
          match decodeMagnitude negative magnitude with
          | .error error => .error (error.shifted 1)
          | .ok value => .ok (if negative then -value else value)

def decodeLabel (word : List Symbol) : Except LiteralError Nat :=
  decodeMagnitude false word

/-!
# Numbers
-/

structure Number where
  digits : List Bool
  deriving DecidableEq, Repr, Inhabited

namespace Number

/-- The value of the digits; no digits, or a sign alone, spell zero. -/
def value (number : Number) : Int :=
  match number.digits with
  | [] => 0
  | false :: magnitude => Binary.value magnitude
  | true :: magnitude => -(Binary.value (magnitude.map not) : Int)

def ofInt (n : Int) : Number :=
  if n < 0 then ⟨true :: (Binary.digits n.natAbs).map not⟩
  else ⟨false :: Binary.digits n.natAbs⟩

def symbols (number : Number) : List Symbol :=
  symbolsOfDigits number.digits

def bits (number : Number) : String :=
  bitsOfDigits number.digits

def ofSymbols (word : List Symbol) : Except LiteralError Number :=
  match decodeNumber word with
  | .error error => .error error
  | .ok _ => .ok ⟨word.filterMap Symbol.bit?⟩

def ofBits (text : List Char) : Except LiteralError Number :=
  Number.mk <$> digitsOfBits text

@[simp] theorem value_ofInt (n : Int) : (ofInt n).value = n := by
  rw [ofInt]
  split
  case isTrue negative =>
      have twice : ((Binary.digits n.natAbs).map not).map not = Binary.digits n.natAbs := by
        simp [Function.comp_def]
      simp only [value, twice, Binary.value_digits]
      omega
  case isFalse natural =>
      simp only [value, Binary.value_digits]
      omega

end Number

def encodeNumber (n : Int) : List Symbol :=
  (Number.ofInt n).symbols

/-!
# Labels
-/

structure Label where
  digits : List Bool
  deriving DecidableEq, Repr, Inhabited

namespace Label

def value (label : Label) : Nat :=
  Binary.value label.digits

def ofNat (n : Nat) : Label :=
  ⟨Binary.digits n⟩

def symbols (label : Label) : List Symbol :=
  symbolsOfDigits label.digits

def bits (label : Label) : String :=
  bitsOfDigits label.digits

def ofSymbols (word : List Symbol) : Except LiteralError Label :=
  match decodeLabel word with
  | .error error => .error error
  | .ok _ => .ok ⟨word.filterMap Symbol.bit?⟩

def ofBits (text : List Char) : Except LiteralError Label :=
  Label.mk <$> digitsOfBits text

@[simp] theorem value_ofNat (n : Nat) : (ofNat n).value = n :=
  Binary.value_digits n

end Label

def encodeLabel (n : Nat) : List Symbol :=
  (Label.ofNat n).symbols

end Whitespace
