/-!
# The three-symbol alphabet

Every program, whatever its surface text, is a word over three symbols: space,
tab and line feed.  Letters name the symbols in messages and listings, blanks
are the characters they stand for in plain source text, and the first two serve
as binary digits.
-/

namespace Whitespace

inductive Symbol where
  | space
  | tab
  | lineFeed
  deriving DecidableEq, Repr, Inhabited

namespace Symbol

def all : List Symbol := [space, tab, lineFeed]

def index : Symbol -> Nat
  | space => 0
  | tab => 1
  | lineFeed => 2

/-!
# Letters and blanks

A letter is read in either case; every other character names no symbol.
-/

def letter : Symbol -> Char
  | space => 'S'
  | tab => 'T'
  | lineFeed => 'L'

def ofLetter? : Char -> Option Symbol
  | 'S' | 's' => some space
  | 'T' | 't' => some tab
  | 'L' | 'l' => some lineFeed
  | _ => none

def blank : Symbol -> Char
  | space => ' '
  | tab => '\t'
  | lineFeed => '\n'

@[simp] theorem ofLetter?_letter (s : Symbol) : ofLetter? s.letter = some s := by
  cases s <;> rfl

/-!
# Bits

Space and tab are the digits zero and one; the line feed ends a literal and is
no digit.
-/

def bit? : Symbol -> Option Bool
  | space => some false
  | tab => some true
  | lineFeed => none

def ofBit (bit : Bool) : Symbol :=
  if bit then tab else space

@[simp] theorem bit?_ofBit (bit : Bool) : (ofBit bit).bit? = some bit := by
  cases bit <;> rfl

@[simp] theorem ofBit_ne_lineFeed (bit : Bool) : ofBit bit ≠ lineFeed := by
  cases bit <;> decide

end Symbol

/-!
# Words in letter form
-/

def letters (word : List Symbol) : String :=
  String.ofList (word.map Symbol.letter)

/-- The word a text spells in letters; all other characters are skipped. -/
def ofLetters (text : String) : List Symbol :=
  text.toList.filterMap Symbol.ofLetter?

theorem ofLetters_letters (word : List Symbol) : ofLetters (letters word) = word := by
  simp only [ofLetters, letters, String.toList_ofList]
  induction word with
  | nil => rfl
  | cons s rest ih => simp [ih]

end Whitespace
