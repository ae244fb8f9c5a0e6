import Mathlib.Data.List.Basic
import Mathlib.Data.List.Induction
import Whitespace.Literal

/-!
# Spellings of literals

Every integer and every label has one canonical spelling and further ones that
are padded.  A word of symbols spells a literal exactly when it holds no line
feed, and whether it is the canonical spelling can be read off its first two
symbols.
-/

namespace Whitespace

/-!
# Binary digits

Digits are spelled without need when they start with a zero, zero itself apart.
-/

namespace Binary

def IsCanonical (digits : List Bool) : Prop :=
  digits = [false] ∨ [true] <+: digits

theorem value_append (front rest : List Bool) :
    value (front ++ rest) = rest.foldl (fun n bit => 2 * n + bit.toNat) (value front) := by
  rw [value, value, List.foldl_append]

theorem value_replicate_false (count : Nat) : value (List.replicate count false) = 0 := by
  induction count with
  | zero => rfl
  | succ count ih =>
      rw [List.replicate_succ', value_append_singleton, ih]
      rfl

theorem value_padded (count : Nat) (digits : List Bool) :
    value (List.replicate count false ++ digits) = value digits := by
  rw [value_append, value_replicate_false, value]

theorem value_leading_one_pos (rest : List Bool) : 0 < value (true :: rest) := by
  induction rest using List.reverseRecOn with
  | nil => decide
  | append_singleton rest bit ih =>
      rw [← List.cons_append, value_append_singleton]
      omega

theorem digits_append_singleton {n : Nat} (hn : 0 < n) (bit : Bool) :
    digits (2 * n + bit.toNat) = digits n ++ [bit] := by
  have hlarge : ¬ 2 * n + bit.toNat < 2 := by omega
  have hbit : bit.toNat < 2 := by cases bit <;> decide
  have hhalf : (2 * n + bit.toNat) / 2 = n := by omega
  have hlast : ((2 * n + bit.toNat) % 2 == 1) = bit := by
    cases bit with
    | false => simp
    | true => simp [Nat.add_mod]
  rw [digits, if_neg hlarge, hhalf, hlast]

theorem digits_value_leading_one (rest : List Bool) :
    digits (value (true :: rest)) = true :: rest := by
  induction rest using List.reverseRecOn with
  | nil =>
      rw [digits]
      rfl
  | append_singleton rest bit ih =>
      rw [← List.cons_append, value_append_singleton,
        digits_append_singleton (value_leading_one_pos rest), ih]

theorem digits_zero : digits 0 = [false] := by
  rw [digits]
  rfl

theorem leading_one_digits {n : Nat} (hn : 0 < n) : [true] <+: digits n := by
  induction n using Nat.strongRecOn with
  | ind n ih =>
      by_cases hone : n = 1
      · rw [hone, digits]
        exact List.prefix_refl _
      · have hlarge : ¬ n < 2 := by omega
        rw [digits, if_neg hlarge]
        exact (ih (n / 2) (by omega) (by omega)).trans (List.prefix_append _ _)

theorem isCanonical_digits (n : Nat) : IsCanonical (digits n) := by
  rcases Nat.eq_zero_or_pos n with hzero | hpos
  · rw [hzero]
    exact Or.inl digits_zero
  · exact Or.inr (leading_one_digits hpos)

theorem digits_value_iff (word : List Bool) : digits (value word) = word ↔ IsCanonical word := by
  constructor
  · intro hsame
    rw [← hsame]
    exact isCanonical_digits _
  · rintro (hzero | ⟨rest, hone⟩)
    · rw [hzero]
      exact digits_zero
    · rw [← hone]
      exact digits_value_leading_one rest

end Binary

/-!
# Words of symbols

A word without line feeds is the word of its digits, and no other word has those
digits.
-/

theorem Symbol.eq_lineFeed_of_bit? {symbol : Symbol} (hbit : symbol.bit? = none) :
    symbol = Symbol.lineFeed := by
  cases symbol with
  | space => cases hbit
  | tab => cases hbit
  | lineFeed => rfl

theorem Symbol.ne_lineFeed_of_bit? {symbol : Symbol} {bit : Bool}
    (hbit : symbol.bit? = some bit) : symbol ≠ Symbol.lineFeed := by
  intro hsame
  rw [hsame] at hbit
  cases hbit

theorem Symbol.ofBit_injective : Function.Injective Symbol.ofBit := by
  intro left right hsame
  have hbits := congrArg Symbol.bit? hsame
  rw [Symbol.bit?_ofBit, Symbol.bit?_ofBit] at hbits
  injection hbits

theorem symbolsOfDigits_injective : Function.Injective symbolsOfDigits :=
  List.map_injective_iff.mpr Symbol.ofBit_injective

theorem exists_digits_iff (word : List Symbol) :
    (exists digits, word = symbolsOfDigits digits) ↔ Symbol.lineFeed ∉ word := by
  constructor
  · rintro ⟨digits, hword⟩ hmem
    rw [hword] at hmem
    rcases List.mem_map.mp hmem with ⟨bit, _hbit, hlineFeed⟩
    exact Symbol.ofBit_ne_lineFeed bit hlineFeed
  · intro hfree
    induction word with
    | nil => exact ⟨[], rfl⟩
    | cons symbol rest ih =>
        rw [List.mem_cons, not_or] at hfree
        rcases ih hfree.right with ⟨digits, hrest⟩
        rw [hrest]
        cases symbol with
        | space => exact ⟨false :: digits, rfl⟩
        | tab => exact ⟨true :: digits, rfl⟩
        | lineFeed => exact absurd rfl hfree.left

theorem filterMap_bit?_symbolsOfDigits (digits : List Bool) :
    (symbolsOfDigits digits).filterMap Symbol.bit? = digits := by
  induction digits with
  | nil => rfl
  | cons bit rest ih =>
      exact (List.filterMap_cons_some (Symbol.bit?_ofBit bit)).trans (congrArg (bit :: ·) ih)

/-!
# Decoding

Digits are read into a magnitude from the front; a line feed among them is met at
its own place, whatever was read before.
-/

theorem readMagnitude_symbolsOfDigits (complement : Bool) (offset value : Nat)
    (digits : List Bool) :
    readMagnitude complement offset value (symbolsOfDigits digits) =
      .ok (digits.foldl (fun n bit => 2 * n + (bit != complement).toNat) value) := by
  induction digits generalizing offset value with
  | nil => rfl
  | cons bit rest ih =>
      simp only [symbolsOfDigits] at ih
      simp only [symbolsOfDigits, List.map_cons, readMagnitude, Symbol.bit?_ofBit, ih,
        List.foldl_cons]

theorem readMagnitude_of_mem {word : List Symbol} (hmem : Symbol.lineFeed ∈ word)
    (complement : Bool) (offset value : Nat) :
    readMagnitude complement offset value word =
      .error (.terminator (offset + word.idxOf Symbol.lineFeed)) := by
  induction word generalizing offset value with
  | nil => cases hmem
  | cons symbol rest ih =>
      cases hbit : symbol.bit? with
      | none =>
          rw [Symbol.eq_lineFeed_of_bit? hbit, List.idxOf_cons_self]
          rfl
      | some bit =>
          have hsymbol : symbol ≠ Symbol.lineFeed := Symbol.ne_lineFeed_of_bit? hbit
          have hrest : Symbol.lineFeed ∈ rest :=
            (List.mem_cons.mp hmem).resolve_left (Ne.symm hsymbol)
          simp only [readMagnitude, hbit, ih hrest, List.idxOf_cons_ne rest hsymbol,
            Nat.succ_eq_add_one, Nat.add_assoc, Nat.add_comm 1]

theorem decodeMagnitude_symbolsOfDigits (complement : Bool) (digits : List Bool) :
    decodeMagnitude complement (symbolsOfDigits digits) =
      .ok (Binary.value (digits.map (· != complement))) := by
  rw [decodeMagnitude, readMagnitude_symbolsOfDigits, Binary.value, List.foldl_map]

theorem decodeMagnitude_of_mem {word : List Symbol} (hmem : Symbol.lineFeed ∈ word)
    (complement : Bool) :
    decodeMagnitude complement word = .error (.terminator (word.idxOf Symbol.lineFeed)) := by
  rw [decodeMagnitude, readMagnitude_of_mem hmem, Nat.zero_add]

theorem decodeNumber_symbols (number : Number) :
    decodeNumber number.symbols = .ok number.value := by
  rcases number with ⟨_ | ⟨negative, magnitude⟩⟩
  · rfl
  · have hmagnitude := decodeMagnitude_symbolsOfDigits negative magnitude
    rw [symbolsOfDigits] at hmagnitude
    simp only [Number.symbols, symbolsOfDigits, List.map_cons, decodeNumber, Symbol.bit?_ofBit,
      hmagnitude, Number.value]
    cases negative with
    | false => simp
    | true => simp

theorem decodeLabel_symbols (label : Label) : decodeLabel label.symbols = .ok label.value := by
  rw [decodeLabel, Label.symbols, decodeMagnitude_symbolsOfDigits]
  simp [Label.value]

theorem decodeNumber_of_mem {word : List Symbol} (hmem : Symbol.lineFeed ∈ word) :
    decodeNumber word = .error (.terminator (word.idxOf Symbol.lineFeed)) := by
  cases word with
  | nil => cases hmem
  | cons sign magnitude =>
      cases hbit : sign.bit? with
      | none =>
          rw [Symbol.eq_lineFeed_of_bit? hbit, List.idxOf_cons_self]
          rfl
      | some negative =>
          have hsign : sign ≠ Symbol.lineFeed := Symbol.ne_lineFeed_of_bit? hbit
          have hmagnitude : Symbol.lineFeed ∈ magnitude :=
            (List.mem_cons.mp hmem).resolve_left (Ne.symm hsign)
          simp only [decodeNumber, hbit, decodeMagnitude_of_mem hmagnitude, LiteralError.shifted,
            List.idxOf_cons_ne magnitude hsign, Nat.succ_eq_add_one]

theorem eq_error_iff_of_refuses {α : Type} {word : List Symbol} {result : Except LiteralError α}
    (hrefused : Symbol.lineFeed ∈ word ->
      result = .error (.terminator (word.idxOf Symbol.lineFeed)))
    (hread : Symbol.lineFeed ∉ word -> exists value, result = .ok value) {error : LiteralError} :
    result = .error error ↔
      Symbol.lineFeed ∈ word ∧ error = .terminator (word.idxOf Symbol.lineFeed) := by
  by_cases hmem : Symbol.lineFeed ∈ word
  · rw [hrefused hmem, and_iff_right hmem]
    exact (Except.error.injEq _ _).to_iff.trans eq_comm
  · rcases hread hmem with ⟨value, hvalue⟩
    rw [hvalue]
    constructor
    · intro herror
      cases herror
    · intro hfound
      exact absurd hfound.left hmem

theorem decodeNumber_eq_error_iff {word : List Symbol} {error : LiteralError} :
    decodeNumber word = .error error ↔
      Symbol.lineFeed ∈ word ∧ error = .terminator (word.idxOf Symbol.lineFeed) := by
  refine eq_error_iff_of_refuses decodeNumber_of_mem ?_
  intro hfree
  rcases (exists_digits_iff word).mpr hfree with ⟨digits, hword⟩
  exact ⟨_, by rw [hword]; exact decodeNumber_symbols ⟨digits⟩⟩

theorem decodeLabel_eq_error_iff {word : List Symbol} {error : LiteralError} :
    decodeLabel word = .error error ↔
      Symbol.lineFeed ∈ word ∧ error = .terminator (word.idxOf Symbol.lineFeed) := by
  refine eq_error_iff_of_refuses (fun hmem => decodeMagnitude_of_mem hmem false) ?_
  intro hfree
  rcases (exists_digits_iff word).mpr hfree with ⟨digits, hword⟩
  exact ⟨_, by rw [hword]; exact decodeLabel_symbols ⟨digits⟩⟩

theorem Number.ofSymbols_symbols (number : Number) :
    Number.ofSymbols number.symbols = .ok number := by
  rw [Number.ofSymbols, decodeNumber_symbols, Number.symbols, filterMap_bit?_symbolsOfDigits]

theorem Label.ofSymbols_symbols (label : Label) : Label.ofSymbols label.symbols = .ok label := by
  rw [Label.ofSymbols, decodeLabel_symbols, Label.symbols, filterMap_bit?_symbolsOfDigits]

/-!
# Canonical spellings

The magnitude of a negative number is complemented, so its canonical spelling
starts with a zero behind the sign.
-/

namespace Number

/-- The sign and the first digit of the magnitude differ, or the number is the one spelling of
zero with one digit of each. -/
def IsCanonical (number : Number) : Prop :=
  number.digits = [false, false] ∨ [false, true] <+: number.digits ∨
    [true, false] <+: number.digits

theorem ofInt_natural (n : Nat) : ofInt n = ⟨false :: Binary.digits n⟩ := by
  have hnatural : ¬ (n : Int) < 0 := by omega
  rw [ofInt, if_neg hnatural, Int.natAbs_natCast]

theorem ofInt_negative {n : Nat} (hn : 0 < n) :
    ofInt (-(n : Int)) = ⟨true :: (Binary.digits n).map not⟩ := by
  have hnegative : -(n : Int) < 0 := by omega
  rw [ofInt, if_pos hnegative, Int.natAbs_neg, Int.natAbs_natCast]

theorem isCanonical_ofInt (n : Int) : IsCanonical (ofInt n) := by
  by_cases hnegative : n < 0
  · have hmagnitude : 0 < n.natAbs := by omega
    have hn : n = -(n.natAbs : Int) := by omega
    rcases Binary.leading_one_digits hmagnitude with ⟨rest, hdigits⟩
    rw [hn, ofInt_negative hmagnitude, ← hdigits]
    exact Or.inr (Or.inr ⟨rest.map not, rfl⟩)
  · have hn : n = (n.natAbs : Int) := by omega
    rw [hn, ofInt_natural]
    rcases Binary.isCanonical_digits n.natAbs with hzero | ⟨rest, hdigits⟩
    · rw [hzero]
      exact Or.inl rfl
    · rw [← hdigits]
      exact Or.inr (Or.inl ⟨rest, rfl⟩)

theorem ofInt_value_iff (number : Number) : ofInt number.value = number ↔ number.IsCanonical := by
  constructor
  · intro hsame
    rw [← hsame]
    exact isCanonical_ofInt _
  · rcases number with ⟨digits⟩
    rintro (hzero | ⟨rest, hnatural⟩ | ⟨rest, hnegative⟩)
    · subst hzero
      exact congrArg (fun magnitude => Number.mk (false :: magnitude)) Binary.digits_zero
    · subst hnatural
      show ofInt (Binary.value (true :: rest)) = _
      rw [ofInt_natural, Binary.digits_value_leading_one]
      rfl
    · subst hnegative
      have hcomplement : (rest.map not).map not = rest := by simp [Function.comp_def]
      show ofInt (-(Binary.value (true :: rest.map not) : Int)) = _
      rw [ofInt_negative (Binary.value_leading_one_pos _), Binary.digits_value_leading_one,
        List.map_cons, hcomplement]
      rfl

end Number

theorem Label.ofNat_value_iff (label : Label) :
    Label.ofNat label.value = label ↔ Binary.IsCanonical label.digits := by
  rcases label with ⟨digits⟩
  rw [Label.ofNat, Label.value, Label.mk.injEq]
  exact Binary.digits_value_iff digits

/-!
# Words of canonical spellings
-/

open Whitespace.Symbol (space tab lineFeed)

theorem symbolsOfDigits_eq_iff {left right : List Bool} :
    symbolsOfDigits left = symbolsOfDigits right ↔ left = right :=
  symbolsOfDigits_injective.eq_iff

theorem symbolsOfDigits_prefix_iff {left right : List Bool} :
    symbolsOfDigits left <+: symbolsOfDigits right ↔ left <+: right :=
  List.prefix_map_iff_of_injective Symbol.ofBit_injective

theorem Number.symbols_eq_iff {left right : Number} :
    left.symbols = right.symbols ↔ left = right := by
  rcases left with ⟨left⟩
  rcases right with ⟨right⟩
  rw [Number.mk.injEq]
  exact symbolsOfDigits_eq_iff

theorem Label.symbols_eq_iff {left right : Label} :
    left.symbols = right.symbols ↔ left = right := by
  rcases left with ⟨left⟩
  rcases right with ⟨right⟩
  rw [Label.mk.injEq]
  exact symbolsOfDigits_eq_iff

theorem encodeNumber_value_iff (number : Number) :
    encodeNumber number.value = number.symbols ↔
      number.symbols = [space, space] ∨ [space, tab] <+: number.symbols ∨
        [tab, space] <+: number.symbols := by
  rw [encodeNumber, Number.symbols_eq_iff, Number.ofInt_value_iff, Number.IsCanonical,
    ← symbolsOfDigits_eq_iff, ← symbolsOfDigits_prefix_iff, ← symbolsOfDigits_prefix_iff]
  rfl

theorem encodeLabel_value_iff (label : Label) :
    encodeLabel label.value = label.symbols ↔
      label.symbols = [space] ∨ [tab] <+: label.symbols := by
  rw [encodeLabel, Label.symbols_eq_iff, Label.ofNat_value_iff, Binary.IsCanonical,
    ← symbolsOfDigits_eq_iff, ← symbolsOfDigits_prefix_iff]
  rfl

/-!
# Padding

Zeros in front of a magnitude do not count, and behind the sign of a negative
number a zero of the magnitude is written as a one.
-/

theorem symbolsOfDigits_padded (count : Nat) (bit : Bool) (digits : List Bool) :
    symbolsOfDigits (List.replicate count bit ++ digits) =
      List.replicate count (Symbol.ofBit bit) ++ symbolsOfDigits digits := by
  rw [symbolsOfDigits, List.map_append, List.map_replicate]
  rfl

theorem Number.value_padded (sign : Bool) (count : Nat) (digits : List Bool) :
    (Number.mk (sign :: (List.replicate count sign ++ digits))).value =
      (Number.mk (sign :: digits)).value := by
  cases sign with
  | false => simp only [Number.value, Binary.value_padded]
  | true =>
      simp only [Number.value, List.map_append, List.map_replicate, Bool.not_true,
        Binary.value_padded]

theorem decodeNumber_padded (sign : Bool) (count : Nat) {word : List Symbol}
    (hfree : lineFeed ∉ word) :
    decodeNumber (Symbol.ofBit sign :: (List.replicate count (Symbol.ofBit sign) ++ word)) =
      decodeNumber (Symbol.ofBit sign :: word) := by
  rcases (exists_digits_iff word).mpr hfree with ⟨digits, hword⟩
  have hpadded := decodeNumber_symbols ⟨sign :: (List.replicate count sign ++ digits)⟩
  have hplain := decodeNumber_symbols ⟨sign :: digits⟩
  rw [Number.value_padded, ← hplain] at hpadded
  rw [hword, ← symbolsOfDigits_padded]
  exact hpadded

theorem decodeLabel_padded (count : Nat) {word : List Symbol} (hfree : lineFeed ∉ word) :
    decodeLabel (List.replicate count space ++ word) = decodeLabel word := by
  rcases (exists_digits_iff word).mpr hfree with ⟨digits, hword⟩
  have hpadded := decodeLabel_symbols ⟨List.replicate count false ++ digits⟩
  rw [Label.symbols, symbolsOfDigits_padded, Label.value, Binary.value_padded] at hpadded
  rw [hword]
  exact hpadded.trans (decodeLabel_symbols ⟨digits⟩).symm

/-!
# The codec of literals
-/

theorem literal_spellings :
    (forall n : Int, decodeNumber (encodeNumber n) = .ok n) ∧
    (forall n : Nat, decodeLabel (encodeLabel n) = .ok n) ∧
    (forall (word : List Symbol) (error : LiteralError),
      (decodeNumber word = .error error ↔
        lineFeed ∈ word ∧ error = .terminator (word.idxOf lineFeed)) ∧
      (decodeLabel word = .error error ↔
        lineFeed ∈ word ∧ error = .terminator (word.idxOf lineFeed))) ∧
    (forall word : List Symbol, lineFeed ∉ word ->
      (exists n : Int, decodeNumber word = .ok n ∧
        (encodeNumber n = word ↔
          word = [space, space] ∨ [space, tab] <+: word ∨ [tab, space] <+: word)) ∧
      (exists n : Nat, decodeLabel word = .ok n ∧
        (encodeLabel n = word ↔ word = [space] ∨ [tab] <+: word))) ∧
    (forall (count : Nat) (word : List Symbol), lineFeed ∉ word ->
      decodeNumber (space :: (List.replicate count space ++ word)) =
        decodeNumber (space :: word) ∧
      decodeNumber (tab :: (List.replicate count tab ++ word)) = decodeNumber (tab :: word) ∧
      decodeLabel (List.replicate count space ++ word) = decodeLabel word) := by
  refine ⟨?_, ?_, ?_, ?_, ?_⟩
  · intro n
    rw [encodeNumber, decodeNumber_symbols, Number.value_ofInt]
  · intro n
    rw [encodeLabel, decodeLabel_symbols, Label.value_ofNat]
  · intro word error
    exact ⟨decodeNumber_eq_error_iff, decodeLabel_eq_error_iff⟩
  · intro word hfree
    rcases (exists_digits_iff word).mpr hfree with ⟨digits, hword⟩
    rw [hword]
    exact ⟨⟨_, decodeNumber_symbols ⟨digits⟩, encodeNumber_value_iff ⟨digits⟩⟩,
      ⟨_, decodeLabel_symbols ⟨digits⟩, encodeLabel_value_iff ⟨digits⟩⟩⟩
  · intro count word hfree
    exact ⟨decodeNumber_padded false count hfree, decodeNumber_padded true count hfree,
      decodeLabel_padded count hfree⟩

end Whitespace
