import Mathlib.Data.Nat.Digits.Defs
import Mathlib.Tactic.IntervalCases
import Whitespace.Proofs.Text

/-!
# Numerals

A numeral is a text of digits, most significant first, with underscores among them
but not in front.  Reading accepts the numerals of a radix and nothing else, and
finds the value that their digits have by position.  The digits that a number is
written with, small or capital, are a numeral of it.
-/

namespace Whitespace
namespace Text

/-!
# Digits

The digits above nine are letters, in either case.
-/

def IsDigit (radix digit : Nat) (c : Char) : Prop :=
  digit < radix ∧ (c = Nat.digitChar digit ∨ c = (Nat.digitChar digit).toUpper)

theorem toNat_digitChar_letter {digit : Nat} (hletter : 10 ≤ digit) (hdigit : digit < 16) :
    (Nat.digitChar digit).toNat = 87 + digit ∧
      (Nat.digitChar digit).toUpper.toNat = 55 + digit := by
  interval_cases digit <;> decide

theorem digitValue?_digitChar {digit : Nat} (hdigit : digit < 16) :
    digitValue? (Nat.digitChar digit) = some digit ∧
      digitValue? (Nat.digitChar digit).toUpper = some digit := by
  interval_cases digit <;> decide

theorem eq_digitChar_of_digitValue? {digit : Nat} {c : Char} (hdigit : digit < 16)
    (hvalue : digitValue? c = some digit) :
    c = Nat.digitChar digit ∨ c = (Nat.digitChar digit).toUpper := by
  have hfrom : forall {first : Char}, first ≤ c -> first.toNat ≤ c.toNat := fun hle =>
    UInt32.le_iff_toNat_le.mp (Char.le_def.mp hle)
  have hupto : forall {last : Char}, c ≤ last -> c.toNat ≤ last.toNat := fun hle =>
    UInt32.le_iff_toNat_le.mp (Char.le_def.mp hle)
  unfold digitValue? at hvalue
  split at hvalue
  case isTrue hrange =>
      injection hvalue with hvalue
      have hfirst : 48 ≤ c.toNat := hfrom hrange.left
      have hlast : c.toNat ≤ 57 := hupto hrange.right
      have hcode : c.toNat - 48 = digit := hvalue
      refine Or.inl (Char.toNat_inj.mp ?_)
      rw [Nat.toNat_digitChar_of_lt_ten (by omega)]
      omega
  case isFalse =>
      split at hvalue
      case isTrue hrange =>
          injection hvalue with hvalue
          have hfirst : 97 ≤ c.toNat := hfrom hrange.left
          have hcode : c.toNat - 97 + 10 = digit := hvalue
          refine Or.inl (Char.toNat_inj.mp ?_)
          rw [(toNat_digitChar_letter (by omega) hdigit).left]
          omega
      case isFalse =>
          split at hvalue
          case isTrue hrange =>
              injection hvalue with hvalue
              have hfirst : 65 ≤ c.toNat := hfrom hrange.left
              have hcode : c.toNat - 65 + 10 = digit := hvalue
              refine Or.inr (Char.toNat_inj.mp ?_)
              rw [(toNat_digitChar_letter (by omega) hdigit).right]
              omega
          case isFalse => cases hvalue

theorem isDigit_iff {radix digit : Nat} {c : Char} (hradix : radix ≤ 16) :
    IsDigit radix digit c ↔ digitValue? c = some digit ∧ digit < radix := by
  constructor
  · rintro ⟨hdigit, hc | hc⟩
    · rw [hc]
      exact ⟨(digitValue?_digitChar (Nat.lt_of_lt_of_le hdigit hradix)).left, hdigit⟩
    · rw [hc]
      exact ⟨(digitValue?_digitChar (Nat.lt_of_lt_of_le hdigit hradix)).right, hdigit⟩
  · rintro ⟨hvalue, hdigit⟩
    exact ⟨hdigit, eq_digitChar_of_digitValue? (Nat.lt_of_lt_of_le hdigit hradix) hvalue⟩

theorem IsDigit.isDigit {digit : Nat} {c : Char} (hdigit : IsDigit 10 digit c) :
    c.isDigit = true := by
  have hsmall : (Nat.digitChar digit).isDigit = true := by
    rw [Nat.isDigit_digitChar]
    exact decide_eq_true hdigit.left
  rcases hdigit.right with hc | hc
  · rw [hc]
    exact hsmall
  · have hupper : (Nat.digitChar digit).toUpper = Nat.digitChar digit := by
      have hlt := hdigit.left
      interval_cases digit <;> decide
    rw [hc, hupper]
    exact hsmall

theorem not_isDigit_underscore {radix digit : Nat} (hradix : radix ≤ 16) :
    ¬ IsDigit radix digit '_' := by
  intro hdigit
  have hvalue := ((isDigit_iff hradix).mp hdigit).left
  cases hvalue

theorem IsDigit.toUpper {radix digit : Nat} {c : Char} (hradix : radix ≤ 16)
    (hdigit : IsDigit radix digit c) : IsDigit radix digit c.toUpper := by
  refine ⟨hdigit.left, Or.inr ?_⟩
  have hlt : digit < 16 := Nat.lt_of_lt_of_le hdigit.left hradix
  rcases hdigit.right with hc | hc
  · rw [hc]
  · rw [hc]
    clear hc hdigit
    interval_cases digit <;> decide

/-!
# Numerals and their values
-/

/-- The digits of a text, where underscores are passed over. -/
inductive Digits (radix : Nat) : List Char -> List Nat -> Prop where
  | nil : Digits radix [] []
  | underscore {rest : List Char} {digits : List Nat} (hrest : Digits radix rest digits) :
      Digits radix ('_' :: rest) digits
  | digit {c : Char} {rest : List Char} {digit : Nat} {digits : List Nat}
      (hdigit : IsDigit radix digit c) (hrest : Digits radix rest digits) :
      Digits radix (c :: rest) (digit :: digits)

/-- The text is a numeral: its value is the sum of its digits, each times the power of the
radix that belongs to its place. -/
def Numeral (radix : Nat) (text : List Char) (value : Nat) : Prop :=
  exists digits : List Nat, text ≠ [] ∧ text.head? ≠ some '_' ∧ Digits radix text digits ∧
    value = Nat.ofDigits radix digits.reverse

theorem Digits.append {radix : Nat} {front rest : List Char} {first second : List Nat}
    (hfront : Digits radix front first) (hrest : Digits radix rest second) :
    Digits radix (front ++ rest) (first ++ second) := by
  induction hfront with
  | nil => exact hrest
  | underscore _hrest ih => exact .underscore ih
  | digit hdigit _hrest ih => exact .digit hdigit ih

theorem Digits.toUpper {radix : Nat} {text : List Char} {digits : List Nat}
    (hradix : radix ≤ 16) (hdigits : Digits radix text digits) :
    Digits radix (text.map Char.toUpper) digits := by
  induction hdigits with
  | nil => exact .nil
  | underscore _hrest ih => exact .underscore ih
  | digit hdigit _hrest ih => exact .digit (hdigit.toUpper hradix) ih

theorem readDigits_eq_some_iff {radix start value : Nat} {text : List Char}
    (hradix : radix ≤ 16) :
    readDigits radix start text = some value ↔
      exists digits : List Nat, Digits radix text digits ∧
        value = Nat.ofDigits radix digits.reverse + radix ^ digits.length * start := by
  induction text generalizing start with
  | nil =>
      constructor
      · intro hread
        cases hread
        exact ⟨[], .nil, by simp⟩
      · rintro ⟨digits, hdigits, hvalue⟩
        cases hdigits
        rw [hvalue]
        simp [readDigits]
  | cons c rest ih =>
      rw [readDigits]
      by_cases hunderscore : c = '_'
      · rw [if_pos hunderscore, ih, hunderscore]
        constructor
        · rintro ⟨digits, hrest, hvalue⟩
          exact ⟨digits, .underscore hrest, hvalue⟩
        · rintro ⟨digits, hdigits, hvalue⟩
          cases hdigits with
          | underscore hrest => exact ⟨digits, hrest, hvalue⟩
          | digit hdigit hrest => exact absurd hdigit (not_isDigit_underscore hradix)
      · rw [if_neg hunderscore]
        constructor
        · intro hread
          cases hvalue : digitValue? c with
          | none =>
              rw [hvalue] at hread
              cases hread
          | some digit =>
              rw [hvalue] at hread
              by_cases hsmall : digit < radix
              · simp only [if_pos hsmall] at hread
                rcases ih.mp hread with ⟨digits, hrest, hsum⟩
                have hdigit := (isDigit_iff hradix).mpr ⟨hvalue, hsmall⟩
                refine ⟨digit :: digits, .digit hdigit hrest, ?_⟩
                rw [hsum, Nat.ofDigits_reverse_cons, List.length_cons]
                ring
              · simp only [if_neg hsmall] at hread
                cases hread
        · rintro ⟨digits, hdigits, hvalue⟩
          cases hdigits with
          | underscore hrest => exact absurd rfl hunderscore
          | @digit _ _ digit digits hdigit hrest =>
              rcases (isDigit_iff hradix).mp hdigit with ⟨hfound, hsmall⟩
              rw [hfound]
              simp only [if_pos hsmall]
              refine ih.mpr ⟨digits, hrest, ?_⟩
              rw [hvalue, Nat.ofDigits_reverse_cons, List.length_cons]
              ring

theorem readNatural?_eq_some_iff {radix value : Nat} {text : List Char} (hradix : radix ≤ 16) :
    readNatural? radix text = some value ↔ Numeral radix text value := by
  unfold readNatural?
  split
  case h_1 =>
      constructor
      · intro hread
        cases hread
      · rintro ⟨digits, hnonempty, _⟩
        exact absurd rfl hnonempty
  case h_2 rest =>
      constructor
      · intro hread
        cases hread
      · rintro ⟨digits, _, hhead, _⟩
        exact absurd rfl hhead
  case h_3 hnonempty hunderscore =>
      rw [readDigits_eq_some_iff hradix]
      constructor
      · rintro ⟨digits, hdigits, hvalue⟩
        refine ⟨digits, hnonempty, ?_, hdigits, by simpa using hvalue⟩
        intro hhead
        rcases List.head?_eq_some_iff.mp hhead with ⟨rest, htext⟩
        exact hunderscore rest htext
      · rintro ⟨digits, _, _, hdigits, hvalue⟩
        exact ⟨digits, hdigits, by simpa using hvalue⟩

theorem Numeral.exists_cons {radix value : Nat} {text : List Char}
    (hnumeral : Numeral radix text value) :
    exists (c : Char) (rest : List Char) (digit : Nat),
      text = c :: rest ∧ IsDigit radix digit c := by
  rcases hnumeral with ⟨digits, hnonempty, hhead, hdigits, _⟩
  cases hdigits with
  | nil => exact absurd rfl hnonempty
  | underscore hrest => exact absurd rfl hhead
  | digit hdigit hrest => exact ⟨_, _, _, rfl, hdigit⟩

theorem Numeral.toUpper {radix value : Nat} {text : List Char} (hradix : radix ≤ 16)
    (hnumeral : Numeral radix text value) : Numeral radix (text.map Char.toUpper) value := by
  rcases hnumeral.exists_cons with ⟨c, rest, digit, htext, hdigit⟩
  rcases hnumeral with ⟨digits, _, _, hdigits, hvalue⟩
  refine ⟨digits, ?_, ?_, hdigits.toUpper hradix, hvalue⟩
  · rw [htext]
    exact List.cons_ne_nil _ _
  · rw [htext]
    intro hhead
    injection hhead with hunderscore
    have hupper := hdigit.toUpper hradix
    rw [hunderscore] at hupper
    exact not_isDigit_underscore hradix hupper

/-!
# Written numbers
-/

theorem numeral_singleton {radix digit : Nat} {c : Char} (hradix : radix ≤ 16)
    (hdigit : IsDigit radix digit c) : Numeral radix [c] digit := by
  refine ⟨[digit], List.cons_ne_nil _ _, ?_, .digit hdigit .nil, ?_⟩
  · intro hhead
    injection hhead with hunderscore
    rw [hunderscore] at hdigit
    exact not_isDigit_underscore hradix hdigit
  · rw [List.reverse_singleton, Nat.ofDigits_singleton]

theorem Numeral.append_singleton {radix value digit : Nat} {text : List Char} {c : Char}
    (hnumeral : Numeral radix text value) (hdigit : IsDigit radix digit c) :
    Numeral radix (text ++ [c]) (digit + radix * value) := by
  rcases hnumeral with ⟨digits, hnonempty, hhead, hdigits, hvalue⟩
  refine ⟨digits ++ [digit], ?_, ?_, hdigits.append (.digit hdigit .nil), ?_⟩
  · exact List.append_ne_nil_of_left_ne_nil hnonempty _
  · rw [List.head?_append_of_ne_nil text hnonempty]
    exact hhead
  · rw [List.reverse_append, List.reverse_singleton, List.singleton_append, Nat.ofDigits_cons,
      ← hvalue]

theorem numeral_toDigits {radix : Nat} (hbase : 1 < radix) (hradix : radix ≤ 16) (value : Nat) :
    Numeral radix (Nat.toDigits radix value) value := by
  induction value using Nat.strongRecOn with
  | ind value ih =>
      rw [Nat.toDigits_eq_if hbase]
      by_cases hsmall : value < radix
      · rw [if_pos hsmall]
        exact numeral_singleton hradix ⟨hsmall, Or.inl rfl⟩
      · rw [if_neg hsmall]
        have hfront := ih (value / radix) (Nat.div_lt_self (by omega) hbase)
        have hlast : value % radix < radix := Nat.mod_lt value (by omega)
        have hwhole := hfront.append_singleton ⟨hlast, Or.inl rfl⟩
        rw [Nat.mod_add_div] at hwhole
        exact hwhole

end Text
end Whitespace
