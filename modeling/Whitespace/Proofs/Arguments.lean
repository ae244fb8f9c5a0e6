import Whitespace.Proofs.Numerals
import Whitespace.Proofs.Quotes

/-!
# The forms of arguments

A literal is written as its own binary digits, as a character between quotes, or
as an integer.  Arguments for numbers and for labels are read from texts of these
forms and from no others; a label refuses the negative integers.
-/

namespace Whitespace

/-!
# Binary digits as text
-/

theorem digitsOfBits_eq_ok_iff {text : List Char} {digits : List Bool} :
    digitsOfBits text = .ok digits ↔ text = (bitsOfDigits digits).toList := by
  constructor
  · intro hdigits
    fun_induction digitsOfBits text generalizing digits with
    | case1 =>
        cases hdigits
        rfl
    | case2 rest ih =>
        rw [bind_pure_comp] at hdigits
        rcases map_eq_ok_iff.mp hdigits with ⟨others, hrest, hcons⟩
        rw [ih hrest, ← hcons]
        simp [bitsOfDigits]
    | case3 rest ih =>
        rw [bind_pure_comp] at hdigits
        rcases map_eq_ok_iff.mp hdigits with ⟨others, hrest, hcons⟩
        rw [ih hrest, ← hcons]
        simp [bitsOfDigits]
    | case4 => cases hdigits
  · intro htext
    rw [htext]
    exact digitsOfBits_bitsOfDigits digits

namespace Argument

theorem bits_eq_ok_iff {text : List Char} {digits : List Bool} :
    bits text = .ok digits ↔ text = (bitsOfDigits digits).toList := by
  rw [← digitsOfBits_eq_ok_iff, bits]
  cases digitsOfBits text with
  | error error => simp
  | ok found => simp

/-!
# Characters
-/

def escapes : List (Char × Char) :=
  [('n', '\n'), ('t', '\t'), ('r', '\r'), ('0', '\x00'), ('\\', '\\'), ('\'', '\'')]

inductive Quoted : List Char -> Char -> Prop where
  | plain (c : Char) (hc : c ≠ '\\') : Quoted ['\'', c, '\''] c
  | escaped (letter c : Char) (hescape : (letter, c) ∈ escapes) :
      Quoted ['\'', '\\', letter, '\''] c

theorem escape?_eq_some_iff {letter c : Char} :
    escape? letter = some c ↔ (letter, c) ∈ escapes := by
  constructor
  · intro hescape
    unfold escape? at hescape
    split at hescape
    case h_7 => cases hescape
    all_goals
      cases hescape
      decide
  · intro hmem
    simp only [escapes, List.mem_cons, Prod.mk.injEq, List.not_mem_nil, or_false] at hmem
    rcases hmem with ⟨hletter, hc⟩ | ⟨hletter, hc⟩ | ⟨hletter, hc⟩ | ⟨hletter, hc⟩ |
      ⟨hletter, hc⟩ | ⟨hletter, hc⟩
    all_goals
      rw [hletter, hc]
      rfl

theorem character_append (inner : List Char) :
    character (inner ++ ['\'']) = quotedChar inner := by
  rw [character, List.getLast?_concat, if_pos rfl, List.dropLast_concat]

theorem character_plain {c : Char} (hc : c ≠ '\\') : character [c, '\''] = .ok c :=
  (character_append [c]).trans (if_neg hc)

theorem character_escaped {letter c : Char} (hescape : escape? letter = some c) :
    character ['\\', letter, '\''] = .ok c := by
  refine (character_append ['\\', letter]).trans ?_
  simp only [quotedChar, hescape]

theorem character_unknown {letter : Char} (hescape : escape? letter = none) :
    character ['\\', letter, '\''] = .error (.unknownEscape letter) := by
  refine (character_append ['\\', letter]).trans ?_
  simp only [quotedChar, hescape]

theorem character_eq_ok_iff {rest : List Char} {c : Char} :
    character rest = .ok c ↔ Quoted ('\'' :: rest) c := by
  constructor
  · intro hchar
    rcases eq_of_character hchar with ⟨d, hd, hrest⟩ | ⟨letter, hrest⟩
    · rw [hrest] at hchar ⊢
      rw [character_plain hd] at hchar
      cases hchar
      exact .plain c hd
    · rw [hrest] at hchar ⊢
      cases hescape : escape? letter with
      | none =>
          rw [character_unknown hescape] at hchar
          cases hchar
      | some found =>
          rw [character_escaped hescape] at hchar
          cases hchar
          exact .escaped letter c (escape?_eq_some_iff.mp hescape)
  · intro hquoted
    cases hquoted with
    | plain _ hc => exact character_plain hc
    | escaped letter _ hescape => exact character_escaped (escape?_eq_some_iff.mpr hescape)

/-!
# Integers
-/

inductive Magnitude : List Char -> Nat -> Prop where
  | decimal {digits : List Char} {value : Nat} (hdigits : Text.Numeral 10 digits value) :
      Magnitude digits value
  | hexadecimal {mark : Char} {digits : List Char} {value : Nat} (hmark : mark = 'x' ∨ mark = 'X')
      (hdigits : Text.Numeral 16 digits value) : Magnitude ('0' :: mark :: digits) value

inductive Signed : List Char -> Int -> Prop where
  | natural {body : List Char} {value : Nat} (hbody : Magnitude body value) : Signed body value
  | negated {body : List Char} {value : Nat} (hbody : Magnitude body value) :
      Signed ('-' :: body) (-(value : Int))

theorem Magnitude.exists_cons {body : List Char} {value : Nat} (hbody : Magnitude body value) :
    exists (c : Char) (rest : List Char), body = c :: rest ∧ c.isDigit = true := by
  cases hbody with
  | decimal hdigits =>
      rcases hdigits.exists_cons with ⟨c, rest, digit, htext, hdigit⟩
      exact ⟨c, rest, htext, hdigit.isDigit⟩
  | hexadecimal hmark hdigits => exact ⟨'0', _, rfl, rfl⟩

theorem Signed.exists_cons {text : List Char} {value : Int} (hsigned : Signed text value) :
    exists (c : Char) (rest : List Char), text = c :: rest ∧ (c = '-' ∨ c.isDigit = true) := by
  cases hsigned with
  | natural hbody =>
      rcases hbody.exists_cons with ⟨c, rest, htext, hc⟩
      exact ⟨c, rest, htext, Or.inr hc⟩
  | negated hbody => exact ⟨'-', _, rfl, Or.inl rfl⟩

/-- A decimal numeral has no digit that could be the mark of another radix. -/
theorem radixOf_of_numeral {digits : List Char} {value : Nat}
    (hdigits : Text.Numeral 10 digits value) : radixOf digits = (10, digits) := by
  have hmark : forall {mark : Char} {rest : List Char}, mark ≠ '_' -> mark.isDigit = false ->
      digits ≠ '0' :: mark :: rest := by
    intro mark rest hunderscore hletter hshape
    rcases hdigits with ⟨found, _, _, hall, _⟩
    rw [hshape] at hall
    cases hall with
    | digit hzero hothers =>
        cases hothers with
        | underscore hrest => exact hunderscore rfl
        | digit hdigit hrest =>
            rw [hdigit.isDigit] at hletter
            cases hletter
  unfold radixOf
  split
  case h_1 rest => exact absurd rfl (hmark (by decide) (by decide))
  case h_2 rest => exact absurd rfl (hmark (by decide) (by decide))
  case h_3 => rfl

/-- The texts that are refused before their digits are read are no numerals. -/
theorem magnitude_eq_ok_iff_read {body : List Char} {value : Nat} :
    magnitude body = .ok value ↔
      Text.readNatural? (radixOf body).1 (radixOf body).2 = some value := by
  unfold magnitude
  dsimp only
  split
  case h_1 hnil => simp [hnil, Text.readNatural?]
  case h_2 rest hplus => simp [hplus, Text.readNatural?, Text.readDigits, Text.digitValue?]
  case h_3 rest hminus => simp [hminus, Text.readNatural?, Text.readDigits, Text.digitValue?]
  case h_4 =>
      cases Text.readNatural? (radixOf body).1 (radixOf body).2 with
      | none => simp
      | some found => simp

theorem magnitude_eq_ok_iff {body : List Char} {value : Nat} :
    magnitude body = .ok value ↔ Magnitude body value := by
  rw [magnitude_eq_ok_iff_read]
  constructor
  · intro hread
    unfold radixOf at hread
    split at hread
    case h_1 digits =>
        exact .hexadecimal (Or.inl rfl) ((Text.readNatural?_eq_some_iff (by decide)).mp hread)
    case h_2 digits =>
        exact .hexadecimal (Or.inr rfl) ((Text.readNatural?_eq_some_iff (by decide)).mp hread)
    case h_3 => exact .decimal ((Text.readNatural?_eq_some_iff (by decide)).mp hread)
  · intro hbody
    cases hbody with
    | decimal hdigits =>
        rw [radixOf_of_numeral hdigits]
        exact (@Text.readNatural?_eq_some_iff 10 _ _ (by decide)).mpr hdigits
    | hexadecimal hmark hdigits =>
        rcases hmark with hmark | hmark
        · rw [hmark]
          exact (@Text.readNatural?_eq_some_iff 16 _ _ (by decide)).mpr hdigits
        · rw [hmark]
          exact (@Text.readNatural?_eq_some_iff 16 _ _ (by decide)).mpr hdigits

theorem integer_eq_ok_iff {text : List Char} {value : Int} :
    integer text = .ok value ↔
      Signed text value ∨ exists c : Char, Quoted text c ∧ (c.toNat : Int) = value := by
  constructor
  · intro hvalue
    unfold integer at hvalue
    split at hvalue
    case h_1 rest =>
        rw [bind_pure_comp] at hvalue
        rcases map_eq_ok_iff.mp hvalue with ⟨c, hchar, hcode⟩
        exact Or.inr ⟨c, character_eq_ok_iff.mp hchar, hcode⟩
    case h_2 body =>
        rw [bind_pure_comp] at hvalue
        rcases map_eq_ok_iff.mp hvalue with ⟨found, hbody, hsign⟩
        rw [← hsign]
        exact Or.inl (.negated (magnitude_eq_ok_iff.mp hbody))
    case h_3 =>
        rw [bind_pure_comp] at hvalue
        rcases map_eq_ok_iff.mp hvalue with ⟨found, hbody, hsign⟩
        rw [← hsign]
        exact Or.inl (.natural (magnitude_eq_ok_iff.mp hbody))
  · rintro (hsigned | ⟨c, hquoted, hcode⟩)
    · cases hsigned with
      | @natural _ found hbody =>
          rcases hbody.exists_cons with ⟨first, rest, htext, hfirst⟩
          unfold integer
          split
          case h_1 =>
              injection htext with hquote
              rw [← hquote] at hfirst
              cases hfirst
          case h_2 =>
              injection htext with hminus
              rw [← hminus] at hfirst
              cases hfirst
          case h_3 =>
              rw [magnitude_eq_ok_iff.mpr hbody]
              rfl
      | negated hbody =>
          rw [integer, magnitude_eq_ok_iff.mpr hbody]
          rfl
    · have hrest : exists rest : List Char, text = '\'' :: rest := by
        cases hquoted with
        | plain c hc => exact ⟨_, rfl⟩
        | escaped letter c hescape => exact ⟨_, rfl⟩
      rcases hrest with ⟨rest, htext⟩
      rw [htext] at hquoted ⊢
      rw [integer, character_eq_ok_iff.mpr hquoted, ← hcode]
      rfl

/-!
# Forms
-/

inductive Form where
  | bits (digits : List Bool)
  | character (c : Char)
  | integer (value : Int)

inductive Written : List Char -> Form -> Prop where
  | bits (digits : List Bool) : Written ('b' :: (bitsOfDigits digits).toList) (.bits digits)
  | character {text : List Char} {c : Char} (hquoted : Quoted text c) : Written text (.character c)
  | integer {text : List Char} {value : Int} (hsigned : Signed text value) :
      Written text (.integer value)

namespace Form

def number : Form -> Number
  | bits digits => ⟨digits⟩
  | character c => Number.ofInt c.toNat
  | integer value => Number.ofInt value

/-- Labels have no sign, so negative integers are out of their range. -/
def label : Form -> Except AssemblyFault Label
  | bits digits => .ok ⟨digits⟩
  | character c => .ok (Label.ofNat c.toNat)
  | integer value =>
      if value < 0 then .error (.outOfRange value) else .ok (Label.ofNat value.toNat)

end Form

theorem ne_bits_of_integer {text : List Char} {value : Int} (hvalue : integer text = .ok value)
    (digits : List Char) : text ≠ 'b' :: digits := by
  intro htext
  rw [htext] at hvalue
  rcases integer_eq_ok_iff.mp hvalue with hsigned | ⟨c, hquoted, _⟩
  · rcases hsigned.exists_cons with ⟨c, rest, hcons, hc⟩
    injection hcons with hfirst
    rw [← hfirst] at hc
    rcases hc with hminus | hdigit
    · cases hminus
    · cases hdigit
  · cases hquoted

theorem number_of_integer {text : List Char} {value : Int} (hvalue : integer text = .ok value) :
    number text = .ok (Number.ofInt value) := by
  unfold number
  split
  case h_1 digits => exact absurd rfl (ne_bits_of_integer hvalue digits)
  case h_2 =>
      rw [hvalue]
      rfl

theorem label_of_integer {text : List Char} {value : Int} (hvalue : integer text = .ok value) :
    label text = (Form.integer value).label := by
  unfold label
  split
  case h_1 digits => exact absurd rfl (ne_bits_of_integer hvalue digits)
  case h_2 =>
      rw [hvalue]
      rfl

theorem label_character (c : Char) :
    (Form.integer c.toNat).label = (Form.character c).label := by
  have hnatural : ¬ (c.toNat : Int) < 0 := by omega
  simp only [Form.label, if_neg hnatural, Int.toNat_natCast]

theorem read_bits {digits : List Char} {result : Except LiteralFault (List Bool)}
    (hbits : bits digits = result) :
    number ('b' :: digits) = Number.mk <$> inLiteral ('b' :: digits) result ∧
      label ('b' :: digits) = Label.mk <$> inLiteral ('b' :: digits) result := by
  rw [← hbits]
  exact ⟨rfl, rfl⟩

theorem Written.read {text : List Char} {form : Form} (hwritten : Written text form) :
    number text = .ok form.number ∧ label text = form.label := by
  cases hwritten with
  | bits digits => exact read_bits (bits_eq_ok_iff.mpr rfl)
  | @character _ c hquoted =>
      have hvalue := integer_eq_ok_iff.mpr (Or.inr ⟨c, hquoted, rfl⟩)
      exact ⟨number_of_integer hvalue, (label_of_integer hvalue).trans (label_character c)⟩
  | integer hsigned =>
      have hvalue := integer_eq_ok_iff.mpr (Or.inl hsigned)
      exact ⟨number_of_integer hvalue, label_of_integer hvalue⟩

/-- A text that is written in no form is refused, for the same fault in both kinds. -/
theorem refused_of_not_written {text : List Char} (hnone : forall form, ¬ Written text form) :
    exists fault : LiteralFault,
      number text = .error (.invalidLiteral (String.ofList text) fault) ∧
        label text = .error (.invalidLiteral (String.ofList text) fault) := by
  by_cases hmark : exists digits, text = 'b' :: digits
  · rcases hmark with ⟨digits, htext⟩
    rw [htext] at hnone ⊢
    cases hbits : bits digits with
    | error fault => exact ⟨fault, read_bits hbits⟩
    | ok found =>
        rw [bits_eq_ok_iff.mp hbits] at hnone
        exact absurd (.bits found) (hnone (.bits found))
  · cases hvalue : integer text with
    | error fault =>
        refine ⟨fault, ?_, ?_⟩
        · unfold number
          split
          case h_1 digits => exact absurd ⟨digits, rfl⟩ hmark
          case h_2 =>
              rw [hvalue]
              rfl
        · unfold label
          split
          case h_1 digits => exact absurd ⟨digits, rfl⟩ hmark
          case h_2 =>
              rw [hvalue]
              rfl
    | ok value =>
        rcases integer_eq_ok_iff.mp hvalue with hsigned | ⟨c, hquoted, _⟩
        · exact absurd (.integer hsigned) (hnone (.integer value))
        · exact absurd (.character hquoted) (hnone (.character c))

theorem number_eq_ok_iff {text : List Char} {found : Number} :
    number text = .ok found ↔ exists form, Written text form ∧ form.number = found := by
  constructor
  · intro hnumber
    by_cases hwritten : exists form, Written text form
    · rcases hwritten with ⟨form, hform⟩
      rw [hform.read.left] at hnumber
      exact ⟨form, hform, Except.ok.inj hnumber⟩
    · rcases refused_of_not_written (not_exists.mp hwritten) with ⟨fault, hrefused, _⟩
      rw [hrefused] at hnumber
      cases hnumber
  · rintro ⟨form, hform, hfound⟩
    rw [hform.read.left, hfound]

theorem label_eq_iff {text : List Char} {result : Except AssemblyFault Label}
    (hvalid : forall fault, result ≠ .error (.invalidLiteral (String.ofList text) fault)) :
    label text = result ↔ exists form, Written text form ∧ form.label = result := by
  constructor
  · intro hlabel
    by_cases hwritten : exists form, Written text form
    · rcases hwritten with ⟨form, hform⟩
      exact ⟨form, hform, hform.read.right.symm.trans hlabel⟩
    · rcases refused_of_not_written (not_exists.mp hwritten) with ⟨fault, _, hrefused⟩
      rw [hrefused] at hlabel
      exact absurd hlabel.symm (hvalid fault)
  · rintro ⟨form, hform, hresult⟩
    exact hform.read.right.trans hresult

theorem label_eq_outOfRange_iff {text : List Char} {value : Int} :
    label text = .error (.outOfRange value) ↔ value < 0 ∧ Written text (.integer value) := by
  rw [label_eq_iff (by intro fault hsame; cases hsame)]
  constructor
  · rintro ⟨form, hform, hresult⟩
    cases form with
    | bits digits => cases hresult
    | character c => cases hresult
    | integer found =>
        by_cases hnegative : found < 0
        · rw [Form.label, if_pos hnegative] at hresult
          cases hresult
          exact ⟨hnegative, hform⟩
        · rw [Form.label, if_neg hnegative] at hresult
          cases hresult
  · rintro ⟨hnegative, hform⟩
    exact ⟨.integer value, hform, if_pos hnegative⟩

/-!
# Written integers
-/

inductive Letters where
  | small
  | capital

def Letters.write : Letters -> Char -> Char
  | small => id
  | capital => Char.toUpper

def hexText (mark digits : Letters) (n : Int) : List Char :=
  (if n < 0 then ['-'] else []) ++
    '0' :: mark.write 'x' :: (Nat.toDigits 16 n.natAbs).map digits.write

theorem numeral_hexDigits (letters : Letters) (n : Nat) :
    Text.Numeral 16 ((Nat.toDigits 16 n).map letters.write) n := by
  have hnumeral := @Text.numeral_toDigits 16 (by decide) (by decide) n
  cases letters with
  | small =>
      rw [Letters.write, List.map_id]
      exact hnumeral
  | capital => exact hnumeral.toUpper (by decide)

theorem signed_hexText (mark digits : Letters) (n : Int) : Signed (hexText mark digits n) n := by
  have hmark : mark.write 'x' = 'x' ∨ mark.write 'x' = 'X' := by
    cases mark with
    | small => exact Or.inl rfl
    | capital => exact Or.inr rfl
  have hbody := Magnitude.hexadecimal hmark (numeral_hexDigits digits n.natAbs)
  by_cases hnegative : n < 0
  · have hn : n = -(n.natAbs : Int) := by omega
    have hsigned := Signed.negated hbody
    rw [← hn] at hsigned
    rw [hexText, if_pos hnegative]
    exact hsigned
  · have hn : n = n.natAbs := by omega
    have hsigned := Signed.natural hbody
    rw [← hn] at hsigned
    rw [hexText, if_neg hnegative]
    exact hsigned

/-!
# Arguments
-/

theorem literal_forms :
    (forall (text : List Char) (found : Number),
      number text = .ok found ↔ exists form, Written text form ∧ form.number = found) ∧
    (forall (text : List Char) (found : Label),
      label text = .ok found ↔ exists form, Written text form ∧ form.label = .ok found) ∧
    (forall (text : List Char) (value : Int),
      label text = .error (.outOfRange value) ↔ value < 0 ∧ Written text (.integer value)) ∧
    (forall n : Int,
      (Number.ofInt n).value = n ∧
      number (toString n).toList = .ok (Number.ofInt n) ∧
      (forall mark digits : Letters, number (hexText mark digits n) = .ok (Number.ofInt n)) ∧
      number ('b' :: (Number.ofInt n).bits.toList) = .ok (Number.ofInt n)) := by
  refine ⟨fun _text _found => number_eq_ok_iff, ?_, fun _text _value => label_eq_outOfRange_iff, ?_⟩
  · intro text found
    exact label_eq_iff (by intro fault hsame; cases hsame)
  · intro n
    refine ⟨Number.value_ofInt n, number_toString n, ?_, ?_⟩
    · intro mark digits
      exact (Written.integer (signed_hexText mark digits n)).read.left
    · exact (Written.bits (Number.ofInt n).digits).read.left

end Argument
end Whitespace
