import Whitespace.Assembly.PushSequence
import Whitespace.Proofs.Numerals
import Whitespace.Proofs.Patterns

/-!
# The arguments of push sequences

The argument of a push sequence is a list of decimal integers in brackets or a text
between double quotes, with blanks around it and perhaps a tilde in front.  An
argument is read as the sequence that it is written as, and an argument that is
written as none is malformed.

A list is recognised in one way and read in another.  The two agree on lists of
integers; a list that only the pattern accepts, with digits of other scripts, is
malformed as well.
-/

namespace Whitespace

/-!
# Blanks around a text
-/

namespace Text

def Spaced (core text : List Char) : Prop :=
  exists front back : List Char, text = front ++ core ++ back ∧
    (forall c, c ∈ front -> isBlank c = true) ∧ (forall c, c ∈ back -> isBlank c = true)

theorem spaced_trim (text : List Char) : Spaced (trim text) text :=
  exists_trim_append text

theorem Spaced.trim_eq {core text : List Char} (hspaced : Spaced core text) (hcore : core ≠ [])
    (hfirst : forall c, core.head? = some c -> isBlank c = false)
    (hlast : forall c, core.getLast? = some c -> isBlank c = false) : trim text = core := by
  rcases hspaced with ⟨front, back, htext, hfront, hback⟩
  rw [htext]
  exact trim_of_append hcore hfront hback hfirst hlast

theorem Spaced.not_mem {core text : List Char} {c : Char} (hspaced : Spaced core text)
    (hc : isBlank c = false) (hcore : c ∉ core) : c ∉ text := by
  rcases hspaced with ⟨front, back, htext, hfront, hback⟩
  intro hmem
  rw [htext, List.mem_append, List.mem_append] at hmem
  rcases hmem with (hmem | hmem) | hmem
  · rw [hfront c hmem] at hc
    cases hc
  · exact hcore hmem
  · rw [hback c hmem] at hc
    cases hc

theorem trimStart_blanks {blanks text : List Char}
    (hblanks : forall c, c ∈ blanks -> isBlank c = true) :
    trimStart (blanks ++ text) = trimStart text := by
  rw [trimStart, List.dropWhile_append_of_pos hblanks, ← trimStart]

theorem readInteger?_minus (digits : List Char) :
    readInteger? ('-' :: digits) = (readNatural? 10 digits).map fun n : Nat => -(n : Int) := by
  cases hread : readNatural? 10 digits <;> simp [readInteger?, hread]

theorem readInteger?_of_ne {text : List Char} (hminus : forall digits, text ≠ '-' :: digits)
    (hplus : forall digits, text ≠ '+' :: digits) :
    readInteger? text = (readNatural? 10 text).map fun n : Nat => (n : Int) := by
  unfold readInteger?
  split
  case h_1 digits => exact absurd rfl (hminus digits)
  case h_2 digits => exact absurd rfl (hplus digits)
  case h_3 => cases readNatural? 10 text <;> simp

/-!
# Decimal digits
-/

theorem isDecimal_of_isDigit {c : Char} (hc : c.isDigit = true) : isDecimal c = true := by
  rcases digit_bounds hc with ⟨hlow, hhigh⟩
  rw [isDecimal, inRanges, decimalEnds, inRangesFrom, if_neg (by omega), inRangesFrom,
    if_pos (by omega)]
  rfl

theorem isDecimal_of_isBlank {c : Char} (hc : isBlank c = true) : isDecimal c = false := by
  have hcodes : forall n : Nat, n ∈ [9, 10, 11, 12, 13, 0x20, 0x85, 0xA0, 0x1680, 0x2000, 0x2001,
      0x2002, 0x2003, 0x2004, 0x2005, 0x2006, 0x2007, 0x2008, 0x2009, 0x200A, 0x2028, 0x2029,
      0x202F, 0x205F, 0x3000] -> inRangesFrom false n decimalEnds = false := by decide
  apply hcodes
  simp only [isBlank, Bool.or_eq_true, Bool.and_eq_true, decide_eq_true_eq, beq_iff_eq] at hc
  simp only [List.mem_cons, List.not_mem_nil, or_false]
  omega

theorem isBlank_of_isDecimal {c : Char} (hc : isDecimal c = true) : isBlank c = false := by
  cases hblank : isBlank c with
  | false => rfl
  | true =>
      rw [isDecimal_of_isBlank hblank] at hc
      cases hc

end Text

namespace PushSequence

/-!
# Items

The items of a list are decimal numerals without underscores, with at most one
minus sign.
-/

inductive Item : List Char -> Int -> Prop where
  | natural {digits : List Char} {value : Nat} (hdigits : Text.Numeral 10 digits value)
      (hplain : '_' ∉ digits) : Item digits value
  | negated {digits : List Char} {value : Nat} (hdigits : Text.Numeral 10 digits value)
      (hplain : '_' ∉ digits) : Item ('-' :: digits) (-(value : Int))

theorem isDigit_of_mem_digits {text : List Char} {digits : List Nat}
    (hdigits : Text.Digits 10 text digits) (hplain : '_' ∉ text) {c : Char} (hmem : c ∈ text) :
    c.isDigit = true := by
  induction hdigits with
  | nil => cases hmem
  | underscore hrest ih => exact absurd List.mem_cons_self hplain
  | digit hdigit hrest ih =>
      cases hmem with
      | head => exact hdigit.isDigit
      | tail _ hmem => exact ih (List.not_mem_of_not_mem_cons hplain) hmem

theorem isDigit_of_mem_numeral {text : List Char} {value : Nat}
    (hnumeral : Text.Numeral 10 text value) (hplain : '_' ∉ text) {c : Char} (hmem : c ∈ text) :
    c.isDigit = true := by
  rcases hnumeral with ⟨digits, _, _, hdigits, _⟩
  exact isDigit_of_mem_digits hdigits hplain hmem

/-!
# Shapes

To the pattern of lists an item is digits of any script behind at most one minus
sign.
-/

/-- The text is of the shape that the pattern of lists has for an item. -/
def Shaped (text : List Char) : Prop :=
  exists sign body, text = sign ++ body ∧ minus.Matches sign ∧ digits.Matches body

theorem matches_minus {text : List Char} : minus.Matches text ↔ text = ['-'] ∨ text = [] :=
  or_congr Text.Pattern.matches_literal Iff.rfl

theorem Shaped.ne_nil {text : List Char} (hshaped : Shaped text) : text ≠ [] := by
  rcases hshaped with ⟨sign, body, htext, _hsign, hbody⟩
  rw [htext]
  exact List.append_ne_nil_of_right_ne_nil sign (Text.Pattern.matches_repeated_one.mp hbody).left

theorem Shaped.minus_or_isDecimal {text : List Char} (hshaped : Shaped text) {c : Char}
    (hmem : c ∈ text) : c = '-' ∨ Text.isDecimal c = true := by
  rcases hshaped with ⟨sign, body, htext, hsign, hbody⟩
  rw [htext, List.mem_append] at hmem
  rcases hmem with hmem | hmem
  · rcases matches_minus.mp hsign with hminus | hnone
    · rw [hminus, List.mem_singleton] at hmem
      exact Or.inl hmem
    · rw [hnone] at hmem
      cases hmem
  · exact Or.inr ((Text.Pattern.matches_repeated_one.mp hbody).right c hmem)

theorem Shaped.isBlank {text : List Char} (hshaped : Shaped text) {c : Char} (hmem : c ∈ text) :
    Text.isBlank c = false := by
  rcases hshaped.minus_or_isDecimal hmem with hminus | hdecimal
  · rw [hminus]
    decide
  · exact Text.isBlank_of_isDecimal hdecimal

theorem Shaped.trim_eq {core text : List Char} (hshaped : Shaped core)
    (hspaced : Text.Spaced core text) : Text.trim text = core :=
  hspaced.trim_eq hshaped.ne_nil (fun _c hfirst => hshaped.isBlank (List.mem_of_head? hfirst))
    (fun _c hlast => hshaped.isBlank (List.mem_of_getLast? hlast))

theorem Shaped.not_mem {core text : List Char} (hshaped : Shaped core)
    (hspaced : Text.Spaced core text) {c : Char} (hblank : Text.isBlank c = false)
    (hminus : c ≠ '-') (hdecimal : Text.isDecimal c = false) : c ∉ text := by
  apply hspaced.not_mem hblank
  intro hmem
  rcases hshaped.minus_or_isDecimal hmem with hsame | hdigit
  · exact hminus hsame
  · rw [hdigit] at hdecimal
    cases hdecimal

theorem Shaped.comma_not_mem {core text : List Char} (hshaped : Shaped core)
    (hspaced : Text.Spaced core text) : ',' ∉ text :=
  hshaped.not_mem hspaced (by decide) (by decide) (by decide)

theorem readNatural?_iff {text : List Char} (htext : digits.Matches text) {value : Nat} :
    Text.readNatural? 10 text = some value ↔ Text.Numeral 10 text value ∧ '_' ∉ text := by
  rw [Text.readNatural?_eq_some_iff (by decide), iff_self_and]
  intro _hnumeral hmem
  have hdecimal := (Text.Pattern.matches_repeated_one.mp htext).right '_' hmem
  cases hdecimal

theorem matches_digits_of_numeral {text : List Char} {value : Nat}
    (hnumeral : Text.Numeral 10 text value) (hplain : '_' ∉ text) : digits.Matches text := by
  refine Text.Pattern.matches_repeated_one.mpr ⟨?_, ?_⟩
  · rcases hnumeral with ⟨_, hnonempty, _⟩
    exact hnonempty
  · intro c hmem
    exact Text.isDecimal_of_isDigit (isDigit_of_mem_numeral hnumeral hplain hmem)

theorem Item.shaped {text : List Char} {value : Int} (hitem : Item text value) : Shaped text := by
  cases hitem with
  | natural hnumeral hplain =>
      exact ⟨[], text, rfl, matches_minus.mpr (Or.inr rfl),
        matches_digits_of_numeral hnumeral hplain⟩
  | negated hnumeral hplain =>
      exact ⟨['-'], _, rfl, matches_minus.mpr (Or.inl rfl),
        matches_digits_of_numeral hnumeral hplain⟩

theorem readInteger?_of_digits {text : List Char} (htext : digits.Matches text) :
    Text.readInteger? text = (Text.readNatural? 10 text).map fun n : Nat => (n : Int) := by
  have hdecimal := (Text.Pattern.matches_repeated_one.mp htext).right
  have hfirst : forall {c : Char}, Text.isDecimal c = false -> forall rest, text ≠ c :: rest := by
    intro c hc rest hsame
    rw [hdecimal c (by rw [hsame]; exact List.mem_cons_self)] at hc
    cases hc
  exact Text.readInteger?_of_ne (hfirst (by decide)) (hfirst (by decide))

theorem item_iff {text : List Char} {value : Int} :
    Item text value ↔ Shaped text ∧ Text.readInteger? text = some value := by
  constructor
  · intro hitem
    refine ⟨hitem.shaped, ?_⟩
    cases hitem with
    | natural hnumeral hplain =>
        have hdigits := matches_digits_of_numeral hnumeral hplain
        rw [readInteger?_of_digits hdigits, (readNatural?_iff hdigits).mpr ⟨hnumeral, hplain⟩]
        rfl
    | negated hnumeral hplain =>
        have hdigits := matches_digits_of_numeral hnumeral hplain
        rw [Text.readInteger?_minus, (readNatural?_iff hdigits).mpr ⟨hnumeral, hplain⟩]
        rfl
  · rintro ⟨⟨sign, body, htext, hsign, hbody⟩, hread⟩
    rw [htext] at hread ⊢
    rcases matches_minus.mp hsign with hminus | hnone
    · rw [hminus, List.singleton_append] at hread ⊢
      rw [Text.readInteger?_minus] at hread
      rcases Option.map_eq_some_iff.mp hread with ⟨natural, hnatural, hvalue⟩
      rcases (readNatural?_iff hbody).mp hnatural with ⟨hnumeral, hplain⟩
      rw [← hvalue]
      exact .negated hnumeral hplain
    · rw [hnone, List.nil_append] at hread ⊢
      rw [readInteger?_of_digits hbody] at hread
      rcases Option.map_eq_some_iff.mp hread with ⟨natural, hnatural, hvalue⟩
      rcases (readNatural?_iff hbody).mp hnatural with ⟨hnumeral, hplain⟩
      rw [← hvalue]
      exact .natural hnumeral hplain

/-!
# Lists
-/

inductive Items : List Char -> List Int -> Prop where
  | last {core text : List Char} {value : Int} (hspaced : Text.Spaced core text)
      (hitem : Item core value) : Items text [value]
  | more {core text rest : List Char} {value : Int} {values : List Int}
      (hspaced : Text.Spaced core text) (hitem : Item core value) (hrest : Items rest values) :
      Items (text ++ ',' :: rest) (value :: values)

theorem items_of_not_mem {text : List Char} {values : List Int} (hfree : ',' ∉ text) :
    Items text values ↔ exists value, Item (Text.trim text) value ∧ values = [value] := by
  constructor
  · intro hitems
    cases hitems with
    | @last core _ value hspaced hitem =>
        refine ⟨value, ?_, rfl⟩
        rw [hitem.shaped.trim_eq hspaced]
        exact hitem
    | more hspaced hitem hrest => exact absurd (by simp) hfree
  · rintro ⟨value, hitem, hvalues⟩
    rw [hvalues]
    exact .last (Text.spaced_trim text) hitem

theorem items_append {text rest : List Char} {values : List Int} (hfree : ',' ∉ text) :
    Items (text ++ ',' :: rest) values ↔
      exists (value : Int) (others : List Int),
        Item (Text.trim text) value ∧ Items rest others ∧ values = value :: others := by
  constructor
  · intro hitems
    generalize hwhole : text ++ ',' :: rest = whole at hitems
    cases hitems with
    | last hspaced hitem =>
        have habsent := hitem.shaped.comma_not_mem hspaced
        rw [← hwhole] at habsent
        exact absurd (by simp) habsent
    | @more core front behind value others hspaced hitem hrest =>
        have hfront := hitem.shaped.comma_not_mem hspaced
        -- Both texts stop at their first comma.
        have hfields := congrArg (Text.fields ',') hwhole
        rw [Text.fields_append hfree, Text.fields_append hfront] at hfields
        injection hfields with htext
        rw [htext, List.append_right_inj] at hwhole
        injection hwhole with _ hbehind
        rw [htext, hbehind, hitem.shaped.trim_eq hspaced]
        exact ⟨value, others, hitem, hrest, rfl⟩
  · rintro ⟨value, others, hitem, hrest, hvalues⟩
    rw [hvalues]
    exact .more (Text.spaced_trim text) hitem hrest

/-- Of the texts whose fields all have the shape of an item, reading accepts the lists. -/
theorem items_iff {inner : List Char} {values : List Int} :
    Items inner values ↔
      (forall field, field ∈ Text.fields ',' inner -> Shaped (Text.trim field)) ∧
        ((Text.fields ',' inner).mapM fun field => Text.readInteger? (Text.trim field)) =
          some values := by
  induction inner using Text.field_induction ',' generalizing values with
  | last field hfield =>
      rw [Text.fields_of_not_mem hfield, items_of_not_mem hfield, List.mapM_cons, List.mapM_nil]
      simp only [item_iff, List.forall_mem_singleton]
      constructor
      · rintro ⟨value, ⟨hshaped, hread⟩, hvalues⟩
        rw [hread, hvalues]
        exact ⟨hshaped, rfl⟩
      · rintro ⟨hshaped, hvalues⟩
        rcases Option.bind_eq_some_iff.mp hvalues with ⟨value, hread, hsame⟩
        exact ⟨value, ⟨hshaped, hread⟩, (Option.some.inj hsame).symm⟩
  | cons field rest hfield ih =>
      rw [Text.fields_append hfield, items_append hfield, List.mapM_cons]
      simp only [item_iff, List.forall_mem_cons, ih]
      constructor
      · rintro ⟨value, others, ⟨hshaped, hread⟩, ⟨hrest, hothers⟩, hvalues⟩
        rw [hread, hothers, hvalues]
        exact ⟨⟨hshaped, hrest⟩, rfl⟩
      · rintro ⟨⟨hshaped, hrest⟩, hvalues⟩
        rcases Option.bind_eq_some_iff.mp hvalues with ⟨value, hread, hmore⟩
        rcases Option.bind_eq_some_iff.mp hmore with ⟨others, hothers, hsame⟩
        exact ⟨value, others, ⟨hshaped, hread⟩, ⟨hrest, hothers⟩, (Option.some.inj hsame).symm⟩

/-!
# The pattern of lists

The pattern takes blanks before the first item and then, with each comma, the
blanks behind it.  Read by fields, it accepts the texts whose fields have the
shape of an item between blanks.
-/

def turn : Text.Pattern :=
  .chain [minus, digits, blanks, .literal ',', blanks]

theorem matches_turn {text : List Char} :
    turn.Matches text ↔
      exists core back front, text = core ++ back ++ ',' :: front ∧ Shaped core ∧
        blanks.Matches back ∧ blanks.Matches front := by
  constructor
  · rintro ⟨sign, _, htext, hsign, body, _, hsigned, hbody, back, _, hcore, hback, comma, _, hrest,
      hcomma, front, _, hfront, hblanks, hend⟩
    rw [Text.Pattern.matches_literal.mp hcomma] at hrest
    have hend : _ = [] := hend
    rw [hend, List.append_nil] at hfront
    refine ⟨sign ++ body, back, front, ?_, ⟨sign, body, rfl, hsign, hbody⟩, hback, hblanks⟩
    rw [htext, hsigned, hcore, hrest, hfront]
    simp only [List.append_assoc, List.singleton_append]
  · rintro ⟨core, back, front, htext, ⟨sign, body, hcore, hsign, hbody⟩, hback, hfront⟩
    refine ⟨sign, _, ?_, hsign, body, _, rfl, hbody, back, _, rfl, hback, [','], _, rfl,
      Text.Pattern.matches_literal.mpr rfl, front, [], rfl, hfront, rfl⟩
    rw [htext, hcore]
    simp only [List.append_assoc, List.singleton_append, List.append_nil]

/-- What stands between the brackets of a text that the pattern of lists accepts. -/
def Row (inner : List Char) : Prop :=
  exists front turns core back, inner = front ++ turns ++ core ++ back ∧
    blanks.Matches front ∧ (Text.Pattern.many turn).Matches turns ∧ Shaped core ∧
      blanks.Matches back

theorem matches_listPattern {text : List Char} :
    listPattern.Matches text ↔ exists inner, text = '[' :: (inner ++ [']']) ∧ Row inner := by
  constructor
  · rintro ⟨opening, _, htext, hopening, front, _, hfirst, hfront, turns, _, hsecond, hturns,
      sign, _, hthird, hsign, body, _, hfourth, hbody, back, _, hfifth, hback, closing, _, hsixth,
      hclosing, hend⟩
    have hend : _ = [] := hend
    rw [Text.Pattern.matches_literal.mp hopening] at htext
    rw [Text.Pattern.matches_literal.mp hclosing, hend] at hsixth
    refine ⟨front ++ turns ++ (sign ++ body) ++ back, ?_, front, turns, sign ++ body, back, rfl,
      hfront, hturns, ⟨sign, body, rfl, hsign, hbody⟩, hback⟩
    rw [htext, hfirst, hsecond, hthird, hfourth, hfifth, hsixth]
    simp only [List.append_assoc, List.singleton_append, List.append_nil]
  · rintro ⟨inner, htext, front, turns, core, back, hinner, hfront, hturns,
      ⟨sign, body, hcore, hsign, hbody⟩, hback⟩
    refine ⟨['['], _, ?_, Text.Pattern.matches_literal.mpr rfl, front, _, rfl, hfront, turns, _,
      rfl, hturns, sign, _, rfl, hsign, body, _, rfl, hbody, back, _, rfl, hback, [']'], [], rfl,
      Text.Pattern.matches_literal.mpr rfl, rfl⟩
    rw [htext, hinner, hcore]
    simp only [List.append_assoc, List.singleton_append, List.append_nil]

theorem spaced_of_blanks {front core back : List Char} (hfront : blanks.Matches front)
    (hback : blanks.Matches back) : Text.Spaced core (front ++ core ++ back) :=
  ⟨front, back, rfl, Text.Pattern.matches_many_one.mp hfront,
    Text.Pattern.matches_many_one.mp hback⟩

theorem Row.shaped {inner : List Char} (hrow : Row inner) :
    forall field, field ∈ Text.fields ',' inner -> Shaped (Text.trim field) := by
  rcases hrow with ⟨front, _, core, back, hinner, hfront, ⟨turns, hturns, hall⟩, hcore, hback⟩
  rw [hinner, hturns]
  clear hinner hturns
  -- The blanks behind a comma stand in front of the next item.
  induction turns generalizing front with
  | nil =>
      have hspaced := @spaced_of_blanks front core back hfront hback
      have hfree := hcore.comma_not_mem hspaced
      rw [List.flatten_nil, List.append_nil, Text.fields_of_not_mem hfree,
        List.forall_mem_singleton, hcore.trim_eq hspaced]
      exact hcore
  | cons first turns ih =>
      rcases List.forall_mem_cons.mp hall with ⟨hfirst, hothers⟩
      rcases matches_turn.mp hfirst with ⟨item, behind, next, hturn, hitem, hbehind, hnext⟩
      have hspaced := @spaced_of_blanks front item behind hfront hbehind
      have hfree := hitem.comma_not_mem hspaced
      have hsplit : front ++ (first :: turns).flatten ++ core ++ back =
          (front ++ item ++ behind) ++ ',' :: (next ++ turns.flatten ++ core ++ back) := by
        rw [List.flatten_cons, hturn]
        simp only [List.append_assoc, List.cons_append]
      rw [hsplit, Text.fields_append hfree, List.forall_mem_cons, hitem.trim_eq hspaced]
      exact ⟨hitem, ih next hnext hothers⟩

theorem row_of_shaped {inner : List Char}
    (hshaped : forall field, field ∈ Text.fields ',' inner -> Shaped (Text.trim field)) :
    Row inner := by
  induction inner using Text.field_induction ',' with
  | last field hfield =>
      rw [Text.fields_of_not_mem hfield, List.forall_mem_singleton] at hshaped
      rcases Text.spaced_trim field with ⟨front, back, hsplit, hfront, hback⟩
      refine ⟨front, [], Text.trim field, back, ?_, Text.Pattern.matches_many_one.mpr hfront,
        Text.Pattern.matches_many_nil turn, hshaped, Text.Pattern.matches_many_one.mpr hback⟩
      rw [List.append_nil]
      exact hsplit
  | cons field rest hfield ih =>
      rw [Text.fields_append hfield, List.forall_mem_cons] at hshaped
      rcases Text.spaced_trim field with ⟨front, back, hsplit, hfront, hback⟩
      rcases ih hshaped.right with ⟨next, turns, core, last, hrest, hnext, hturns, hcore, hlast⟩
      have hturn : turn.Matches (Text.trim field ++ back ++ ',' :: next) :=
        matches_turn.mpr ⟨_, back, next, rfl, hshaped.left,
          Text.Pattern.matches_many_one.mpr hback, hnext⟩
      refine ⟨front, (Text.trim field ++ back ++ ',' :: next) ++ turns, core, last, ?_,
        Text.Pattern.matches_many_one.mpr hfront,
        Text.Pattern.matches_many_append hturn hturns, hcore, hlast⟩
      conv_lhs => rw [hsplit, hrest]
      simp only [List.append_assoc, List.cons_append]

/-!
# Lists that are recognised and read
-/

theorem not_mem_of_shaped {inner : List Char}
    (hshaped : forall field, field ∈ Text.fields ',' inner -> Shaped (Text.trim field)) {c : Char}
    (hcomma : c ≠ ',') (hblank : Text.isBlank c = false) (hminus : c ≠ '-')
    (hdecimal : Text.isDecimal c = false) : c ∉ inner := by
  intro hmem
  rcases Text.exists_mem_fields hmem hcomma with ⟨field, hfield, hinside⟩
  exact (hshaped field hfield).not_mem (Text.spaced_trim field) hblank hminus hdecimal hinside

theorem items?_of_not_mem {inner : List Char} (hopening : '[' ∉ inner) (hclosing : ']' ∉ inner) :
    items? ('[' :: (inner ++ [']'])) =
      (Text.fields ',' inner).mapM fun field => Text.readInteger? (Text.trim field) := by
  have hkept : forall {c : Char} {text : List Char}, c ∉ text ->
      text.dropWhile (· == c) = text := by
    intro c text hfree
    rw [List.dropWhile_eq_self_iff]
    intro hlength hfirst
    exact hfree (eq_of_beq hfirst ▸ List.getElem_mem hlength)
  have hopened : '[' ∉ inner ++ [']'] := by
    rw [List.mem_append, List.mem_singleton, not_or]
    exact ⟨hopening, by decide⟩
  have hreversed : ']' ∉ inner.reverse := by
    rw [List.mem_reverse]
    exact hclosing
  unfold items?
  dsimp only
  rw [List.dropWhile_cons_of_pos (by decide), hkept hopened, List.reverse_append,
    List.reverse_singleton, List.singleton_append, List.dropWhile_cons_of_pos (by decide),
    hkept hreversed, List.reverse_reverse]

/-- The pattern of lists and the reading of items agree on the lists. -/
theorem list_iff {text : List Char} {values : List Int} :
    listPattern.isMatch text = true ∧ items? text = some values ↔
      exists inner, text = '[' :: (inner ++ [']']) ∧ Items inner values := by
  rw [Text.Pattern.isMatch_iff, matches_listPattern]
  have hread : forall {inner : List Char},
      (forall field, field ∈ Text.fields ',' inner -> Shaped (Text.trim field)) ->
        items? ('[' :: (inner ++ [']'])) =
          (Text.fields ',' inner).mapM fun field => Text.readInteger? (Text.trim field) := by
    intro inner hshaped
    exact items?_of_not_mem
      (not_mem_of_shaped hshaped (by decide) (by decide) (by decide) (by decide))
      (not_mem_of_shaped hshaped (by decide) (by decide) (by decide) (by decide))
  constructor
  · rintro ⟨⟨inner, htext, hrow⟩, hitems⟩
    rw [htext, hread hrow.shaped] at hitems
    exact ⟨inner, htext, items_iff.mpr ⟨hrow.shaped, hitems⟩⟩
  · rintro ⟨inner, htext, hitems⟩
    rcases items_iff.mp hitems with ⟨hshaped, hvalues⟩
    rw [htext, hread hshaped]
    exact ⟨⟨inner, rfl, row_of_shaped hshaped⟩, hvalues⟩

/-!
# Texts
-/

theorem quoted?_eq_some_iff {text inner : List Char} :
    quoted? text = some inner ↔ text = '"' :: (inner ++ ['"']) ∧ '\n' ∉ inner := by
  have hline : forall {chars : List Char},
      (Text.Pattern.many (.one (· != '\n'))).Matches chars ↔ '\n' ∉ chars := by
    intro chars
    rw [Text.Pattern.matches_many_one]
    constructor
    · intro hall hmem
      exact absurd (hall '\n' hmem) (by decide)
    · intro hfree c hmem
      exact bne_iff_ne.mpr fun hsame => hfree (hsame ▸ hmem)
  have hfound : forall {found : List Char}, quoted? text = some found ->
      text = '"' :: (found ++ ['"']) ∧ '\n' ∉ found := by
    intro found hquoted
    rcases Text.Pattern.exists_of_capture? hquoted with ⟨front, back, htext, hfront, hinner, hback⟩
    rw [Text.Pattern.matches_literal.mp hfront, Text.Pattern.matches_literal.mp hback] at htext
    exact ⟨htext, hline.mp hinner⟩
  constructor
  · exact hfound
  · rintro ⟨htext, hfree⟩
    have hsome := @Text.Pattern.isSome_capture? (.literal '"') (.many (.one (· != '\n')))
      (.literal '"') text inner ['"'] ['"'] htext (Text.Pattern.matches_literal.mpr rfl)
      (hline.mpr hfree) (Text.Pattern.matches_literal.mpr rfl)
    rcases Option.isSome_iff_exists.mp hsome with ⟨found, hquoted⟩
    have hsame := (hfound hquoted).left
    rw [htext, List.cons.injEq, List.append_left_inj] at hsame
    rw [hsame.right]
    exact hquoted

/-!
# Sequences
-/

/-- The text is a list in brackets, or a text on one line between double quotes. -/
inductive Sequence : List Char -> List Int -> Prop where
  | list {inner : List Char} {values : List Int} (hitems : Items inner values) :
      Sequence ('[' :: (inner ++ [']'])) values
  | text {inner : List Char} (hline : '\n' ∉ inner) :
      Sequence ('"' :: (inner ++ ['"'])) (inner.map fun c => (c.toNat : Int))

theorem read?_of_list {body : List Char} {values : List Int}
    (hmatch : listPattern.isMatch body = true) : read? body = some values ↔
      exists inner, body = '[' :: (inner ++ [']']) ∧ Items inner values := by
  rw [← list_iff, read?, if_pos hmatch, and_iff_right hmatch]

theorem read?_of_not_list {body : List Char} {values : List Int}
    (hmatch : ¬ listPattern.isMatch body = true) : read? body = some values ↔
      exists inner, body = '"' :: (inner ++ ['"']) ∧ '\n' ∉ inner ∧
        values = inner.map fun c => (c.toNat : Int) := by
  rw [read?, if_neg hmatch, Option.map_eq_some_iff]
  constructor
  · rintro ⟨inner, hquoted, hvalues⟩
    rcases quoted?_eq_some_iff.mp hquoted with ⟨hbody, hline⟩
    exact ⟨inner, hbody, hline, hvalues.symm⟩
  · rintro ⟨inner, hbody, hline, hvalues⟩
    exact ⟨inner, quoted?_eq_some_iff.mpr ⟨hbody, hline⟩, hvalues.symm⟩

theorem not_isMatch_of_quote {rest : List Char} : ¬ listPattern.isMatch ('"' :: rest) = true := by
  rw [Text.Pattern.isMatch_iff, matches_listPattern]
  rintro ⟨inner, hbody, _hrow⟩
  cases hbody

theorem read?_eq_some_iff {body : List Char} {values : List Int} :
    read? body = some values ↔ Sequence body values := by
  constructor
  · intro hread
    by_cases hmatch : listPattern.isMatch body = true
    · rcases (read?_of_list hmatch).mp hread with ⟨inner, hbody, hitems⟩
      rw [hbody]
      exact .list hitems
    · rcases (read?_of_not_list hmatch).mp hread with ⟨inner, hbody, hline, hvalues⟩
      rw [hbody, hvalues]
      exact .text hline
  · intro hsequence
    cases hsequence with
    | list hitems => exact (read?_of_list (list_iff.mpr ⟨_, rfl, hitems⟩).left).mpr ⟨_, rfl, hitems⟩
    | text hline => exact (read?_of_not_list not_isMatch_of_quote).mpr ⟨_, rfl, hline, rfl⟩

theorem Sequence.ends {body : List Char} {values : List Int} (hsequence : Sequence body values) :
    body ≠ [] ∧ (forall c, body.head? = some c -> c = '[' ∨ c = '"') ∧
      (forall c, body.getLast? = some c -> c = ']' ∨ c = '"') := by
  cases hsequence with
  | list hitems =>
      refine ⟨List.cons_ne_nil _ _, ?_, ?_⟩
      · intro c hfirst
        exact Or.inl (Option.some.inj hfirst).symm
      · intro c hlast
        rw [← List.cons_append, List.getLast?_concat] at hlast
        exact Or.inl (Option.some.inj hlast).symm
  | text hline =>
      refine ⟨List.cons_ne_nil _ _, ?_, ?_⟩
      · intro c hfirst
        exact Or.inr (Option.some.inj hfirst).symm
      · intro c hlast
        rw [← List.cons_append, List.getLast?_concat] at hlast
        exact Or.inr (Option.some.inj hlast).symm

/-!
# Arguments
-/

/-- The argument is a sequence, or one that is reversed by a tilde in front of it. -/
inductive Written : List Char -> List Int -> Prop where
  | forward {argument body : List Char} {values : List Int} (hspaced : Text.Spaced body argument)
      (hbody : Sequence body values) : Written argument values
  | reversed {argument blanks body : List Char} {values : List Int}
      (hspaced : Text.Spaced ('~' :: (blanks ++ body)) argument)
      (hblanks : forall c, c ∈ blanks -> Text.isBlank c = true) (hbody : Sequence body values) :
      Written argument values.reverse

theorem reversal_tilde (rest : List Char) : reversal ('~' :: rest) = (true, Text.trimStart rest) :=
  rfl

theorem reversal_of_ne {c : Char} (hc : c ≠ '~') (rest : List Char) :
    reversal (c :: rest) = (false, c :: rest) := by
  unfold reversal
  split
  case h_1 hcons =>
      injection hcons with hfirst
      exact absurd hfirst hc
  case h_2 => rfl

theorem Sequence.reversal_eq {body : List Char} {values : List Int}
    (hsequence : Sequence body values) : reversal body = (false, body) := by
  cases hsequence with
  | list hitems => rfl
  | text hline => rfl

theorem Sequence.trimStart_eq {body : List Char} {values : List Int}
    (hsequence : Sequence body values) : Text.trimStart body = body := by
  cases hsequence with
  | list hitems => exact Text.trimStart_cons (by decide) _
  | text hline => exact Text.trimStart_cons (by decide) _

theorem Sequence.isBlank_last {body : List Char} {values : List Int}
    (hsequence : Sequence body values) (front : List Char) {c : Char}
    (hlast : (front ++ body).getLast? = some c) : Text.isBlank c = false := by
  rcases hsequence.ends with ⟨hnonempty, _, hends⟩
  rw [List.getLast?_append_of_ne_nil front hnonempty] at hlast
  rcases hends c hlast with hc | hc
  · rw [hc]
    decide
  · rw [hc]
    decide

theorem written_iff {argument : List Char} {found : List Int} :
    Written argument found ↔
      exists values, Sequence (reversal (Text.trim argument)).2 values ∧
        found = if (reversal (Text.trim argument)).1 then values.reverse else values := by
  constructor
  · intro hwritten
    cases hwritten with
    | @forward body _ hspaced hbody =>
        have htrim : Text.trim argument = body := by
          refine hspaced.trim_eq hbody.ends.left ?_ fun c => hbody.isBlank_last []
          intro c hfirst
          rcases hbody.ends.right.left c hfirst with hc | hc
          · rw [hc]
            decide
          · rw [hc]
            decide
        rw [htrim, hbody.reversal_eq]
        exact ⟨found, hbody, rfl⟩
    | @reversed blanks body values hspaced hblanks hbody =>
        have htrim : Text.trim argument = '~' :: (blanks ++ body) := by
          refine hspaced.trim_eq (List.cons_ne_nil _ _) ?_
            fun c => hbody.isBlank_last ('~' :: blanks)
          intro c hfirst
          cases hfirst
          decide
        rw [htrim, reversal_tilde, Text.trimStart_blanks hblanks, hbody.trimStart_eq]
        exact ⟨values, hbody, rfl⟩
  · rintro ⟨values, hbody, hfound⟩
    have hspaced := Text.spaced_trim argument
    generalize Text.trim argument = trimmed at hspaced hbody hfound
    by_cases htilde : exists rest, trimmed = '~' :: rest
    · rcases htilde with ⟨rest, hrest⟩
      rw [hrest, reversal_tilde] at hbody hfound
      rw [hrest, ← List.takeWhile_append_dropWhile (p := Text.isBlank) (l := rest)] at hspaced
      rw [hfound]
      exact .reversed hspaced (fun c hmem => List.mem_takeWhile_imp hmem) hbody
    · have hplain : reversal trimmed = (false, trimmed) := by
        cases trimmed with
        | nil => rfl
        | cons c rest => exact reversal_of_ne (fun hc => htilde ⟨rest, by rw [hc]⟩) rest
      rw [hplain] at hbody hfound
      rw [hfound]
      exact .forward hspaced hbody

theorem values_of_sequence {argument : List Char} {values : List Int}
    (hsequence : Sequence (reversal (Text.trim argument)).2 values) :
    PushSequence.values argument =
      .ok (if (reversal (Text.trim argument)).1 then values.reverse else values) := by
  rw [← read?_eq_some_iff] at hsequence
  simp only [PushSequence.values, hsequence]

theorem values_of_no_sequence {argument : List Char}
    (hnone : forall values, ¬ Sequence (reversal (Text.trim argument)).2 values) :
    values argument = .error (.malformed (String.ofList (Text.trim argument))) := by
  have hread : read? (reversal (Text.trim argument)).2 = none := by
    apply Option.eq_none_iff_forall_ne_some.mpr
    intro found hfound
    exact hnone found (read?_eq_some_iff.mp hfound)
  simp only [values, hread]

theorem values_eq_ok_iff {argument : List Char} {found : List Int} :
    values argument = .ok found ↔ Written argument found := by
  rw [written_iff]
  constructor
  · intro hvalues
    by_cases hsequence : exists values, Sequence (reversal (Text.trim argument)).2 values
    · rcases hsequence with ⟨values, hbody⟩
      rw [values_of_sequence hbody] at hvalues
      exact ⟨values, hbody, (Except.ok.inj hvalues).symm⟩
    · rw [values_of_no_sequence (not_exists.mp hsequence)] at hvalues
      cases hvalues
  · rintro ⟨values, hbody, hfound⟩
    rw [values_of_sequence hbody, hfound]

theorem values_eq_error_iff {argument : List Char} {error : SequenceError} :
    values argument = .error error ↔
      error = .malformed (String.ofList (Text.trim argument)) ∧
        forall found, ¬ Written argument found := by
  constructor
  · intro hvalues
    refine ⟨?_, ?_⟩
    · by_cases hsequence : exists values, Sequence (reversal (Text.trim argument)).2 values
      · rcases hsequence with ⟨values, hbody⟩
        rw [values_of_sequence hbody] at hvalues
        cases hvalues
      · rw [values_of_no_sequence (not_exists.mp hsequence)] at hvalues
        exact (Except.error.inj hvalues).symm
    · intro found hwritten
      rw [values_eq_ok_iff.mpr hwritten] at hvalues
      cases hvalues
  · rintro ⟨herror, hnone⟩
    rw [herror]
    apply values_of_no_sequence
    intro values hbody
    exact hnone _ (written_iff.mpr ⟨values, hbody, rfl⟩)

theorem sequence_arguments (argument : List Char) :
    (forall found : List Int, values argument = .ok found ↔ Written argument found) ∧
    (forall error : SequenceError, values argument = .error error ↔
      error = .malformed (String.ofList (Text.trim argument)) ∧
        forall found : List Int, ¬ Written argument found) :=
  ⟨fun _found => values_eq_ok_iff, fun _error => values_eq_error_iff⟩

end PushSequence
end Whitespace
