import Whitespace.Proofs.Reassembly

/-!
# Texts that show where they end

A written value can be told from what follows it if the text shows where it ends.
An integer ends before the first character that belongs to no integer, and a series
of values ends with a closing text that no separator looks like.  So values can be
read back out of texts that join them.
-/

namespace Whitespace
namespace Text

variable {α β : Type}

/-- A text that starts with a written value, and goes on in an admitted way, determines the value
and the rest. -/
def Detaches (write : α -> List Char) (follows : List Char -> Prop) : Prop :=
  forall (first second : α) (rest other : List Char), follows rest -> follows other ->
    write first ++ rest = write second ++ other -> first = second ∧ rest = other

def StartsOutside (inside : Char -> Bool) (text : List Char) : Prop :=
  exists c rest, text = c :: rest ∧ inside c = false

def Apart (first second : List Char) : Prop :=
  forall rest other : List Char, first ++ rest ≠ second ++ other

theorem apart_of_head_ne {c d : Char} (hne : c ≠ d) (first second : List Char) :
    Apart (c :: first) (d :: second) := by
  intro rest other hsame
  exact hne (List.cons.inj hsame).left

theorem Apart.append_left {first second : List Char} (hapart : Apart first second)
    (more : List Char) : Apart (first ++ more) second := by
  intro rest other hsame
  rw [List.append_assoc] at hsame
  exact hapart _ _ hsame

theorem eq_of_last {c : Char} {front other rest more : List Char} (hrest : c ∉ rest)
    (hmore : c ∉ more) (hsame : front ++ c :: rest = other ++ c :: more) : rest = more := by
  -- A text that reaches further forward than the other would hold the character once more.
  have hreach : forall {between first second : List Char}, c ∉ first ->
      c :: first = between ++ c :: second -> first = second := by
    intro between first second hfirst hcons
    cases between with
    | nil => exact (List.cons.inj hcons).right
    | cons d between =>
        have htail := (List.cons.inj hcons).right
        rw [htail] at hfirst
        exact absurd (List.mem_append_right between List.mem_cons_self) hfirst
  rcases List.append_eq_append_iff.mp hsame with
    ⟨between, _hfront, hcons⟩ | ⟨between, _hfront, hcons⟩
  · exact hreach hrest hcons
  · exact (hreach hmore hcons).symm

/-!
# Values in a row
-/

section Combining

variable {write : α -> List Char} {follows : List Char -> Prop}

theorem Detaches.between (hwrite : Detaches write follows) (opening closing : List Char)
    (hclosing : forall rest, follows (closing ++ rest)) :
    Detaches (fun value => opening ++ write value ++ closing) fun _ => True := by
  intro first second rest other _hrest _hother hsame
  simp only [List.append_assoc] at hsame
  rcases hwrite first second _ _ (hclosing rest) (hclosing other)
    (List.append_cancel_left hsame) with ⟨hvalue, hbehind⟩
  exact ⟨hvalue, List.append_cancel_left hbehind⟩

theorem Detaches.pair {writeSecond : β -> List Char} {last : List Char -> Prop}
    (hwrite : Detaches write follows) (hsecond : Detaches writeSecond last) (middle : List Char)
    (hmiddle : forall rest, follows (middle ++ rest)) :
    Detaches (fun pair : α × β => write pair.1 ++ middle ++ writeSecond pair.2) last := by
  intro first second rest other hrest hother hsame
  simp only [List.append_assoc] at hsame
  rcases hwrite first.1 second.1 _ _ (hmiddle _) (hmiddle _) hsame with ⟨hvalue, hbehind⟩
  rcases hsecond first.2 second.2 rest other hrest hother (List.append_cancel_left hbehind) with
    ⟨hvalueSecond, hlast⟩
  exact ⟨Prod.ext hvalue hvalueSecond, hlast⟩

theorem detaches_of_class {inside : Char -> Bool} (hinjective : Function.Injective write)
    (hinside : forall value c, c ∈ write value -> inside c = true) :
    Detaches write (StartsOutside inside) := by
  have htaken : forall value rest, StartsOutside inside rest ->
      (write value ++ rest).takeWhile inside = write value := by
    intro value rest hrest
    rcases hrest with ⟨c, tail, htext, hc⟩
    rw [htext, List.takeWhile_append_of_pos (hinside value),
      List.takeWhile_cons_of_neg (by simp [hc]), List.append_nil]
  intro first second rest other hrest hother hsame
  have hwritten : write first = write second := by
    rw [← htaken first rest hrest, hsame, htaken second other hother]
  rw [hwritten] at hsame
  exact ⟨hinjective hwritten, List.append_cancel_left hsame⟩

end Combining

/-!
# Integers
-/

def decimal (value : Int) : List Char :=
  (toString value).toList

def isIntegral (c : Char) : Bool :=
  c.isDigit || c == '-'

theorem isIntegral_of_mem_decimal {value : Int} {c : Char} (hmem : c ∈ decimal value) :
    isIntegral c = true := by
  rw [isIntegral, Bool.or_eq_true, beq_iff_eq]
  exact Argument.isDigit_or_minus_of_mem_toString hmem

theorem not_mem_decimal {c : Char} (hc : isIntegral c = false) (value : Int) :
    c ∉ decimal value := by
  intro hmem
  rw [isIntegral_of_mem_decimal hmem] at hc
  cases hc

theorem detaches_decimal : Detaches decimal (StartsOutside isIntegral) := by
  apply detaches_of_class
  · intro first second hsame
    have hread : Argument.integer (toString first).toList =
        Argument.integer (toString second).toList := congrArg Argument.integer hsame
    rw [Argument.integer_toString, Argument.integer_toString] at hread
    exact Except.ok.inj hread
  · intro value c hmem
    exact isIntegral_of_mem_decimal hmem

theorem apart_decimal {c : Char} (hc : isIntegral c = false) (value : Int) (rest : List Char) :
    Apart (decimal value) (c :: rest) := by
  intro behind other hsame
  cases htext : decimal value with
  | nil => exact Argument.toString_ne_nil value htext
  | cons d digits =>
      rw [htext] at hsame
      apply not_mem_decimal hc value
      rw [htext, ← (List.cons.inj hsame).left]
      exact List.mem_cons_self

/-!
# Series of values
-/

structure Layout where
  empty : List Char
  lead : List Char
  separator : List Char
  closing : List Char

namespace Layout

variable {layout : Layout} {write : α -> List Char} {follows : List Char -> Prop}

def tail (layout : Layout) (write : α -> List Char) (items : List α) : List Char :=
  items.flatMap (fun item => layout.separator ++ write item) ++ layout.closing

def text (layout : Layout) (write : α -> List Char) : List α -> List Char
  | [] => layout.empty
  | item :: rest => layout.lead ++ write item ++ layout.tail write rest

theorem text_cons (item : α) (rest : List α) :
    layout.text write (item :: rest) = layout.lead ++ write item ++ layout.tail write rest := rfl

theorem tail_cons (item : α) (rest : List α) :
    layout.tail write (item :: rest) =
      layout.separator ++ (write item ++ layout.tail write rest) := by
  simp only [tail, List.flatMap_cons, List.append_assoc]

/-- The parts of a series cannot be mistaken for one another. -/
structure IsClear (layout : Layout) (write : α -> List Char) (follows : List Char -> Prop) :
    Prop where
  before_separator : forall rest, follows (layout.separator ++ rest)
  before_closing : forall rest, follows (layout.closing ++ rest)
  separator_closing : Apart layout.separator layout.closing
  item_empty : forall item, Apart (layout.lead ++ write item) layout.empty

theorem IsClear.follows_tail (hclear : layout.IsClear write follows) (items : List α)
    (rest : List Char) : follows (layout.tail write items ++ rest) := by
  cases items with
  | nil => exact hclear.before_closing rest
  | cons item items =>
      rw [tail_cons, List.append_assoc]
      exact hclear.before_separator _

theorem IsClear.detaches_item (hclear : layout.IsClear write follows)
    (hwrite : Detaches write follows) {first second : α} {items others : List α}
    {rest other : List Char}
    (hsame : write first ++ (layout.tail write items ++ rest) =
      write second ++ (layout.tail write others ++ other)) :
    first = second ∧ layout.tail write items ++ rest = layout.tail write others ++ other :=
  hwrite first second _ _ (hclear.follows_tail items rest) (hclear.follows_tail others other) hsame

theorem IsClear.detaches_tail (hclear : layout.IsClear write follows)
    (hwrite : Detaches write follows) : Detaches (layout.tail write) fun _ => True := by
  intro first second rest other _hrest _hother hsame
  induction first generalizing second with
  | nil =>
      cases second with
      | nil => exact ⟨rfl, List.append_cancel_left hsame⟩
      | cons item items =>
          rw [tail_cons, List.append_assoc] at hsame
          exact absurd hsame.symm (hclear.separator_closing _ _)
  | cons item items ih =>
      cases second with
      | nil =>
          rw [tail_cons, List.append_assoc] at hsame
          exact absurd hsame (hclear.separator_closing _ _)
      | cons itemSecond itemsSecond =>
          simp only [tail_cons, List.append_assoc] at hsame
          rcases hclear.detaches_item hwrite (List.append_cancel_left hsame) with ⟨hitem, htail⟩
          rcases ih itemsSecond htail with ⟨hitems, hbehind⟩
          exact ⟨by rw [hitem, hitems], hbehind⟩

theorem IsClear.detaches (hclear : layout.IsClear write follows)
    (hwrite : Detaches write follows) : Detaches (layout.text write) fun _ => True := by
  intro first second rest other hrest hother hsame
  cases first with
  | nil =>
      cases second with
      | nil => exact ⟨rfl, List.append_cancel_left hsame⟩
      | cons item items =>
          rw [text_cons, List.append_assoc] at hsame
          exact absurd hsame.symm (hclear.item_empty item _ _)
  | cons item items =>
      cases second with
      | nil =>
          rw [text_cons, List.append_assoc] at hsame
          exact absurd hsame (hclear.item_empty item _ _)
      | cons itemSecond itemsSecond =>
          simp only [text_cons, List.append_assoc] at hsame
          rcases hclear.detaches_item hwrite (List.append_cancel_left hsame) with ⟨hitem, htail⟩
          rcases hclear.detaches_tail hwrite items itemsSecond rest other hrest hother htail with
            ⟨hitems, hbehind⟩
          exact ⟨by rw [hitem, hitems], hbehind⟩

theorem not_mem_text {c : Char}
    (hparts : c ∉ layout.empty ++ layout.lead ++ layout.separator ++ layout.closing)
    (hwrite : forall item, c ∉ write item) (items : List α) : c ∉ layout.text write items := by
  simp only [List.mem_append, not_or] at hparts
  rcases hparts with ⟨⟨⟨hempty, hlead⟩, hseparator⟩, hclosing⟩
  cases items with
  | nil => exact hempty
  | cons item items => simp [text, tail, hlead, hseparator, hclosing, hwrite]

/-!
# Joined texts
-/

theorem intercalate_cons (separator first : List Char) (rest : List (List Char)) :
    separator.intercalate (first :: rest) = first ++ rest.flatMap (separator ++ ·) := by
  induction rest generalizing first with
  | nil => simp
  | cons second rest ih =>
      rw [List.intercalate_cons_cons, ih, List.flatMap_cons]
      simp only [List.append_assoc]

def inline (closing : List Char) : Layout where
  empty := closing
  lead := []
  separator := [',', ' ']
  closing := closing

theorem isClear_inline {closing : Char} (hclosing : isIntegral closing = false)
    (hcomma : ',' ≠ closing) (hitem : forall item, Apart (write item) [closing]) :
    (inline [closing]).IsClear write (StartsOutside isIntegral) where
  before_separator rest := ⟨',', ' ' :: rest, rfl, by decide⟩
  before_closing rest := ⟨closing, rest, rfl, hclosing⟩
  separator_closing := apart_of_head_ne hcomma _ _
  item_empty := hitem

theorem toList_intercalate_inline (spell : α -> String) (items : List α) (closing : List Char) :
    (String.intercalate ", " (items.map spell)).toList ++ closing =
      (inline closing).text (fun item => (spell item).toList) items := by
  have hcomma : ", ".toList = [',', ' '] := by decide
  rw [String.toList_intercalate, hcomma]
  cases items with
  | nil => rfl
  | cons item items =>
      simp only [List.map_cons, intercalate_cons, List.map_map, List.flatMap_map, text, tail,
        inline, List.nil_append, List.append_assoc, Function.comp_apply]

end Layout
end Text
end Whitespace
