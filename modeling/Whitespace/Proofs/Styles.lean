import Whitespace.Style

/-!
# Described styles

A description gives a field of characters for each symbol.  It makes a style
exactly when every field has a character and no two fields share one; otherwise
the fields are looked at in order, and the first problem is reported.
-/

namespace Whitespace

namespace Style

/-!
# Fields and their problems
-/

def earlier : Symbol -> List Symbol
  | .space => []
  | .tab => [.space]
  | .lineFeed => [.space, .tab]

theorem eq_or_earlier (left right : Symbol) :
    left = right ∨ left ∈ earlier right ∨ right ∈ earlier left := by
  cases left <;> cases right <;> decide

namespace Spec

def chars (spec : Spec) : Symbol -> List Char
  | .space => spec.space.toList
  | .tab => spec.tab.toList
  | .lineFeed => spec.lineFeed.toList

structure Sound (spec : Spec) : Prop where
  nonempty : forall symbol, spec.chars symbol ≠ []
  apart : forall (left right : Symbol) (c : Char),
    c ∈ spec.chars left -> c ∈ spec.chars right -> left = right

def Taken (spec : Spec) (symbol : Symbol) (c : Char) : Prop :=
  exists other, other ∈ earlier symbol ∧ c ∈ spec.chars other

/-- What is wrong with the field of a symbol, given the fields before it: it is empty, or the
character is its first that an earlier field has taken. -/
inductive Problem (spec : Spec) (symbol : Symbol) : StyleError -> Prop where
  | empty (hempty : spec.chars symbol = []) : Problem spec symbol (.empty symbol)
  | overlap {front rest : List Char} {c : Char}
      (hchars : spec.chars symbol = front ++ c :: rest)
      (hfront : forall d, d ∈ front -> ¬ spec.Taken symbol d)
      (htaken : spec.Taken symbol c) : Problem spec symbol (.overlap c)

/-- The error is the problem of a field, and no field before that has one. -/
def FirstProblem (spec : Spec) (error : StyleError) : Prop :=
  exists symbol, spec.Problem symbol error ∧
    forall other, other ∈ earlier symbol -> forall problem, ¬ spec.Problem other problem

structure Clear (spec : Spec) (symbol : Symbol) : Prop where
  nonempty : spec.chars symbol ≠ []
  free : forall c, c ∈ spec.chars symbol -> ¬ spec.Taken symbol c

theorem Clear.not_problem {spec : Spec} {symbol : Symbol} (hclear : spec.Clear symbol)
    (error : StyleError) : ¬ spec.Problem symbol error := by
  intro hproblem
  cases hproblem with
  | empty hempty => exact hclear.nonempty hempty
  | @overlap front rest c hchars hfront htaken =>
      exact hclear.free c (by rw [hchars]; simp) htaken

theorem firstProblem_of_clear {spec : Spec} {symbol : Symbol} {error : StyleError}
    (hproblem : spec.Problem symbol error)
    (hbefore : forall other, other ∈ earlier symbol -> spec.Clear other) :
    spec.FirstProblem error :=
  ⟨symbol, hproblem, fun other hearlier => (hbefore other hearlier).not_problem⟩

theorem sound_iff {spec : Spec} : spec.Sound ↔ forall symbol, spec.Clear symbol := by
  constructor
  · intro hsound symbol
    refine ⟨hsound.nonempty symbol, ?_⟩
    rintro c hmem ⟨other, hearlier, hother⟩
    rw [hsound.apart other symbol c hother hmem] at hearlier
    revert hearlier
    cases symbol <;> decide
  · intro hclear
    refine ⟨fun symbol => (hclear symbol).nonempty, ?_⟩
    intro left right c hleft hright
    rcases eq_or_earlier left right with hsame | hbefore | hbehind
    · exact hsame
    · exact absurd ⟨left, hbefore, hleft⟩ ((hclear right).free c hright)
    · exact absurd ⟨right, hbehind, hright⟩ ((hclear left).free c hleft)

/-!
# One first problem
-/

theorem eq_of_first {P : Char -> Prop} {front otherFront rest otherRest : List Char}
    {c other : Char} (hchars : front ++ c :: rest = otherFront ++ other :: otherRest)
    (hfront : forall d, d ∈ front -> ¬ P d) (hc : P c)
    (hotherFront : forall d, d ∈ otherFront -> ¬ P d) (hother : P other) : c = other := by
  induction front generalizing otherFront with
  | nil =>
      cases otherFront with
      | nil =>
          injection hchars
      | cons d otherFront =>
          injection hchars with hsame _
          rw [hsame] at hc
          exact absurd hc (hotherFront d List.mem_cons_self)
  | cons d front ih =>
      cases otherFront with
      | nil =>
          injection hchars with hsame _
          rw [← hsame] at hother
          exact absurd hother (hfront d List.mem_cons_self)
      | cons e otherFront =>
          injection hchars with _ hrest
          exact ih hrest (fun f hmem => hfront f (List.mem_cons_of_mem d hmem))
            (fun f hmem => hotherFront f (List.mem_cons_of_mem e hmem))

theorem Problem.unique {spec : Spec} {symbol : Symbol} {error other : StyleError}
    (herror : spec.Problem symbol error) (hother : spec.Problem symbol other) :
    error = other := by
  cases herror with
  | empty hempty =>
      cases hother with
      | empty _ => rfl
      | overlap hchars hfront htaken =>
          rw [hempty] at hchars
          exact absurd hchars.symm (by simp)
  | overlap hchars hfront htaken =>
      cases hother with
      | empty hempty =>
          rw [hempty] at hchars
          exact absurd hchars.symm (by simp)
      | overlap hotherChars hotherFront hotherTaken =>
          rw [eq_of_first (hchars.symm.trans hotherChars) hfront htaken hotherFront hotherTaken]

theorem FirstProblem.unique {spec : Spec} {error other : StyleError}
    (herror : spec.FirstProblem error) (hother : spec.FirstProblem other) : error = other := by
  rcases herror with ⟨symbol, hproblem, hfirst⟩
  rcases hother with ⟨otherSymbol, hotherProblem, hotherFirst⟩
  rcases eq_or_earlier symbol otherSymbol with hsame | hbefore | hbehind
  · rw [hsame] at hproblem
    exact hproblem.unique hotherProblem
  · exact absurd hproblem (hotherFirst symbol hbefore error)
  · exact absurd hotherProblem (hfirst otherSymbol hbehind other)

theorem Sound.not_firstProblem {spec : Spec} (hsound : spec.Sound) (error : StyleError) :
    ¬ spec.FirstProblem error := by
  rintro ⟨symbol, hproblem, _⟩
  exact (sound_iff.mp hsound symbol).not_problem error hproblem

end Spec

/-!
# Entering a field

Entering a character changes no character's clash with an earlier symbol, so the
first clash that is met is the first that the field has with the map it found.
-/

def Clashes (map : CharMap) (symbol : Symbol) (c : Char) : Prop :=
  exists previous, map[c]? = some previous ∧ previous ≠ symbol

section Entering

variable {map : CharMap} {symbol : Symbol}

theorem enter_of_clashes {c : Char} (hclashes : Clashes map symbol c) (rest : List Char) :
    enter symbol (c :: rest) map = .error (.overlap c) := by
  rcases hclashes with ⟨previous, hstands, hother⟩
  simp only [enter, hstands, if_neg hother]

theorem enter_of_not_clashes {c : Char} (hfree : ¬ Clashes map symbol c) (rest : List Char) :
    enter symbol (c :: rest) map = enter symbol rest (map.insert c symbol) := by
  rw [enter]
  split
  · rfl
  · next previous hstands =>
      by_cases hsame : previous = symbol
      · rw [if_pos hsame]
      · exact absurd ⟨previous, hstands, hsame⟩ hfree

theorem clashes_insert {c : Char} (hfree : ¬ Clashes map symbol c) (d : Char) :
    Clashes (map.insert c symbol) symbol d ↔ Clashes map symbol d := by
  unfold Clashes
  rw [Std.TreeMap.getElem?_insert]
  by_cases hsame : c = d
  · rw [hsame, if_pos (by simp)]
    constructor
    · rintro ⟨previous, hstands, hother⟩
      exact absurd (Option.some.inj hstands).symm hother
    · intro hclashes
      rw [hsame] at hfree
      exact absurd hclashes hfree
  · rw [if_neg (by simpa using hsame)]

inductive Entered (map : CharMap) (symbol : Symbol) (chars : List Char) :
    Except StyleError CharMap -> Prop where
  | refused {front rest : List Char} {c : Char} (hchars : chars = front ++ c :: rest)
      (hfront : forall d, d ∈ front -> ¬ Clashes map symbol d) (hclashes : Clashes map symbol c) :
      Entered map symbol chars (.error (.overlap c))
  | filled {filled : CharMap} (hfree : forall c, c ∈ chars -> ¬ Clashes map symbol c) :
      Entered map symbol chars (.ok filled)

theorem entered (map : CharMap) (symbol : Symbol) (chars : List Char) :
    Entered map symbol chars (enter symbol chars map) := by
  induction chars generalizing map with
  | nil => exact .filled fun c hmem => absurd hmem List.not_mem_nil
  | cons c rest ih =>
      by_cases hclashes : Clashes map symbol c
      · rw [enter_of_clashes hclashes]
        exact @Entered.refused _ _ _ [] rest c rfl
          (fun d hmem => absurd hmem List.not_mem_nil) hclashes
      · have hrest := ih (map.insert c symbol)
        rw [enter_of_not_clashes hclashes]
        generalize enter symbol rest (map.insert c symbol) = result at hrest
        cases hrest with
        | @refused front behind d hchars hfront hd =>
            simp only [clashes_insert hclashes] at hfront hd
            refine @Entered.refused _ _ _ (c :: front) behind d (by rw [hchars]; rfl) ?_ hd
            exact List.forall_mem_cons.mpr ⟨hclashes, hfront⟩
        | filled hfree =>
            simp only [clashes_insert hclashes] at hfree
            exact .filled (List.forall_mem_cons.mpr ⟨hclashes, hfree⟩)

end Entering

/-!
# Making a style

The fields are entered in order.  Before each of them the map holds the fields
that came before, which have no problem; so the first field that is refused has
the first problem.
-/

/-- The draft has the fields of the symbols, and they have no problem. -/
structure Draft.Holds (draft : Draft) (spec : Spec) (entered : List Symbol) : Prop where
  map : forall (c : Char) (symbol : Symbol),
    draft.map[c]? = some symbol ↔ symbol ∈ entered ∧ c ∈ spec.chars symbol
  clear : forall symbol, symbol ∈ entered -> spec.Clear symbol

theorem Draft.holds_blank (spec : Spec) : Draft.blank.Holds spec (earlier .space) := by
  constructor
  · intro c symbol
    simp [Draft.blank, earlier]
  · intro symbol hmem
    cases hmem

theorem not_mem_earlier (symbol : Symbol) : symbol ∉ earlier symbol := by
  cases symbol <;> decide

section Fields

variable {spec : Spec} {symbol : Symbol} {draft : Draft}
  (hholds : draft.Holds spec (earlier symbol))
include hholds

theorem clashes_iff_taken {c : Char} : Clashes draft.map symbol c ↔ spec.Taken symbol c := by
  constructor
  · rintro ⟨previous, hstands, _hother⟩
    exact ⟨previous, (hholds.map c previous).mp hstands⟩
  · rintro ⟨previous, hearlier, hmem⟩
    refine ⟨previous, (hholds.map c previous).mpr ⟨hearlier, hmem⟩, ?_⟩
    intro hsame
    rw [hsame] at hearlier
    exact not_mem_earlier symbol hearlier

theorem clear_of_free (hsome : spec.chars symbol ≠ [])
    (hfree : forall c, c ∈ spec.chars symbol -> ¬ Clashes draft.map symbol c) :
    forall other, other ∈ earlier symbol ++ [symbol] -> spec.Clear other := by
  intro other hmem
  rw [List.mem_append, List.mem_singleton] at hmem
  rcases hmem with hearlier | hsame
  · exact hholds.clear other hearlier
  · rw [hsame]
    exact ⟨hsome, fun c hinside htaken =>
      hfree c hinside ((clashes_iff_taken hholds).mpr htaken)⟩

theorem getElem?_filled_iff {filled : CharMap}
    (henter : enter symbol (spec.chars symbol) draft.map = .ok filled)
    (hfree : forall c, c ∈ spec.chars symbol -> ¬ Clashes draft.map symbol c)
    (c : Char) (other : Symbol) :
    filled[c]? = some other ↔ other ∈ earlier symbol ++ [symbol] ∧ c ∈ spec.chars other := by
  rw [getElem?_of_enter henter c, List.mem_append, List.mem_singleton]
  by_cases hmem : c ∈ spec.chars symbol
  · rw [if_pos hmem, Option.some.injEq]
    constructor
    · intro hsame
      exact ⟨Or.inr hsame.symm, by rw [← hsame]; exact hmem⟩
    · rintro ⟨hearlier | hsame, hinside⟩
      · have htaken : spec.Taken symbol c := ⟨other, hearlier, hinside⟩
        exact absurd ((clashes_iff_taken hholds).mpr htaken) (hfree c hmem)
      · exact hsame.symm
  · rw [if_neg hmem, hholds.map]
    constructor
    · rintro ⟨hearlier, hinside⟩
      exact ⟨Or.inl hearlier, hinside⟩
    · rintro ⟨hearlier | hsame, hinside⟩
      · exact ⟨hearlier, hinside⟩
      · rw [hsame] at hinside
        exact absurd hinside hmem

theorem add_field :
    (exists error, draft.add (symbol, spec.chars symbol) = .error error ∧
      spec.Problem symbol error) ∨
    exists next, draft.add (symbol, spec.chars symbol) = .ok next ∧
      next.Holds spec (earlier symbol ++ [symbol]) := by
  have hentered := entered draft.map symbol (spec.chars symbol)
  have hfilled := fun filled => @getElem?_filled_iff _ _ _ hholds filled
  have hclear := clear_of_free hholds
  cases hchars : spec.chars symbol with
  | nil => exact Or.inl ⟨_, rfl, .empty hchars⟩
  | cons first rest =>
      rw [hchars] at hentered hfilled hclear
      rw [Draft.add]
      cases henter : enter symbol (first :: rest) draft.map with
      | error error =>
          rw [henter] at hentered
          refine Or.inl ⟨error, rfl, ?_⟩
          cases hentered with
          | refused hcut hfront hclashes =>
              simp only [clashes_iff_taken hholds] at hfront hclashes
              exact .overlap (hchars.trans hcut) hfront hclashes
      | ok filled =>
          rw [henter] at hentered
          cases hentered with
          | filled hfree =>
              exact Or.inr ⟨_, rfl, hfilled filled henter hfree,
                hclear (List.cons_ne_nil first rest) hfree⟩

end Fields

inductive Completed (spec : Spec) : Except StyleError Draft -> Prop where
  | refused {error : StyleError} (hfirst : spec.FirstProblem error) :
      Completed spec (.error error)
  | drafted {draft : Draft} (hholds : draft.Holds spec Symbol.all) : Completed spec (.ok draft)

theorem completed_cons {spec : Spec} {symbol : Symbol} {draft : Draft}
    {rest : List (Symbol × List Char)} (hholds : draft.Holds spec (earlier symbol))
    (hrest : forall next : Draft, next.Holds spec (earlier symbol ++ [symbol]) ->
      Completed spec (next.addAll rest)) :
    Completed spec (draft.addAll ((symbol, spec.chars symbol) :: rest)) := by
  rw [Draft.addAll]
  rcases add_field hholds with ⟨error, hadd, hproblem⟩ | ⟨next, hadd, hnext⟩
  · simp only [hadd]
    exact .refused (Spec.firstProblem_of_clear hproblem hholds.clear)
  · simp only [hadd]
    exact hrest next hnext

theorem completed_fields (spec : Spec) : Completed spec (Draft.blank.addAll spec.fields) :=
  completed_cons (Draft.holds_blank spec) fun _ hspace =>
    @completed_cons spec .tab _ _ hspace fun _ htab =>
      @completed_cons spec .lineFeed _ _ htab fun _ hlineFeed => .drafted hlineFeed

inductive Made (spec : Spec) : Except StyleError Style -> Prop where
  | refused {error : StyleError} (hfirst : spec.FirstProblem error) : Made spec (.error error)
  | style {style : Style} (hsound : spec.Sound)
      (hreads : forall (c : Char) (symbol : Symbol),
        style.symbol? c = some symbol ↔ c ∈ spec.chars symbol) :
      Made spec (.ok style)

theorem made_ofSpec (spec : Spec) : Made spec (ofSpec spec) := by
  have hcompleted := completed_fields spec
  have hall : forall symbol : Symbol, symbol ∈ Symbol.all := by
    intro symbol
    cases symbol <;> decide
  unfold ofSpec
  split
  · next error hadded =>
      rw [hadded] at hcompleted
      cases hcompleted with
      | refused hfirst => exact .refused hfirst
  · next draft hadded =>
      rw [hadded] at hcompleted
      cases hcompleted with
      | drafted hholds =>
          refine .style (Spec.sound_iff.mpr fun symbol => hholds.clear symbol (hall symbol)) ?_
          intro c symbol
          exact (hholds.map c symbol).trans (and_iff_right (hall symbol))

theorem exists_ofSpec_iff {spec : Spec} :
    (exists style, ofSpec spec = .ok style) ↔ spec.Sound := by
  constructor
  · rintro ⟨style, hstyle⟩
    have hmade := made_ofSpec spec
    rw [hstyle] at hmade
    cases hmade with
    | style hsound hreads => exact hsound
  · intro hsound
    have hmade := made_ofSpec spec
    cases hstyle : ofSpec spec with
    | ok style => exact ⟨style, rfl⟩
    | error error =>
        rw [hstyle] at hmade
        cases hmade with
        | refused hfirst => exact absurd hfirst (hsound.not_firstProblem error)

theorem ofSpec_eq_error_iff {spec : Spec} {error : StyleError} :
    ofSpec spec = .error error ↔ spec.FirstProblem error := by
  have hmade := made_ofSpec spec
  cases hstyle : ofSpec spec with
  | error other =>
      rw [hstyle] at hmade
      cases hmade with
      | refused hfirst =>
          constructor
          · intro hsame
            cases hsame
            exact hfirst
          · intro herror
            rw [hfirst.unique herror]
  | ok style =>
      rw [hstyle] at hmade
      cases hmade with
      | style hsound hreads =>
          constructor
          · intro hsame
            cases hsame
          · intro herror
            exact absurd herror (hsound.not_firstProblem error)

/-!
# Reading and writing in a style
-/

theorem symbol?_eq_some_iff {spec : Spec} {style : Style} (hstyle : ofSpec spec = .ok style)
    {c : Char} {symbol : Symbol} : style.symbol? c = some symbol ↔ c ∈ spec.chars symbol := by
  have hmade := made_ofSpec spec
  rw [hstyle] at hmade
  cases hmade with
  | style hsound hreads => exact hreads c symbol

theorem symbol?_eq_none_iff {spec : Spec} {style : Style} (hstyle : ofSpec spec = .ok style)
    {c : Char} : style.symbol? c = none ↔ forall symbol, c ∉ spec.chars symbol := by
  constructor
  · intro hnone symbol hmem
    rw [(symbol?_eq_some_iff hstyle).mpr hmem] at hnone
    cases hnone
  · intro habsent
    cases hsymbol : style.symbol? c with
    | none => rfl
    | some symbol => exact absurd ((symbol?_eq_some_iff hstyle).mp hsymbol) (habsent symbol)

theorem length_remap_add_length_filler (style : Style) (text : String) :
    (style.remap text).length + (style.filler text).length = text.length := by
  rw [remap, filler, String.length_ofList, ← String.length_toList]
  induction text.toList with
  | nil => rfl
  | cons c rest ih =>
      cases hsymbol : style.symbol? c with
      | none =>
          rw [List.filterMap_cons_none hsymbol, List.filter_cons_of_pos (by simp [hsymbol]),
            List.length_cons, List.length_cons, ← ih, Nat.add_assoc]
      | some symbol =>
          rw [List.filterMap_cons_some hsymbol, List.filter_cons_of_neg (by simp [hsymbol]),
            List.length_cons, List.length_cons, ← ih, Nat.add_right_comm]

/-!
# Styles of descriptions
-/

theorem styles_of_descriptions (spec : Spec) :
    ((exists style, ofSpec spec = .ok style) ↔ spec.Sound) ∧
    (forall style : Style, ofSpec spec = .ok style ->
      (forall (c : Char) (symbol : Symbol),
        style.symbol? c = some symbol ↔ c ∈ spec.chars symbol) ∧
      (forall c : Char, style.symbol? c = none ↔ forall symbol, c ∉ spec.chars symbol) ∧
      (forall word : List Symbol, style.remap (style.render word) = word) ∧
      (forall text : String,
        style.remap (style.render (style.remap text)) = style.remap text ∧
          (style.remap text).length + (style.filler text).length = text.length)) ∧
    (forall error : StyleError, ofSpec spec = .error error ↔ spec.FirstProblem error) := by
  refine ⟨exists_ofSpec_iff, ?_, fun error => ofSpec_eq_error_iff⟩
  intro style hstyle
  refine ⟨fun c symbol => symbol?_eq_some_iff hstyle, fun c => symbol?_eq_none_iff hstyle,
    remap_render style, ?_⟩
  · intro text
    exact ⟨remap_render style (style.remap text), length_remap_add_length_filler style text⟩

/-- A character that stands in two fields is found before the empty field behind them, and twice
the same character in one field is no problem. -/
theorem styles_of_descriptions_overlap :
    Spec.FirstProblem ⟨"pair", "aa", "cab", ""⟩ (.overlap 'a') ∧
      exists style, ofSpec ⟨"dots", "..", "-_-", "|"⟩ = .ok style ∧
        style.symbol? '_' = some .tab ∧ style.symbol? '+' = none := by
  have hoverlap : ofSpec ⟨"pair", "aa", "cab", ""⟩ = .error (.overlap 'a') := rfl
  refine ⟨((styles_of_descriptions _).right.right _).mp hoverlap, _, rfl, ?_, ?_⟩
  · exact (((styles_of_descriptions ⟨"dots", "..", "-_-", "|"⟩).right.left _ rfl).left _ _).mpr
      (by decide)
  · refine (((styles_of_descriptions ⟨"dots", "..", "-_-", "|"⟩).right.left _ rfl).right.left
      _).mpr ?_
    intro symbol
    cases symbol <;> decide

end Style
end Whitespace
