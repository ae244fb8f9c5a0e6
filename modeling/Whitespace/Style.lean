import Std.Data.TreeMap
import Whitespace.Symbol
import Whitespace.Text.Quoted

/-!
# Styles

A style says which characters stand for which symbol.  Several characters may
stand for one symbol, and one of them is written for it.  All other characters are
filler: they are skipped when a text is read.

The character that is written for a symbol is read as that symbol, so a text that
a style writes is read back as the same word.
-/

namespace Whitespace

abbrev CharMap := Std.TreeMap Char Symbol

structure Style where
  name : String
  map : CharMap
  glyph : Symbol -> Char
  map_glyph : forall symbol, map[glyph symbol]? = some symbol

inductive StyleError where
  | unknown (name : String)
  | empty (symbol : Symbol)
  | overlap (char : Char)
  | malformed
  deriving DecidableEq, Repr

def StyleError.message : StyleError -> String
  | unknown name => s!"unknown style: {name}"
  | empty symbol => s!"no characters mapped to symbol {symbol.letter}"
  | overlap char => s!"character {Text.quoteChar char} mapped to more than one symbol"
  | malformed => "invalid style description"

namespace Style

/-!
# Built-in styles
-/

def origin : Style where
  name := "origin"
  map := .ofList [(' ', Symbol.space), ('\t', Symbol.tab), ('\n', Symbol.lineFeed)]
  glyph := Symbol.blank
  map_glyph := by
    intro symbol
    cases symbol <;> rfl

def stl : Style where
  name := "stl"
  map := .ofList [('S', Symbol.space), ('T', Symbol.tab), ('L', Symbol.lineFeed)]
  glyph := Symbol.letter
  map_glyph := by
    intro symbol
    cases symbol <;> rfl

def builtin (name : String) : Except StyleError Style :=
  match String.ofList (name.toList.map Char.toLower) with
  | "origin" | "ws" | "whitespace" => .ok origin
  | "stl" | "letters" => .ok stl
  | _ => .error (.unknown name)

/-!
# Described styles

A description has a field of characters for each symbol.  The fields are entered
into a map one after the other; a field must not be empty, and a character that
is entered must not stand for another symbol already.  The first character of a
field is the one that is written.
-/

structure Spec where
  name : String
  space : String
  tab : String
  lineFeed : String
  deriving DecidableEq, Repr

def Spec.fields (spec : Spec) : List (Symbol × List Char) :=
  [(.space, spec.space.toList), (.tab, spec.tab.toList), (.lineFeed, spec.lineFeed.toList)]

def enter (symbol : Symbol) : List Char -> CharMap -> Except StyleError CharMap
  | [], map => .ok map
  | c :: rest, map =>
      match map[c]? with
      | none => enter symbol rest (map.insert c symbol)
      | some previous =>
          if previous = symbol then enter symbol rest (map.insert c symbol)
          else .error (.overlap c)

structure Draft where
  map : CharMap
  glyph : Symbol -> Char

def Draft.blank : Draft := ⟨∅, fun _ => ' '⟩

def Draft.add (draft : Draft) (field : Symbol × List Char) : Except StyleError Draft :=
  match field.2 with
  | [] => .error (.empty field.1)
  | first :: _ =>
      match enter field.1 field.2 draft.map with
      | .error error => .error error
      | .ok map => .ok ⟨map, fun symbol => if symbol = field.1 then first else draft.glyph symbol⟩

def Draft.addAll : Draft -> List (Symbol × List Char) -> Except StyleError Draft
  | draft, [] => .ok draft
  | draft, field :: rest =>
      match draft.add field with
      | .error error => .error error
      | .ok next => next.addAll rest

theorem getElem?_of_enter {symbol : Symbol} {chars : List Char} {map filled : CharMap}
    (entered : enter symbol chars map = .ok filled) (c : Char) :
    filled[c]? = if c ∈ chars then some symbol else map[c]? := by
  induction chars generalizing map with
  | nil =>
      cases entered
      simp
  | cons d rest ih =>
      have rest_entered : enter symbol rest (map.insert d symbol) = .ok filled := by
        rw [enter] at entered
        split at entered
        · exact entered
        · split at entered
          · exact entered
          · cases entered
      rw [ih rest_entered, Std.TreeMap.getElem?_insert]
      by_cases member : c ∈ rest
      · simp [member]
      · by_cases same : d = c
        · simp [same]
        · simp [member, same, Ne.symm same]

theorem eq_of_enter {symbol previous : Symbol} {chars : List Char} {map filled : CharMap}
    (entered : enter symbol chars map = .ok filled) {c : Char} (member : c ∈ chars)
    (stands : map[c]? = some previous) : previous = symbol := by
  induction chars generalizing map with
  | nil => cases member
  | cons d rest ih =>
      rw [enter] at entered
      by_cases same : d = c
      · rw [same, stands] at entered
        by_cases agrees : previous = symbol
        · exact agrees
        · simp only [if_neg agrees] at entered
          cases entered
      · have later : c ∈ rest := List.mem_of_ne_of_mem (Ne.symm same) member
        have still : (map.insert d symbol)[c]? = some previous := by
          rw [Std.TreeMap.getElem?_insert, stands]
          simp [same]
        split at entered
        · exact ih entered later still
        · split at entered
          · exact ih entered later still
          · cases entered

theorem Draft.map_glyph_add {draft next : Draft} {field : Symbol × List Char}
    {known : Symbol -> Prop}
    (read : forall symbol, known symbol -> draft.map[draft.glyph symbol]? = some symbol)
    (added : draft.add field = .ok next) (symbol : Symbol)
    (member : symbol = field.1 ∨ known symbol) : next.map[next.glyph symbol]? = some symbol := by
  unfold Draft.add at added
  split at added
  · cases added
  · next first rest chars =>
      split at added
      · cases added
      · next map entered =>
          cases added
          by_cases same : symbol = field.1
          · have main : first ∈ field.2 := by simp [chars]
            rw [same]
            simp [getElem?_of_enter entered, main]
          · have before := read symbol (member.resolve_left same)
            have absent : draft.glyph symbol ∉ field.2 :=
              fun inside => same (eq_of_enter entered inside before)
            simp only [if_neg same, getElem?_of_enter entered, if_neg absent, before]

theorem Draft.map_glyph_addAll {draft last : Draft} {fields : List (Symbol × List Char)}
    {known : Symbol -> Prop}
    (read : forall symbol, known symbol -> draft.map[draft.glyph symbol]? = some symbol)
    (added : draft.addAll fields = .ok last) (symbol : Symbol)
    (member : symbol ∈ fields.map Prod.fst ∨ known symbol) :
    last.map[last.glyph symbol]? = some symbol := by
  induction fields generalizing draft known with
  | nil =>
      cases added
      exact read symbol (member.resolve_left List.not_mem_nil)
  | cons field rest ih =>
      rw [addAll] at added
      split at added
      · cases added
      · next next step =>
          refine ih (map_glyph_add read step) added ?_
          rw [List.map_cons, List.mem_cons] at member
          rcases member with (first | later) | before
          · exact Or.inr (Or.inl first)
          · exact Or.inl later
          · exact Or.inr (Or.inr before)

def ofSpec (spec : Spec) : Except StyleError Style :=
  match added : Draft.blank.addAll spec.fields with
  | .error error => .error error
  | .ok draft =>
      .ok {
        name := spec.name
        map := draft.map
        glyph := draft.glyph
        map_glyph := fun symbol =>
          @Draft.map_glyph_addAll _ _ _ (fun _ => False) (fun _ absurd => absurd.elim) added symbol
            (Or.inl (by cases symbol <;> simp [Spec.fields])) }

/-!
# Reading and writing
-/

def symbol? (style : Style) (c : Char) : Option Symbol :=
  style.map[c]?

def remap (style : Style) (text : String) : List Symbol :=
  text.toList.filterMap style.symbol?

def filler (style : Style) (text : String) : String :=
  String.ofList (text.toList.filter fun c => (style.symbol? c).isNone)

def render (style : Style) (word : List Symbol) : String :=
  String.ofList (word.map style.glyph)

@[simp] theorem symbol?_glyph (style : Style) (symbol : Symbol) :
    style.symbol? (style.glyph symbol) = some symbol :=
  style.map_glyph symbol

theorem remap_render (style : Style) (word : List Symbol) :
    style.remap (style.render word) = word := by
  simp only [remap, render, String.toList_ofList]
  induction word with
  | nil => rfl
  | cons symbol rest ih => simp [ih]

/-- Styles are the same when name, written and read characters are. -/
def same (left right : Style) : Bool :=
  left.name == right.name && left.map.toList == right.map.toList &&
    Symbol.all.all fun symbol => left.glyph symbol == right.glyph symbol

end Style
end Whitespace
