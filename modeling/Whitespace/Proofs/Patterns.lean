import Mathlib.Data.List.Basic
import Whitespace.Text.Pattern

/-!
# The texts of patterns

A pattern has a language: the texts that it describes.  Matching finds all ways
to cut a text into a front of that language and a rest, and no others.
-/

namespace Whitespace
namespace Text
namespace Pattern

def Matches : Pattern -> List Char -> Prop
  | empty, text => text = []
  | one accepts, text => exists c, text = [c] ∧ accepts c = true
  | sequence first second, text =>
      exists front rest, text = front ++ rest ∧ first.Matches front ∧ second.Matches rest
  | choice first second, text => first.Matches text ∨ second.Matches text
  | many inner, text =>
      exists turns : List (List Char), text = turns.flatten ∧
        forall turn, turn ∈ turns -> inner.Matches turn

/-!
# Matching
-/

/-- A function from texts to rests finds the cuts whose front has a property. -/
def Finds (property : List Char -> Prop) (rests : List Char -> List (List Char)) : Prop :=
  forall text rest, rest ∈ rests text ↔ exists front, text = front ++ rest ∧ property front

theorem matches_many_nil (inner : Pattern) : (many inner).Matches [] :=
  ⟨[], rfl, fun _turn hmem => absurd hmem List.not_mem_nil⟩

theorem matches_many_append {inner : Pattern} {turn rest : List Char} (hturn : inner.Matches turn)
    (hrest : (many inner).Matches rest) : (many inner).Matches (turn ++ rest) := by
  rcases hrest with ⟨turns, hturns, hall⟩
  exact ⟨turn :: turns, by rw [hturns, List.flatten_cons], List.forall_mem_cons.mpr ⟨hturn, hall⟩⟩

theorem finds_one (accepts : Char -> Bool) :
    Finds (one accepts).Matches (one accepts).rests := by
  intro text rest
  constructor
  · intro hmem
    cases text with
    | nil => cases hmem
    | cons c text =>
        rw [rests] at hmem
        by_cases haccepts : accepts c = true
        · rw [if_pos haccepts, List.mem_singleton] at hmem
          exact ⟨[c], by rw [hmem]; rfl, c, rfl, haccepts⟩
        · rw [if_neg haccepts] at hmem
          cases hmem
  · rintro ⟨front, htext, c, hfront, haccepts⟩
    rw [htext, hfront, List.singleton_append, rests, if_pos haccepts]
    exact List.mem_singleton_self rest

theorem finds_sequence {first second : Pattern} (hfirst : Finds first.Matches first.rests)
    (hsecond : Finds second.Matches second.rests) :
    Finds (sequence first second).Matches (sequence first second).rests := by
  intro text rest
  rw [rests, List.mem_flatMap]
  constructor
  · rintro ⟨middle, hmiddle, hrest⟩
    rcases (hfirst text middle).mp hmiddle with ⟨front, htext, hfront⟩
    rcases (hsecond middle rest).mp hrest with ⟨back, hback, hmatches⟩
    refine ⟨front ++ back, ?_, front, back, rfl, hfront, hmatches⟩
    rw [htext, hback, List.append_assoc]
  · rintro ⟨whole, htext, front, back, hwhole, hfront, hback⟩
    refine ⟨back ++ rest, ?_, ?_⟩
    · exact (hfirst text _).mpr ⟨front, by rw [htext, hwhole, List.append_assoc], hfront⟩
    · exact (hsecond _ rest).mpr ⟨back, rfl, hback⟩

section Repetitions

variable {inner : Pattern} (hinner : Finds inner.Matches inner.rests)

include hinner

theorem exists_of_mem_rounds {count : Nat} {text rest : List Char}
    (hmem : rest ∈ rounds inner.rests count text) :
    exists front, text = front ++ rest ∧ (many inner).Matches front := by
  induction count generalizing text with
  | zero =>
      rw [rounds, List.mem_singleton] at hmem
      rw [hmem]
      exact ⟨[], rfl, matches_many_nil inner⟩
  | succ count ih =>
      rw [rounds, List.mem_append, List.mem_flatMap, List.mem_singleton] at hmem
      rcases hmem with ⟨middle, hmiddle, hmem⟩ | hmem
      · rcases (hinner text middle).mp hmiddle with ⟨turn, htext, hturn⟩
        rcases ih hmem with ⟨front, hfront, hmatches⟩
        refine ⟨turn ++ front, ?_, matches_many_append hturn hmatches⟩
        rw [htext, hfront, List.append_assoc]
      · rw [hmem]
        exact ⟨[], rfl, matches_many_nil inner⟩

/-- A round that takes no character need not be made. -/
theorem mem_rounds_of_turns {turns : List (List Char)}
    (hall : forall turn, turn ∈ turns -> inner.Matches turn) {count : Nat} (rest : List Char)
    (hcount : turns.flatten.length ≤ count) :
    rest ∈ rounds inner.rests count (turns.flatten ++ rest) := by
  induction turns generalizing count with
  | nil =>
      cases count with
      | zero => exact List.mem_singleton_self rest
      | succ count => exact List.mem_append_right _ (List.mem_singleton_self rest)
  | cons turn turns ih =>
      rcases List.forall_mem_cons.mp hall with ⟨hturn, hturns⟩
      rw [List.flatten_cons, List.length_append] at hcount
      rw [List.flatten_cons, List.append_assoc]
      cases turn with
      | nil => exact ih hturns (by simpa using hcount)
      | cons c turn =>
          rw [List.length_cons] at hcount
          cases count with
          | zero => omega
          | succ count =>
              rw [rounds, List.mem_append, List.mem_flatMap]
              refine Or.inl ⟨turns.flatten ++ rest, ?_, ih hturns (by omega)⟩
              exact (hinner _ _).mpr ⟨c :: turn, rfl, hturn⟩

theorem finds_many : Finds (many inner).Matches (many inner).rests := by
  intro text rest
  constructor
  · exact exists_of_mem_rounds hinner
  · rintro ⟨front, htext, turns, hfront, hall⟩
    rw [htext, hfront]
    exact mem_rounds_of_turns hinner hall rest (by rw [List.length_append]; omega)

end Repetitions

theorem finds_matches (pattern : Pattern) : Finds pattern.Matches pattern.rests := by
  induction pattern with
  | empty =>
      intro text rest
      rw [rests, List.mem_singleton]
      constructor
      · intro hrest
        exact ⟨[], by rw [hrest]; rfl, rfl⟩
      · rintro ⟨front, htext, hfront⟩
        rw [htext, hfront]
        rfl
  | one accepts => exact finds_one accepts
  | sequence first second hfirst hsecond => exact finds_sequence hfirst hsecond
  | choice first second hfirst hsecond =>
      intro text rest
      rw [rests, List.mem_append, hfirst text rest, hsecond text rest, ← exists_or]
      simp only [← and_or_left]
      rfl
  | many inner hinner => exact finds_many hinner

theorem isMatch_iff {pattern : Pattern} {text : List Char} :
    pattern.isMatch text = true ↔ pattern.Matches text := by
  rw [isMatch, List.any_eq_true]
  constructor
  · rintro ⟨rest, hmem, hrest⟩
    rcases (finds_matches pattern text rest).mp hmem with ⟨front, htext, hfront⟩
    rw [List.isEmpty_iff.mp hrest, List.append_nil] at htext
    rw [htext]
    exact hfront
  · intro hmatches
    exact ⟨[], (finds_matches pattern text []).mpr ⟨text, (List.append_nil text).symm, hmatches⟩,
      rfl⟩

/-!
# Captures
-/

section Captures

variable {before group behind : Pattern} {text inner : List Char}

theorem exists_of_capture? (hcapture : capture? before group behind text = some inner) :
    exists front back, text = front ++ (inner ++ back) ∧ before.Matches front ∧
      group.Matches inner ∧ behind.Matches back := by
  rcases List.exists_of_findSome?_eq_some hcapture with ⟨inside, hinside, hfound⟩
  rcases Option.map_eq_some_iff.mp hfound with ⟨back, hback, hinner⟩
  rcases (finds_matches before text inside).mp hinside with ⟨front, htext, hfront⟩
  rcases (finds_matches group inside back).mp (List.mem_of_find?_eq_some hback) with
    ⟨taken, htaken, hgroup⟩
  have hsame : taken = inner := by
    rw [← hinner, htaken, List.length_append, Nat.add_sub_cancel_right, List.take_left]
  rw [hsame] at htaken hgroup
  refine ⟨front, back, ?_, hfront, hgroup, isMatch_iff.mp (List.find?_some hback)⟩
  rw [htext, htaken]

theorem isSome_capture? {front back : List Char} (htext : text = front ++ (inner ++ back))
    (hfront : before.Matches front) (hinner : group.Matches inner) (hback : behind.Matches back) :
    (capture? before group behind text).isSome = true := by
  rw [capture?, List.findSome?_isSome_iff]
  refine ⟨inner ++ back, (finds_matches before text _).mpr ⟨front, htext, hfront⟩, ?_⟩
  rw [Option.isSome_map, List.find?_isSome]
  exact ⟨back, (finds_matches group _ back).mpr ⟨inner, rfl, hinner⟩, isMatch_iff.mpr hback⟩

end Captures

/-!
# Simple patterns
-/

variable {accepts : Char -> Bool} {text : List Char}

theorem matches_literal {c : Char} : (literal c).Matches text ↔ text = [c] := by
  constructor
  · rintro ⟨found, htext, hfound⟩
    rw [htext, eq_of_beq hfound]
  · intro htext
    exact ⟨c, htext, beq_self_eq_true c⟩

theorem matches_many_one :
    (many (one accepts)).Matches text ↔ forall c, c ∈ text -> accepts c = true := by
  constructor
  · rintro ⟨turns, htext, hall⟩ c hmem
    rw [htext, List.mem_flatten] at hmem
    rcases hmem with ⟨turn, hturn, hinside⟩
    rcases hall turn hturn with ⟨d, hsingle, haccepts⟩
    rw [hsingle, List.mem_singleton] at hinside
    rw [hinside]
    exact haccepts
  · intro hall
    refine ⟨text.map fun c => [c], ?_, ?_⟩
    · rw [← List.flatMap_def, List.flatMap_singleton']
    · intro turn hturn
      rcases List.mem_map.mp hturn with ⟨c, hmem, hsingle⟩
      exact ⟨c, hsingle.symm, hall c hmem⟩

theorem matches_repeated_one :
    (repeated (one accepts)).Matches text ↔
      text ≠ [] ∧ forall c, c ∈ text -> accepts c = true := by
  constructor
  · rintro ⟨front, rest, htext, ⟨c, hfront, haccepts⟩, hrest⟩
    rw [htext, hfront]
    exact ⟨List.cons_ne_nil _ _,
      List.forall_mem_cons.mpr ⟨haccepts, matches_many_one.mp hrest⟩⟩
  · rintro ⟨hnonempty, hall⟩
    cases text with
    | nil => exact absurd rfl hnonempty
    | cons c rest =>
        rcases List.forall_mem_cons.mp hall with ⟨haccepts, hrest⟩
        exact ⟨[c], rest, rfl, ⟨c, rfl, haccepts⟩, matches_many_one.mpr hrest⟩

end Pattern
end Text
end Whitespace
