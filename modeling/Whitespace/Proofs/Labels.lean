import Whitespace.Machine.Labels

/-!
# Label tables

The table of a program holds a label exactly when some instruction marks it, and
the entry is the index of the last one that does.
-/

namespace Whitespace

/-!
# Instruction by instruction
-/

def entered (table : LabelTable) (index : Nat) (instruction : Instruction) : LabelTable :=
  match instruction.marked? with
  | none => table
  | some label => table.insert label index

def replaced? (table : LabelTable) (index : Nat) (instruction : Instruction) : Option Warning := do
  let label <- instruction.marked?
  let previous <- table[label]?
  return .duplicateMark label previous index

theorem resolveFrom_cons (table : LabelTable) (start : Nat) (instruction : Instruction)
    (rest : List Instruction) :
    resolveFrom table start (instruction :: rest) =
      ((resolveFrom (entered table start instruction) (start + 1) rest).1,
        (replaced? table start instruction).toList ++
          (resolveFrom (entered table start instruction) (start + 1) rest).2) := by
  cases hmarked : instruction.marked? with
  | none => simp only [resolveFrom, entered, replaced?, hmarked, Option.bind_eq_bind,
      Option.bind_none, Option.toList_none, List.nil_append]
  | some label =>
      cases hentry : table[label]? with
      | none => simp only [resolveFrom, entered, replaced?, hmarked, hentry, Option.bind_eq_bind,
          Option.bind_some, Option.bind_none, Option.toList_none, List.nil_append]
      | some previous =>
          simp only [resolveFrom, entered, replaced?, hmarked, hentry, Option.bind_eq_bind,
            Option.bind_some]
          rfl

theorem getElem?_entered (table : LabelTable) (index : Nat) (instruction : Instruction)
    (label : Nat) :
    (entered table index instruction)[label]? =
      if instruction.marked? = some label then some index else table[label]? := by
  unfold entered
  cases hmarked : instruction.marked? with
  | none => rfl
  | some marked =>
      simp only [Std.TreeMap.getElem?_insert, Std.LawfulEqCmp.compare_eq_iff_eq,
        Option.some.injEq]

/-!
# Last marks
-/

def markedAt (instructions : List Instruction) (index : Nat) : Option Nat :=
  instructions[index]?.bind Instruction.marked?

def IsLastMark (instructions : List Instruction) (label index : Nat) : Prop :=
  markedAt instructions index = some label ∧
    forall later, index < later -> markedAt instructions later ≠ some label

theorem isLastMark_cons_zero {instruction : Instruction} {rest : List Instruction} {label : Nat} :
    IsLastMark (instruction :: rest) label 0 ↔
      instruction.marked? = some label ∧ forall index, markedAt rest index ≠ some label := by
  constructor
  · rintro ⟨hmarked, hlater⟩
    exact ⟨hmarked, fun index => hlater (index + 1) (Nat.succ_pos index)⟩
  · rintro ⟨hmarked, hrest⟩
    refine ⟨hmarked, ?_⟩
    intro later hlater
    cases later with
    | zero => exact absurd hlater (Nat.lt_irrefl 0)
    | succ index => exact hrest index

theorem isLastMark_cons_succ {instruction : Instruction} {rest : List Instruction}
    {label index : Nat} :
    IsLastMark (instruction :: rest) label (index + 1) ↔ IsLastMark rest label index := by
  constructor
  · rintro ⟨hmarked, hlater⟩
    exact ⟨hmarked, fun later hless => hlater (later + 1) (Nat.succ_lt_succ hless)⟩
  · rintro ⟨hmarked, hlater⟩
    refine ⟨hmarked, ?_⟩
    intro later hless
    cases later with
    | zero => exact absurd hless (Nat.not_lt_zero _)
    | succ later => exact hlater later (Nat.lt_of_succ_lt_succ hless)

/-- Entries of a resolved table come from the last marks behind the start; where there is no
mark of a label, its old entry stays. -/
theorem getElem?_resolveFrom_eq_some_iff {table : LabelTable} {start label index : Nat}
    {instructions : List Instruction} :
    (resolveFrom table start instructions).1[label]? = some index ↔
      (exists offset, index = start + offset ∧ IsLastMark instructions label offset) ∨
        (forall offset, markedAt instructions offset ≠ some label) ∧
          table[label]? = some index := by
  induction instructions generalizing table start with
  | nil =>
      constructor
      · intro hentry
        refine Or.inr ⟨?_, hentry⟩
        intro offset hmarked
        cases hmarked
      · rintro (⟨offset, _hindex, hmarked, _hlater⟩ | ⟨_hunmarked, hentry⟩)
        · cases hmarked
        · exact hentry
  | cons instruction rest ih =>
      rw [resolveFrom_cons, ih, getElem?_entered]
      by_cases hmarked : instruction.marked? = some label
      · rw [if_pos hmarked]
        constructor
        · rintro (⟨offset, hindex, hlast⟩ | ⟨hrest, hstart⟩)
          · exact Or.inl ⟨offset + 1, by omega, isLastMark_cons_succ.mpr hlast⟩
          · cases hstart
            exact Or.inl ⟨0, rfl, isLastMark_cons_zero.mpr ⟨hmarked, hrest⟩⟩
        · rintro (⟨offset, hindex, hlast⟩ | ⟨hunmarked, _hentry⟩)
          · cases offset with
            | zero =>
                rw [hindex]
                exact Or.inr ⟨(isLastMark_cons_zero.mp hlast).right, rfl⟩
            | succ offset =>
                exact Or.inl ⟨offset, by omega, isLastMark_cons_succ.mp hlast⟩
          · exact absurd hmarked (hunmarked 0)
      · rw [if_neg hmarked]
        constructor
        · rintro (⟨offset, hindex, hlast⟩ | ⟨hrest, hentry⟩)
          · exact Or.inl ⟨offset + 1, by omega, isLastMark_cons_succ.mpr hlast⟩
          · refine Or.inr ⟨?_, hentry⟩
            intro offset
            cases offset with
            | zero => exact hmarked
            | succ offset => exact hrest offset
        · rintro (⟨offset, hindex, hlast⟩ | ⟨hunmarked, hentry⟩)
          · cases offset with
            | zero => exact absurd (isLastMark_cons_zero.mp hlast).left hmarked
            | succ offset =>
                exact Or.inl ⟨offset, by omega, isLastMark_cons_succ.mp hlast⟩
          · exact Or.inr ⟨fun offset => hunmarked (offset + 1), hentry⟩

namespace Program

theorem labels_eq_some_iff {program : Program} {label index : Nat} :
    program.labels[label]? = some index ↔ IsLastMark program.toList label index := by
  unfold labels resolveLabels
  rw [getElem?_resolveFrom_eq_some_iff]
  constructor
  · rintro (⟨offset, hindex, hlast⟩ | ⟨_hunmarked, hentry⟩)
    · rw [hindex, Nat.zero_add]
      exact hlast
    · cases hentry
  · intro hlast
    exact Or.inl ⟨index, (Nat.zero_add index).symm, hlast⟩

theorem lt_size_of_labels {program : Program} {label index : Nat}
    (hentry : program.labels[label]? = some index) : index < program.size := by
  have hmarked := (labels_eq_some_iff.mp hentry).left
  rcases Option.bind_eq_some_iff.mp hmarked with ⟨instruction, hat, _hlabel⟩
  rw [Array.getElem?_toList] at hat
  exact (Array.getElem?_eq_some_iff.mp hat).1

end Program
end Whitespace
