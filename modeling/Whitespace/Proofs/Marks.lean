import Mathlib.Data.List.Dedup
import Whitespace.Proofs.Histories
import Whitespace.Proofs.Reading
import Whitespace.Proofs.Relocation

/-!
# Marks and the places they stand for

A label leads behind its last mark, from wherever it is used.  Every other mark of
it is replaced by the next one, and each replacement is reported once, so reports
and labels together are as many as marks.
-/

namespace Whitespace

/-!
# Labels of the table
-/

variable {table : LabelTable} {start : Nat} {instruction : Instruction}
  {instructions : List Instruction}

theorem mem_entered_iff {label : Nat} :
    label ∈ entered table start instruction ↔
      instruction.marked? = some label ∨ label ∈ table := by
  rw [Std.TreeMap.mem_iff_isSome_getElem?, Std.TreeMap.mem_iff_isSome_getElem?, getElem?_entered]
  split
  · next hmarked => simp only [hmarked, Option.isSome_some, true_or]
  · next hmarked => rw [or_iff_right hmarked]

def marksOf (instructions : List Instruction) : List Nat :=
  instructions.filterMap Instruction.marked?

theorem marksOf_cons (instruction : Instruction) (rest : List Instruction) :
    marksOf (instruction :: rest) = instruction.marked?.toList ++ marksOf rest := by
  unfold marksOf
  cases hmarked : instruction.marked? with
  | none => rw [List.filterMap_cons_none hmarked, Option.toList_none, List.nil_append]
  | some label => rw [List.filterMap_cons_some hmarked, Option.toList_some, List.singleton_append]

theorem mem_resolveFrom_iff {label : Nat} :
    label ∈ (resolveFrom table start instructions).1 ↔
      label ∈ marksOf instructions ∨ label ∈ table := by
  induction instructions generalizing table start with
  | nil => simp only [resolveFrom, marksOf, List.filterMap_nil, List.not_mem_nil, false_or]
  | cons instruction rest ih =>
      rw [resolveFrom_cons, ih, mem_entered_iff, marksOf_cons, List.mem_append, Option.mem_toList]
      constructor
      · intro hlabel
        rcases hlabel with hrest | hmarked | htable
        · exact Or.inl (Or.inr hrest)
        · exact Or.inl (Or.inl hmarked)
        · exact Or.inr htable
      · intro hlabel
        rcases hlabel with (hmarked | hrest) | htable
        · exact Or.inr (Or.inl hmarked)
        · exact Or.inl hrest
        · exact Or.inr (Or.inr htable)

/-!
# How many marks are reported

A mark either makes a new entry or replaces one and is reported.
-/

theorem length_replaced?_add_size (table : LabelTable) (index : Nat) (instruction : Instruction) :
    (replaced? table index instruction).toList.length +
        (entered table index instruction).size =
      instruction.marked?.toList.length + table.size := by
  unfold replaced? entered
  cases hmarked : instruction.marked? with
  | none => rfl
  | some label =>
      simp only [Option.bind_eq_bind, Option.bind_some, Std.TreeMap.size_insert]
      cases hentry : table[label]? with
      | none =>
          have hnew : table.contains label = false := by
            rw [Std.TreeMap.contains_eq_isSome_getElem?, hentry]
            rfl
          rw [hnew]
          exact (Nat.zero_add _).trans (Nat.add_comm _ _)
      | some previous =>
          have hold : table.contains label = true := by
            rw [Std.TreeMap.contains_eq_isSome_getElem?, hentry]
            rfl
          rw [hold]
          rfl

theorem length_warnings_add_size (table : LabelTable) (start : Nat)
    (instructions : List Instruction) :
    (resolveFrom table start instructions).2.length +
        (resolveFrom table start instructions).1.size =
      (marksOf instructions).length + table.size := by
  induction instructions generalizing table start with
  | nil => rfl
  | cons instruction rest ih =>
      have hone := length_replaced?_add_size table start instruction
      have hrest := ih (entered table start instruction) (start + 1)
      simp only [resolveFrom_cons, marksOf_cons, List.length_append]
      omega

theorem size_resolveFrom_empty (start : Nat) (instructions : List Instruction) :
    (resolveFrom Std.TreeMap.empty start instructions).1.size =
      (marksOf instructions).dedup.length := by
  have hkeys : (resolveFrom Std.TreeMap.empty start instructions).1.keys.Perm
      (marksOf instructions).dedup := by
    rw [List.perm_ext_iff_of_nodup Std.TreeMap.nodup_keys (List.nodup_dedup _)]
    intro label
    have hnone : ¬ label ∈ (Std.TreeMap.empty : LabelTable) := Std.TreeMap.not_mem_emptyc
    rw [Std.TreeMap.mem_keys, mem_resolveFrom_iff, List.mem_dedup, or_iff_left hnone]
  rw [← Std.TreeMap.length_keys, hkeys.length_eq]

/-!
# Which marks are reported

At a mark the table holds the last mark before it, so a report names two marks
with none of the same label between them.
-/

/-- Two marks of a label with no mark of it between them. -/
def AreConsecutiveMarks (instructions : List Instruction) (label previous index : Nat) : Prop :=
  previous < index ∧ markedAt instructions previous = some label ∧
    markedAt instructions index = some label ∧
      forall between, previous < between -> between < index ->
        markedAt instructions between ≠ some label

theorem replaced?_eq_some_iff {warning : Warning} :
    replaced? table start instruction = some warning ↔
      exists label previous, warning = .duplicateMark label previous start ∧
        instruction.marked? = some label ∧ table[label]? = some previous := by
  unfold replaced?
  simp only [Option.bind_eq_bind, Option.bind_eq_some_iff, Option.pure_def, Option.some.injEq]
  constructor
  · intro hwarning
    rcases hwarning with ⟨label, hmarked, previous, hentry, hsame⟩
    exact ⟨label, previous, hsame.symm, hmarked, hentry⟩
  · intro hwarning
    rcases hwarning with ⟨label, previous, hsame, hmarked, hentry⟩
    exact ⟨label, hmarked, previous, hentry, hsame.symm⟩

theorem mem_warnings_iff {warning : Warning} :
    warning ∈ (resolveFrom table start instructions).2 ↔
      exists label previous offset, warning = .duplicateMark label previous (start + offset) ∧
        markedAt instructions offset = some label ∧
          (resolveFrom table start (instructions.take offset)).1[label]? = some previous := by
  induction instructions generalizing table start with
  | nil =>
      constructor
      · intro hwarning
        cases hwarning
      · intro hwarning
        rcases hwarning with ⟨label, previous, offset, _hsame, hmarked, _hentry⟩
        cases hmarked
  | cons instruction rest ih =>
      rw [resolveFrom_cons, List.mem_append, Option.mem_toList, replaced?_eq_some_iff, ih]
      constructor
      · intro hwarning
        rcases hwarning with ⟨label, previous, hsame, hmarked, hentry⟩ |
          ⟨label, previous, offset, hsame, hmarked, hentry⟩
        · exact ⟨label, previous, 0, hsame, hmarked, hentry⟩
        · refine ⟨label, previous, offset + 1, ?_, hmarked, ?_⟩
          · rw [hsame, Nat.add_right_comm, Nat.add_assoc]
          · rw [List.take_succ_cons, resolveFrom_cons]
            exact hentry
      · intro hwarning
        rcases hwarning with ⟨label, previous, offset, hsame, hmarked, hentry⟩
        cases offset with
        | zero => exact Or.inl ⟨label, previous, hsame, hmarked, hentry⟩
        | succ offset =>
            refine Or.inr ⟨label, previous, offset, ?_, hmarked, ?_⟩
            · rw [hsame, Nat.add_right_comm, Nat.add_assoc]
            · rw [List.take_succ_cons, resolveFrom_cons] at hentry
              exact hentry

theorem nodup_warnings (table : LabelTable) (start : Nat) (instructions : List Instruction) :
    (resolveFrom table start instructions).2.Nodup := by
  induction instructions generalizing table start with
  | nil => exact List.nodup_nil
  | cons instruction rest ih =>
      rw [resolveFrom_cons, List.nodup_append]
      refine ⟨?_, ih _ _, ?_⟩
      · cases replaced? table start instruction with
        | none => exact List.nodup_nil
        | some warning => exact List.nodup_singleton warning
      · intro first hfirst second hsecond hsame
        rw [Option.mem_toList, replaced?_eq_some_iff] at hfirst
        rcases hfirst with ⟨label, previous, hhere, _hmarked, _hentry⟩
        rcases mem_warnings_iff.mp hsecond with ⟨other, earlier, offset, hthere, _hmark, _htable⟩
        rw [hhere, hthere, Warning.duplicateMark.injEq] at hsame
        omega

theorem markedAt_take (instructions : List Instruction) (count index : Nat) :
    markedAt (instructions.take count) index =
      if index < count then markedAt instructions index else none := by
  unfold markedAt
  rw [List.getElem?_take]
  split
  · rfl
  · rfl

theorem isLastMark_take_iff {label previous index : Nat} :
    IsLastMark (instructions.take index) label previous ↔
      previous < index ∧ markedAt instructions previous = some label ∧
        forall between, previous < between -> between < index ->
          markedAt instructions between ≠ some label := by
  constructor
  · intro hlast
    rcases hlast with ⟨hmarked, hlater⟩
    rw [markedAt_take] at hmarked
    split at hmarked
    · next hinside =>
        refine ⟨hinside, hmarked, ?_⟩
        intro between hprevious hindex
        have hunmarked := hlater between hprevious
        rw [markedAt_take, if_pos hindex] at hunmarked
        exact hunmarked
    · cases hmarked
  · intro hlast
    rcases hlast with ⟨hinside, hmarked, hbetween⟩
    refine ⟨?_, ?_⟩
    · rw [markedAt_take, if_pos hinside]
      exact hmarked
    · intro later hprevious hlater
      rw [markedAt_take] at hlater
      split at hlater
      · next hindex => exact hbetween later hprevious hindex hlater
      · cases hlater

theorem mem_warnings_empty_iff {warning : Warning} :
    warning ∈ (resolveFrom Std.TreeMap.empty 0 instructions).2 ↔
      exists label previous index, warning = .duplicateMark label previous index ∧
        AreConsecutiveMarks instructions label previous index := by
  have hentry : forall {label previous index : Nat},
      (resolveFrom Std.TreeMap.empty 0 (instructions.take index)).1[label]? = some previous ↔
        IsLastMark (instructions.take index) label previous := by
    intro label previous index
    have htable := @Program.labels_eq_some_iff (instructions.take index).toArray label previous
    exact htable
  rw [mem_warnings_iff]
  constructor
  · intro hwarning
    rcases hwarning with ⟨label, previous, index, hsame, hmarked, htable⟩
    rw [Nat.zero_add] at hsame
    rcases isLastMark_take_iff.mp (hentry.mp htable) with ⟨hinside, hprevious, hbetween⟩
    exact ⟨label, previous, index, hsame, hinside, hprevious, hmarked, hbetween⟩
  · intro hwarning
    rcases hwarning with ⟨label, previous, index, hsame, hinside, hprevious, hmarked, hbetween⟩
    refine ⟨label, previous, index, ?_, hmarked, ?_⟩
    · rw [Nat.zero_add]
      exact hsame
    · exact hentry.mpr (isLastMark_take_iff.mpr ⟨hinside, hprevious, hbetween⟩)

/-!
# Marks of a program
-/

namespace Program

def IsMarkedAt (program : Program) (label index : Nat) : Prop :=
  exists operand : Label, program[index]? = some (.label .mark operand) ∧ operand.value = label

def markedLabels (program : Program) : List Nat :=
  marksOf program.toList

variable {program : Program} {label : Nat}

theorem isMarkedAt_iff {index : Nat} :
    program.IsMarkedAt label index ↔ markedAt program.toList index = some label := by
  unfold IsMarkedAt markedAt
  rw [Array.getElem?_toList, Option.bind_eq_some_iff]
  constructor
  · intro hmarked
    rcases hmarked with ⟨operand, hat, hvalue⟩
    exact ⟨_, hat, congrArg some hvalue⟩
  · intro hmarked
    rcases hmarked with ⟨instruction, hat, hvalue⟩
    unfold Instruction.marked? at hvalue
    split at hvalue
    · exact ⟨_, hat, Option.some.inj hvalue⟩
    · cases hvalue

theorem labels_eq_some_iff_largest {index : Nat} :
    program.labels[label]? = some index ↔
      program.IsMarkedAt label index ∧
        forall other, program.IsMarkedAt label other -> other ≤ index := by
  rw [labels_eq_some_iff, IsLastMark, isMarkedAt_iff]
  constructor
  · intro hlast
    refine ⟨hlast.left, ?_⟩
    intro other hother
    apply Nat.le_of_not_lt
    intro hlater
    exact hlast.right other hlater (isMarkedAt_iff.mp hother)
  · intro hlargest
    refine ⟨hlargest.left, ?_⟩
    intro later hlater hmarked
    exact Nat.not_le_of_lt hlater (hlargest.right later (isMarkedAt_iff.mpr hmarked))

theorem mem_markedLabels_iff :
    label ∈ program.markedLabels ↔ exists index, program.IsMarkedAt label index := by
  unfold markedLabels marksOf
  rw [List.mem_filterMap]
  constructor
  · intro hmember
    rcases hmember with ⟨instruction, hinside, hmarked⟩
    rcases List.mem_iff_getElem?.mp hinside with ⟨index, hat⟩
    refine ⟨index, isMarkedAt_iff.mpr ?_⟩
    rw [markedAt, hat]
    exact hmarked
  · intro hmarked
    rcases hmarked with ⟨index, hmarked⟩
    rcases Option.bind_eq_some_iff.mp (isMarkedAt_iff.mp hmarked) with ⟨instruction, hat, hlabel⟩
    exact ⟨instruction, List.mem_of_getElem? hat, hlabel⟩

theorem labels_eq_none_iff :
    program.labels[label]? = none ↔ forall index, ¬ program.IsMarkedAt label index := by
  have hnone : ¬ label ∈ (Std.TreeMap.empty : LabelTable) := Std.TreeMap.not_mem_emptyc
  have hmember : label ∈ program.labels ↔ label ∈ program.markedLabels :=
    mem_resolveFrom_iff.trans (or_iff_left hnone)
  rw [Std.TreeMap.mem_iff_isSome_getElem?, mem_markedLabels_iff] at hmember
  rw [← not_exists, ← hmember, Option.not_isSome_iff_eq_none]

end Program

/-!
# Transfers of control
-/

/-- The operation sends control to its label when it finds the given stack: a test looks at the
top. -/
def LabelOp.Branches (stack : Stack) : LabelOp -> Prop
  | call | jump => True
  | jumpZero => exists value, stack.peek = .ok value ∧ value = 0
  | jumpNegative => exists value, stack.peek = .ok value ∧ value < 0
  | mark | foreign => False

theorem Stack.exists_items_of_peek {stack : Stack} {value : Int} (hpeek : stack.peek = .ok value) :
    exists rest, stack.items = value :: rest := by
  unfold peek at hpeek
  split at hpeek
  · cases hpeek
  · next top rest hitems =>
      cases hpeek
      exact ⟨rest, hitems⟩

namespace Instruction

theorem perform_of_branches {op : LabelOp} {memory : Memory} (host : Host) (operand : Label)
    (hbranches : op.Branches memory.stack) :
    exists (flow : Flow) (after : Memory),
      (label op operand).perform host memory = (.ok flow, after) ∧
        flow.label? = some operand.value := by
  cases op with
  | mark => cases hbranches
  | call => exact ⟨_, _, rfl, rfl⟩
  | jump => exact ⟨_, _, rfl, rfl⟩
  | jumpZero =>
      rcases hbranches with ⟨value, hpeek, hzero⟩
      rcases Stack.exists_items_of_peek hpeek with ⟨rest, hstack⟩
      refine ⟨.jump operand.value, { memory with stack := ⟨rest⟩ }, ?_, rfl⟩
      show (Action.pop >>= _) memory = _
      rw [Action.bind_eq_of_ok (Action.pop_of_cons hstack), if_pos hzero]
      rfl
  | jumpNegative =>
      rcases hbranches with ⟨value, hpeek, hnegative⟩
      rcases Stack.exists_items_of_peek hpeek with ⟨rest, hstack⟩
      refine ⟨.jump operand.value, { memory with stack := ⟨rest⟩ }, ?_, rfl⟩
      show (Action.pop >>= _) memory = _
      rw [Action.bind_eq_of_ok (Action.pop_of_cons hstack), if_pos hnegative]
      rfl
  | foreign => cases hbranches

end Instruction

namespace Machine

theorem follow_of_defined {machine : Machine} {flow : Flow} {label index : Nat}
    (hlabel : flow.label? = some label) (hdefined : machine.labels[label]? = some index) :
    exists followed, machine.follow flow = .ok followed ∧ followed.pc = index + 1 := by
  cases flow with
  | jump other =>
      cases hlabel
      simp only [follow, target, hdefined]
      exact ⟨_, rfl, rfl⟩
  | call other =>
      cases hlabel
      simp only [follow, target, hdefined]
      exact ⟨_, rfl, rfl⟩
  | next => cases hlabel
  | ret => cases hlabel
  | halt => cases hlabel
  | unbound other => cases hlabel

theorem follow_of_undefined {machine : Machine} {flow : Flow} {label : Nat}
    (hlabel : flow.label? = some label) (hundefined : machine.labels[label]? = none) :
    machine.follow flow = .error (.undefinedLabel label) := by
  cases flow with
  | jump other =>
      cases hlabel
      simp only [follow, target, hundefined]
      rfl
  | call other =>
      cases hlabel
      simp only [follow, target, hundefined]
      rfl
  | next => cases hlabel
  | ret => cases hlabel
  | halt => cases hlabel
  | unbound other => cases hlabel

theorem step_of_branches {machine : Machine} {op : LabelOp} {operand : Label}
    (hrunning : machine.status = .running)
    (hat : machine.program[machine.pc]? = some (.label op operand))
    (hbranches : op.Branches machine.memory.stack) :
    (forall index, machine.labels[operand.value]? = some index ->
      machine.step.1 = .ok (.label op operand) ∧ machine.step.2.pc = index + 1) ∧
    (machine.labels[operand.value]? = none ->
      machine.step.1 = .error (.undefinedLabel operand.value)) := by
  rcases Instruction.perform_of_branches machine.host operand hbranches with
    ⟨flow, after, hperform, hlabel⟩
  rw [step_of_running hrunning hat]
  constructor
  · intro index hdefined
    have hmoved : ({ machine with pc := machine.pc + 1, memory := after } : Machine).labels[
        operand.value]? = some index := hdefined
    rcases follow_of_defined hlabel hmoved with ⟨followed, hfollow, hpc⟩
    rw [execute_of_done hperform hfollow]
    exact ⟨rfl, hpc⟩
  · intro hundefined
    have hmoved : ({ machine with pc := machine.pc + 1, memory := after } : Machine).labels[
        operand.value]? = none := hundefined
    rw [execute_of_astray hperform (follow_of_undefined hlabel hmoved)]

/-!
# Label resolution
-/

theorem labels_lead_behind_last_marks (program : Program) :
    (forall label index, program.resolveLabels.1[label]? = some index ↔
      program.IsMarkedAt label index ∧
        forall other, program.IsMarkedAt label other -> other ≤ index) ∧
    program.resolveLabels.2.length =
      program.markedLabels.length - program.markedLabels.dedup.length ∧
    program.resolveLabels.2.Nodup ∧
    (forall warning, warning ∈ program.resolveLabels.2 ↔
      exists label previous index, warning = .duplicateMark label previous index ∧
        previous < index ∧ program.IsMarkedAt label previous ∧ program.IsMarkedAt label index ∧
          forall between, previous < between -> between < index ->
            ¬ program.IsMarkedAt label between) ∧
    (forall (input : Input) (output : Output) (operations : List Operation) (op : LabelOp)
      (operand : Label),
      let machine := (withConsole program input output).replay operations
      machine.status = .running -> program[machine.pc]? = some (.label op operand) ->
      op.Branches machine.memory.stack ->
        (forall index, program.resolveLabels.1[operand.value]? = some index ->
          machine.step.1 = .ok (.label op operand) ∧ machine.step.2.pc = index + 1) ∧
        (machine.step.1 = .error (.undefinedLabel operand.value) ↔
          forall index, ¬ program.IsMarkedAt operand.value index)) := by
  refine ⟨fun _label _index => Program.labels_eq_some_iff_largest, ?_, ?_, ?_, ?_⟩
  · have hcount := length_warnings_add_size Std.TreeMap.empty 0 program.toList
    rw [size_resolveFrom_empty] at hcount
    exact Nat.eq_sub_of_add_eq hcount
  · exact nodup_warnings _ _ _
  · intro warning
    simp only [Program.isMarkedAt_iff]
    exact mem_warnings_empty_iff
  · intro input output operations op operand machine hrunning hat hbranches
    have hcoherent : Coherent program machine :=
      (coherent_withConsole program input output).replay operations
    rw [← hcoherent.program_eq] at hat
    rcases step_of_branches hrunning hat hbranches with ⟨hdefined, hundefined⟩
    rw [hcoherent.labels_eq] at hdefined hundefined
    refine ⟨hdefined, ?_⟩
    constructor
    · intro hfails
      rw [← Program.labels_eq_none_iff]
      cases hentry : program.labels[operand.value]? with
      | none => rfl
      | some index =>
          rw [(hdefined index hentry).left] at hfails
          cases hfails
    · intro hnowhere
      exact hundefined (Program.labels_eq_none_iff.mpr hnowhere)

/-- A jump over a mark to a later one of the same label, which has a leading zero, and from there
to a label without a mark. -/
def twiceMarked : Program :=
  #[.label .jump ⟨[true]⟩, .label .mark ⟨[true]⟩, .plain .halt, .label .mark ⟨[false, true]⟩,
    .label .jump ⟨[true, true]⟩]

theorem labels_lead_behind_last_marks_padded :
    exists machine : Machine, machine = withConsole twiceMarked ⟨[]⟩ Output.empty ∧
      twiceMarked.IsMarkedAt 1 3 ∧ twiceMarked.resolveLabels.2 = [.duplicateMark 1 1 3] ∧
      machine.step.1 = .ok (.label .jump ⟨[true]⟩) ∧ machine.step.2.pc = 4 ∧
      machine.step.2.step.1 = .error (.undefinedLabel 3) := by
  have hresolution := labels_lead_behind_last_marks twiceMarked
  have hjumps := hresolution.right.right.right.right ⟨[]⟩ Output.empty
  have hfirst := (hjumps [] .jump ⟨[true]⟩ rfl rfl trivial).left 3 rfl
  have hsecond := (hjumps [.step] .jump ⟨[true, true]⟩ rfl rfl trivial).right
  have hnowhere : forall index, ¬ twiceMarked.IsMarkedAt 3 index :=
    Program.labels_eq_none_iff.mp rfl
  exact ⟨_, rfl, ((hresolution.left 1 3).mp rfl).left, rfl, hfirst.left, hfirst.right,
    hsecond.mpr hnowhere⟩

end Machine
end Whitespace
