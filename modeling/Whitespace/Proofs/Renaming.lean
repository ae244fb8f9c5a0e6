import Whitespace.Proofs.Histories
import Whitespace.Proofs.Relocation

/-!
# Names of labels

A label is only looked for.  If all the labels of a program are renamed, and no
two of them get the same name, then the changed program does what the old one
did, step by step.  Labels of host functions are looked for elsewhere and keep
their names.
-/

namespace Whitespace

/-!
# Renamed instructions
-/

namespace Instruction

/-- The instruction with another name for its label, unless it calls the host. -/
def rename (name : Nat -> Nat) : Instruction -> Instruction
  | .label .foreign operand => .label .foreign operand
  | .label op operand => .label op (Label.ofNat (name operand.value))
  | instruction => instruction

theorem marked?_rename (name : Nat -> Nat) (instruction : Instruction) :
    (instruction.rename name).marked? = instruction.marked?.map name := by
  cases instruction with
  | plain op => rfl
  | number op operand => rfl
  | label op operand =>
      cases op with
      | mark => exact congrArg some (Label.value_ofNat (name operand.value))
      | call => rfl
      | jump => rfl
      | jumpZero => rfl
      | jumpNegative => rfl
      | foreign => rfl

theorem map_rename_perform (name : Nat -> Nat) (host : Host) {instruction : Instruction}
    (memory : Memory)
    (hstays : forall op operand, instruction = .label op operand -> op.transfers = false) :
    (instruction.perform host memory).1.map (Flow.rename name) =
      (instruction.perform host memory).1 := by
  cases hperform : instruction.perform host memory with
  | mk result after =>
      cases result with
      | error error => rfl
      | ok flow =>
          have hfits := fits_of_perform host instruction _ _ _ hperform
          have hnone : flow.label? = none := by
            cases hlabel : flow.label? with
            | none => rfl
            | some label =>
                rcases Flow.transfer_of_label? hfits hlabel with
                  ⟨op, operand, hinstruction, htransfers, _hvalue⟩
                rw [hstays op operand hinstruction] at htransfers
                cases htransfers
          exact congrArg Except.ok (Flow.rename_of_label?_eq_none name hnone)

theorem branch_rename (name : Nat -> Nat) (condition : Int -> Prop) [DecidablePred condition]
    (target : Nat) (memory : Memory) :
    (Action.pop >>= fun value =>
        pure (if condition value then Flow.jump (name target) else Flow.next)) memory =
      (((Action.pop >>= fun value =>
          pure (if condition value then Flow.jump target else Flow.next)) memory).1.map
          (Flow.rename name),
        ((Action.pop >>= fun value =>
          pure (if condition value then Flow.jump target else Flow.next)) memory).2) := by
  cases hpop : Action.pop memory with
  | mk result after =>
      cases result with
      | error error =>
          rw [Action.bind_eq_of_error hpop, Action.bind_eq_of_error hpop]
          rfl
      | ok value =>
          rw [Action.bind_eq_of_ok hpop, Action.bind_eq_of_ok hpop]
          split
          · rfl
          · rfl

theorem performLabel_rename (name : Nat -> Nat) (host : Host) {op : LabelOp}
    (htransfers : op.transfers = true) (target : Nat) (memory : Memory) :
    performLabel host op (name target) memory =
      ((performLabel host op target memory).1.map (Flow.rename name),
        (performLabel host op target memory).2) := by
  cases op with
  | mark => cases htransfers
  | call => rfl
  | jump => rfl
  | jumpZero => exact branch_rename name (· = 0) target memory
  | jumpNegative => exact branch_rename name (· < 0) target memory
  | foreign => cases htransfers

theorem rename_transfer (name : Nat -> Nat) {op : LabelOp} (htransfers : op.transfers = true)
    (operand : Label) :
    rename name (.label op operand) = .label op (Label.ofNat (name operand.value)) := by
  cases op with
  | mark => rfl
  | call => rfl
  | jump => rfl
  | jumpZero => rfl
  | jumpNegative => rfl
  | foreign => cases htransfers

theorem perform_rename (name : Nat -> Nat) (host : Host) (instruction : Instruction)
    (memory : Memory) :
    (instruction.rename name).perform host memory =
      ((instruction.perform host memory).1.map (Flow.rename name),
        (instruction.perform host memory).2) := by
  cases instruction with
  | plain op =>
      rw [map_rename_perform name host memory fun _ _ hplain => by cases hplain]
      rfl
  | number op operand =>
      rw [map_rename_perform name host memory fun _ _ hnumber => by cases hnumber]
      rfl
  | label op operand =>
      cases htransfers : op.transfers with
      | true =>
          rw [rename_transfer name htransfers, perform, perform, Label.value_ofNat]
          exact performLabel_rename name host htransfers operand.value memory
      | false =>
          have hstays : forall other value, Instruction.label op operand = .label other value ->
              other.transfers = false := by
            intro other value hlabel
            cases hlabel
            exact htransfers
          rw [map_rename_perform name host memory hstays]
          cases op with
          | mark => rfl
          | call => cases htransfers
          | jump => cases htransfers
          | jumpZero => cases htransfers
          | jumpNegative => cases htransfers
          | foreign => rfl

theorem error_of_pop_bind {next : Int -> Flow} {memory after : Memory} {error : MachineError}
    (hbind : (Action.pop >>= fun value => pure (next value)) memory = (.error error, after)) :
    error = .stackUnderflow 1 0 := by
  rcases memory with ⟨⟨items⟩, heap, line, input, output⟩
  cases items with
  | nil =>
      cases hbind
      rfl
  | cons value items =>
      have hpop : Action.pop ⟨⟨value :: items⟩, heap, line, input, output⟩ =
          (.ok value, ⟨⟨items⟩, heap, line, input, output⟩) := rfl
      rw [Action.bind_eq_of_ok hpop] at hbind
      cases hbind

theorem refused_of_transfer {host : Host} {op : LabelOp} {operand : Label} {memory after : Memory}
    {error : MachineError} (htransfers : op.transfers = true)
    (hperform : (Instruction.label op operand).perform host memory = (.error error, after)) :
    error = .stackUnderflow 1 0 := by
  cases op with
  | mark => cases htransfers
  | call => cases hperform
  | jump => cases hperform
  | jumpZero => exact error_of_pop_bind hperform
  | jumpNegative => exact error_of_pop_bind hperform
  | foreign => cases htransfers

end Instruction

namespace Program

def rename (name : Nat -> Nat) (program : Program) : Program :=
  program.map (Instruction.rename name)

theorem size_rename (name : Nat -> Nat) (program : Program) :
    (program.rename name).size = program.size :=
  Array.size_map

theorem markedAt_map_rename (name : Nat -> Nat) (instructions : List Instruction) (index : Nat) :
    markedAt (instructions.map (Instruction.rename name)) index =
      (markedAt instructions index).map name := by
  unfold markedAt
  rw [List.getElem?_map]
  cases instructions[index]? with
  | none => rfl
  | some instruction => exact Instruction.marked?_rename name instruction

theorem labels_rename {name : Nat -> Nat} (hinjective : Function.Injective name)
    (program : Program) (label : Nat) :
    (program.rename name).labels[name label]? = program.labels[label]? := by
  have hmarked : forall index,
      markedAt (program.rename name).toList index = some (name label) ↔
        markedAt program.toList index = some label := by
    intro index
    rw [rename, Array.toList_map, markedAt_map_rename, Option.map_eq_some_iff]
    constructor
    · rintro ⟨other, hother, hname⟩
      rw [hother, hinjective hname]
    · intro hlabel
      exact ⟨label, hlabel, rfl⟩
  apply Option.ext
  intro index
  rw [labels_eq_some_iff, labels_eq_some_iff]
  unfold IsLastMark
  simp only [ne_eq, hmarked]

end Program

/-!
# Machines side by side
-/

namespace Machine

/-- An error of the next step, as the machine with renamed labels reports it.  The label is
renamed if a transfer has found no mark, and stays if the host has refused it. -/
def renameError (name : Nat -> Nat) (machine : Machine) (error : MachineError) : MachineError :=
  match machine.program[machine.pc]?, error with
  | some (.label op _), .undefinedLabel label =>
      if op.transfers then .undefinedLabel (name label) else .undefinedLabel label
  | _, error => error

theorem renameError_of_refused (name : Nat -> Nat) {machine : Machine} {instruction : Instruction}
    {error : MachineError} {memory : Memory}
    (hat : machine.program[machine.pc]? = some instruction)
    (hperform : instruction.perform machine.host machine.memory = (.error error, memory)) :
    machine.renameError name error = error := by
  unfold renameError
  rw [hat]
  split
  · next op operand label hlabel =>
      cases hlabel
      split
      · next htransfers => cases Instruction.refused_of_transfer htransfers hperform
      · rfl
  · rfl

theorem renameError_of_astray (name : Nat -> Nat) {machine : Machine} {op : LabelOp}
    {operand : Label} (hat : machine.program[machine.pc]? = some (.label op operand))
    (htransfers : op.transfers = true) (label : Nat) :
    machine.renameError name (.undefinedLabel label) = .undefinedLabel (name label) := by
  unfold renameError
  rw [hat]
  exact if_pos htransfers

theorem renameError_notRunning (name : Nat -> Nat) (machine : Machine) (status : Status) :
    machine.renameError name (.notRunning status) = .notRunning status := by
  unfold renameError
  split
  · next hother => cases hother
  · rfl

structure Renamed (name : Nat -> Nat) (left right : Machine) : Prop
    extends Beside ⟨id, name⟩ left right where
  program : right.program = left.program.rename name
  labels : forall label, right.labels[name label]? = left.labels[label]?
  steps : right.steps = left.steps

theorem Renamed.complete {name : Nat -> Nat} {left right : Machine}
    (hrenamed : Renamed name left right) (instruction other : Instruction) :
    Renamed name (left.complete instruction) (right.complete other) := by
  have hsize : right.program.size = left.program.size := by
    rw [hrenamed.program, Program.size_rename]
  refine { hrenamed with status := ?_, steps := congrArg Nat.succ hrenamed.steps }
  have hpc : right.pc = left.pc := hrenamed.pc
  simp only [Machine.complete, hrenamed.status, hpc, hsize]

theorem Renamed.getElem? {name : Nat -> Nat} {left right : Machine}
    (hrenamed : Renamed name left right) :
    right.program[right.pc]? = left.program[left.pc]?.map (Instruction.rename name) := by
  have hpc : right.pc = left.pc := hrenamed.pc
  rw [hpc, hrenamed.program]
  exact Array.getElem?_map

theorem Renamed.execute {name : Nat -> Nat} {left right : Machine} {instruction : Instruction}
    (hrenamed : Renamed name left right)
    (hat : left.program[left.pc]? = some instruction) :
    (right.execute (instruction.rename name)).1 =
        ((left.execute instruction).1.map (Instruction.rename name)).mapError
          (left.renameError name) ∧
      Renamed name (left.execute instruction).2
        (right.execute (instruction.rename name)).2 := by
  have hperform := Instruction.perform_rename name left.host instruction left.memory
  have hbeside : Beside ⟨id, name⟩ { left with pc := left.pc + 1 }
      { right with pc := right.pc + 1 } :=
    { hrenamed with pc := congrArg Nat.succ hrenamed.pc }
  have hexecutes := execute_beside hbeside hperform fun op operand _hlabel _htransfers =>
    congrArg (Option.map (· + 1)) (hrenamed.labels operand.value)
  generalize left.execute instruction = first at hexecutes
  generalize right.execute (instruction.rename name) = second at hexecutes
  cases hexecutes with
  | refused error memory hrefused =>
      -- A label that the host refuses has kept its name, and so has the error.
      refine ⟨?_, { hbeside, hrenamed with memory := rfl, status := rfl }⟩
      exact congrArg Except.error (renameError_of_refused name hat hrefused).symm
  | astray op operand memory hlabel htransfers =>
      rw [hlabel] at hat
      refine ⟨?_, { hbeside, hrenamed with memory := rfl, status := rfl }⟩
      exact congrArg Except.error (renameError_of_astray name hat htransfers _).symm
  | done first second hafter hleft hright =>
      refine ⟨rfl, Renamed.complete ?_ instruction (instruction.rename name)⟩
      refine { hafter with program := ?_, labels := ?_, steps := ?_ }
      · rw [hright.program, hleft.program, hrenamed.program]
      · intro label
        rw [hright.labels, hleft.labels, hrenamed.labels]
      · rw [hright.steps, hleft.steps, hrenamed.steps]

theorem Renamed.step {name : Nat -> Nat} {left right : Machine}
    (hrenamed : Renamed name left right) :
    right.step.1 =
        (left.step.1.map (Instruction.rename name)).mapError (left.renameError name) ∧
      Renamed name left.step.2 right.step.2 := by
  by_cases hrunning : left.status = .running
  · have hrunning' : right.status = .running := hrenamed.status.trans hrunning
    have hright := hrenamed.getElem?
    cases hat : left.program[left.pc]? with
    | none =>
        rw [hat] at hright
        rw [step_of_end hrunning hat, step_of_end hrunning' hright]
        refine ⟨?_, { hrenamed with status := rfl }⟩
        exact congrArg Except.error (renameError_notRunning name left .finished).symm
    | some instruction =>
        rw [hat] at hright
        rw [step_of_running hrunning hat, step_of_running hrunning' hright]
        exact hrenamed.execute hat
  · have hstopped : right.status ≠ .running := fun hother =>
      hrunning (hrenamed.status.symm.trans hother)
    rw [step_of_not_running hrunning, step_of_not_running hstopped, hrenamed.status]
    refine ⟨?_, hrenamed⟩
    exact congrArg Except.error (renameError_notRunning name left left.status).symm

theorem Renamed.after {name : Nat -> Nat} {left right : Machine}
    (hrenamed : Renamed name left right) (count : Nat) :
    Renamed name (left.after count) (right.after count) := by
  induction count with
  | zero => exact hrenamed
  | succ count ih => exact ih.step.right

theorem renamed_setup {name : Nat -> Nat} (hinjective : Function.Injective name)
    (program : Program) (setup : Setup) :
    Renamed name (setup.machine program) (setup.machine (program.rename name)) where
  host := rfl
  memory := rfl
  status := by
    have hstatus : initialStatus (program.rename name) = initialStatus program := by
      rw [initialStatus_eq, initialStatus_eq, Program.size_rename]
    exact hstatus
  calls := rfl
  pc := rfl
  program := rfl
  labels := Program.labels_rename hinjective program
  steps := rfl

/-- Two machines show the same, and their next steps answer the same but for names of labels. -/
structure KeepsPace (name : Nat -> Nat) (left right : Machine) : Prop where
  pc : right.pc = left.pc
  stack : right.memory.stack = left.memory.stack
  heap : right.memory.heap = left.memory.heap
  calls : right.calls = left.calls
  status : right.status = left.status
  steps : right.steps = left.steps
  output : right.memory.output = left.memory.output
  answer : right.step.1 =
    (left.step.1.map (Instruction.rename name)).mapError (left.renameError name)

theorem renaming_keeps_pace {name : Nat -> Nat} (hinjective : Function.Injective name)
    (program : Program) (setup : Setup) (count : Nat) :
    KeepsPace name ((setup.machine program).after count)
      ((setup.machine (program.rename name)).after count) := by
  have hrenamed := (renamed_setup hinjective program setup).after count
  have hmemory := hrenamed.memory
  exact
    { pc := hrenamed.pc
      stack := congrArg Memory.stack hmemory
      heap := congrArg Memory.heap hmemory
      calls := hrenamed.calls.trans (List.map_id _)
      status := hrenamed.status
      steps := hrenamed.steps
      output := congrArg Memory.output hmemory
      answer := hrenamed.step.left }

/-- A jump to the second of two marks, behind which a call finds no mark. -/
def twoMarks : Program :=
  #[.label .jump ⟨[true]⟩, .label .mark ⟨[true]⟩, .label .foreign ⟨[true, false, true]⟩,
    .label .mark ⟨[true]⟩, .label .call ⟨[true, false, true]⟩]

theorem renaming_keeps_pace_twoMarks :
    exists setup : Setup,
      KeepsPace (· + 7) ((setup.machine twoMarks).after 1)
          ((setup.machine (twoMarks.rename (· + 7))).after 1) ∧
        ((setup.machine (twoMarks.rename (· + 7))).after 1).pc = 4 ∧
        ((setup.machine twoMarks).after 1).step.1 = .error (.undefinedLabel 5) ∧
        ((setup.machine (twoMarks.rename (· + 7))).after 1).step.1 =
          .error (.undefinedLabel 12) := by
  have hinjective : Function.Injective fun label : Nat => label + 7 :=
    fun _first _second hequal => Nat.add_right_cancel hequal
  have hpace := renaming_keeps_pace hinjective twoMarks
    ⟨Input.ofString "", Output.empty, ⟨Registry.empty, true⟩, [], []⟩ 1
  refine ⟨_, hpace, ?_, ?_, ?_⟩
  · rw [hpace.pc]
    decide
  · decide
  · rw [hpace.answer]
    decide

end Machine
end Whitespace
