import Whitespace.Machine.Snapshot
import Whitespace.Proofs.Histories
import Whitespace.Proofs.Reassembly
import Whitespace.Proofs.Runs
import Whitespace.Style

/-!
# Digits have no meaning at run time

A machine looks at the values of literals and never at their digits.  So it makes
no difference whether the literals of its program are first written in canonical
digits: every operation commutes with that change.  Programs that agree have the
same canonical form, and their machines stay alike through every history.
-/

namespace Whitespace

/-!
# Canonical instructions
-/

namespace Instruction

theorem agrees_iff {left right : Instruction} :
    left.agrees right = true ↔
      left.opcode = right.opcode ∧ left.operandValue? = right.operandValue? := by
  simp [agrees]

theorem canonical_eq_iff {left right : Instruction} :
    left.canonical = right.canonical ↔ left.agrees right = true := by
  constructor
  · intro hcanonical
    have hleft := agrees_iff.mp (canonical_agrees left)
    have hright := agrees_iff.mp (canonical_agrees right)
    rw [hcanonical] at hleft
    exact agrees_iff.mpr
      ⟨hleft.left.symm.trans hright.left, hleft.right.symm.trans hright.right⟩
  · intro hagrees
    rcases agrees_iff.mp hagrees with ⟨hopcode, hvalue⟩
    cases left with
    | plain op =>
        cases right with
        | plain other =>
            cases hopcode
            rfl
        | number other operand => cases hopcode
        | label other operand => cases hopcode
    | number op operand =>
        cases right with
        | plain other => cases hopcode
        | number other value =>
            cases hopcode
            injection hvalue with hvalue
            rw [canonical, canonical, hvalue]
        | label other value => cases hopcode
    | label op operand =>
        cases right with
        | plain other => cases hopcode
        | number other value => cases hopcode
        | label other value =>
            cases hopcode
            injection hvalue with hvalue
            rw [canonical, canonical, Int.ofNat.inj hvalue]

theorem perform_canonical (host : Host) (instruction : Instruction) :
    instruction.canonical.perform host = instruction.perform host := by
  cases instruction with
  | plain op => rfl
  | number op operand => rw [canonical, perform, perform, Number.value_ofInt]
  | label op operand => rw [canonical, perform, perform, Label.value_ofNat]

theorem marked?_canonical (instruction : Instruction) :
    instruction.canonical.marked? = instruction.marked? := by
  cases instruction with
  | plain op => rfl
  | number op operand => rfl
  | label op operand =>
      cases op with
      | mark => exact congrArg some (Label.value_ofNat operand.value)
      | call => rfl
      | jump => rfl
      | jumpZero => rfl
      | jumpNegative => rfl
      | foreign => rfl

end Instruction

theorem resolveFrom_map_canonical (table : LabelTable) (start : Nat)
    (instructions : List Instruction) :
    resolveFrom table start (instructions.map Instruction.canonical) =
      resolveFrom table start instructions := by
  induction instructions generalizing table start with
  | nil => rfl
  | cons instruction rest ih =>
      simp only [List.map_cons, resolveFrom, Instruction.marked?_canonical, ih]

namespace Program

theorem resolveLabels_canonical (program : Program) :
    Program.resolveLabels (program.map Instruction.canonical) = program.resolveLabels := by
  unfold resolveLabels
  rw [Array.toList_map]
  exact resolveFrom_map_canonical _ _ _

theorem map_canonical_eq_of_agrees {left right : Program} (hagrees : left.agrees right = true) :
    left.map Instruction.canonical = right.map Instruction.canonical := by
  have hlists : forall first second : List Instruction, first.length = second.length ->
      ((first.zip second).all fun pair => pair.1.agrees pair.2) = true ->
        first.map Instruction.canonical = second.map Instruction.canonical := by
    intro first
    induction first with
    | nil =>
        intro second hlength _hpairs
        rw [List.length_eq_zero_iff.mp hlength.symm]
    | cons instruction first ih =>
        intro second hlength hpairs
        cases second with
        | nil => cases hlength
        | cons other second =>
            rw [List.zip_cons_cons, List.all_cons, Bool.and_eq_true] at hpairs
            rw [List.map_cons, List.map_cons, Instruction.canonical_eq_iff.mpr hpairs.left,
              ih second (Nat.succ.inj hlength) hpairs.right]
  rw [agrees, Bool.and_eq_true, beq_iff_eq] at hagrees
  apply Array.ext'
  rw [Array.toList_map, Array.toList_map]
  exact hlists left.toList right.toList hagrees.left hagrees.right

end Program

/-!
# Canonical machines
-/

namespace Machine

def canonical (machine : Machine) : Machine :=
  { machine with
    program := machine.program.map Instruction.canonical
    last := machine.last.map Instruction.canonical }

theorem canonical_withConsole (program : Program) (input : Input) (output : Output) :
    (withConsole program input output).canonical =
      withConsole (program.map Instruction.canonical) input output := by
  simp only [canonical, withConsole, Program.resolveLabels_canonical, initialStatus]
  simp

theorem canonical_complete (machine : Machine) (instruction : Instruction) :
    (machine.complete instruction).canonical =
      machine.canonical.complete instruction.canonical := by
  simp [canonical, complete]

theorem follow_canonical (machine : Machine) (flow : Flow) :
    machine.canonical.follow flow = (machine.follow flow).map canonical := by
  have hlabels : forall label, machine.canonical.target label = machine.target label :=
    fun _ => rfl
  cases flow with
  | next => rfl
  | jump label =>
      simp only [follow, hlabels]
      cases machine.target label with
      | error error => rfl
      | ok pc => rfl
  | call label =>
      simp only [follow, hlabels]
      cases machine.target label with
      | error error => rfl
      | ok pc => rfl
  | ret =>
      have hcalls : machine.canonical.calls = machine.calls := rfl
      simp only [follow, hcalls]
      cases machine.calls with
      | nil => rfl
      | cons address calls => rfl
  | halt => rfl
  | unbound label => rfl

def canonicalOutcome (outcome : Except MachineError Instruction × Machine) :
    Except MachineError Instruction × Machine :=
  (outcome.1.map Instruction.canonical, outcome.2.canonical)

theorem execute_canonical (machine : Machine) (instruction : Instruction) :
    machine.canonical.execute instruction.canonical =
      canonicalOutcome (machine.execute instruction) := by
  have hperform : instruction.canonical.perform machine.canonical.host machine.canonical.memory =
      instruction.perform machine.host machine.memory := by
    rw [Instruction.perform_canonical]
    rfl
  unfold execute
  rw [hperform]
  cases instruction.perform machine.host machine.memory with
  | mk result memory =>
      cases result with
      | error error => rfl
      | ok flow =>
          have hfollow :=
            follow_canonical { machine with pc := machine.pc + 1, memory := memory } flow
          dsimp only [canonical] at hfollow ⊢
          rw [hfollow]
          cases follow { machine with pc := machine.pc + 1, memory := memory } flow with
          | error error => rfl
          | ok followed =>
              have hcomplete := canonical_complete followed instruction
              exact congrArg (Prod.mk (Except.ok instruction.canonical)) hcomplete.symm

theorem step_canonical (machine : Machine) :
    machine.canonical.step = canonicalOutcome machine.step := by
  have hat : machine.canonical.program[machine.canonical.pc]? =
      machine.program[machine.pc]?.map Instruction.canonical := Array.getElem?_map
  by_cases hrunning : machine.status = .running
  · have hcanonical : machine.canonical.status = .running := hrunning
    cases hinstruction : machine.program[machine.pc]? with
    | none =>
        rw [hinstruction] at hat
        rw [step_of_end hrunning hinstruction, step_of_end hcanonical hat]
        rfl
    | some instruction =>
        rw [hinstruction] at hat
        rw [step_of_running hrunning hinstruction, step_of_running hcanonical hat]
        exact execute_canonical machine instruction
  · have hcanonical : machine.canonical.status ≠ .running := hrunning
    rw [step_of_not_running hrunning, step_of_not_running hcanonical]
    rfl

theorem commutes_canonical : Commutes canonical Instruction.canonical where
  status := fun _machine => rfl
  interrupt := fun _machine => rfl
  steps := fun _machine => rfl
  output := fun _machine => rfl
  stopInterrupted := fun _machine => rfl
  flushed := fun _machine => rfl
  step := step_canonical

end Machine

/-!
# Histories of machines that agree
-/

namespace Answer

def canonical : Answer -> Answer
  | done => done
  | stepped result => stepped (result.map Instruction.canonical)
  | ran result => ran result

/-- Answers agree when they are equal but for the digits of an executed instruction. -/
def Agrees : Answer -> Answer -> Prop
  | stepped (.ok left), stepped (.ok right) => left.agrees right = true
  | left, right => left = right

theorem agrees_of_canonical_eq {left right : Answer}
    (hcanonical : left.canonical = right.canonical) : Agrees left right := by
  cases left with
  | done =>
      cases right with
      | done => rfl
      | stepped result => cases hcanonical
      | ran result => cases hcanonical
  | stepped result =>
      cases right with
      | done => cases hcanonical
      | stepped other =>
          injection hcanonical with hresult
          cases result with
          | error error =>
              cases other with
              | error error' =>
                  cases hresult
                  rfl
              | ok instruction => cases hresult
          | ok instruction =>
              cases other with
              | error error => cases hresult
              | ok instruction' =>
                  injection hresult with hinstruction
                  exact Instruction.canonical_eq_iff.mp hinstruction
      | ran other => cases hcanonical
  | ran result =>
      cases right with
      | done => cases hcanonical
      | stepped other => cases hcanonical
      | ran other =>
          injection hcanonical with hresult
          rw [hresult]
          rfl

end Answer

namespace Machine

theorem operate_canonical (machine : Machine) (operation : Operation) :
    machine.canonical.operate operation =
      ((machine.operate operation).1.canonical, (machine.operate operation).2.canonical) := by
  cases operation with
  | withHost host => rfl
  | seedStack values => rfl
  | seedHeap cells => rfl
  | raiseInterrupt => rfl
  | step =>
      simp only [operate, step_canonical]
      rfl
  | run =>
      simp only [operate, commutes_canonical.run]
      rfl
  | runLimited limit =>
      simp only [operate, commutes_canonical.runLimited]
      rfl
  | reset =>
      have hstatus : initialStatus (machine.program.map Instruction.canonical) =
          initialStatus machine.program := by
        simp [initialStatus]
      simp only [operate, reset, canonical, hstatus]
      rfl

theorem replay_canonical (machine : Machine) (operations : List Operation) :
    machine.canonical.replay operations = (machine.replay operations).canonical := by
  induction operations generalizing machine with
  | nil => rfl
  | cons operation rest ih =>
      have hnext := operate_canonical machine operation
      show ((machine.canonical.operate operation).2).replay rest = _
      rw [hnext]
      exact ih (machine.operate operation).2

structure Alike (left right : Machine) : Prop where
  pc : left.pc = right.pc
  stack : left.memory.stack = right.memory.stack
  heap : left.memory.heap = right.memory.heap
  calls : left.callAddresses = right.callAddresses
  labels : left.labels = right.labels
  status : left.status = right.status
  steps : left.steps = right.steps
  line : left.memory.line = right.memory.line
  input : left.memory.input = right.memory.input
  output : left.memory.output = right.memory.output
  log : left.log = right.log
  last : left.last.map Instruction.canonical = right.last.map Instruction.canonical

theorem alike_of_canonical_eq {left right : Machine}
    (hcanonical : left.canonical = right.canonical) : Alike left right where
  pc := congrArg (fun machine => machine.pc) hcanonical
  stack := congrArg (fun machine => machine.memory.stack) hcanonical
  heap := congrArg (fun machine => machine.memory.heap) hcanonical
  calls := congrArg (fun machine => machine.callAddresses) hcanonical
  labels := congrArg (fun machine => machine.labels) hcanonical
  status := congrArg (fun machine => machine.status) hcanonical
  steps := congrArg (fun machine => machine.steps) hcanonical
  line := congrArg (fun machine => machine.memory.line) hcanonical
  input := congrArg (fun machine => machine.memory.input) hcanonical
  output := congrArg (fun machine => machine.memory.output) hcanonical
  log := congrArg (fun machine => machine.log) hcanonical
  last := congrArg (fun machine => machine.last) hcanonical

/-- After the same history machines are alike, and whatever comes next is answered alike. -/
def Lockstep (left right : Machine) : Prop :=
  forall operations : List Operation,
    Alike (left.replay operations) (right.replay operations) ∧
      forall operation : Operation,
        Answer.Agrees ((left.replay operations).operate operation).1
          ((right.replay operations).operate operation).1

theorem lockstep_of_canonical_eq {left right : Machine}
    (hcanonical : left.canonical = right.canonical) : Lockstep left right := by
  intro operations
  have hreplayed : (left.replay operations).canonical = (right.replay operations).canonical := by
    rw [← replay_canonical, ← replay_canonical, hcanonical]
  refine ⟨alike_of_canonical_eq hreplayed, ?_⟩
  intro operation
  apply Answer.agrees_of_canonical_eq
  have hleft := operate_canonical (left.replay operations) operation
  have hright := operate_canonical (right.replay operations) operation
  rw [hreplayed, hright] at hleft
  exact (congrArg Prod.fst hleft).symm

theorem lockstep_of_agrees {left right : Program} (hagrees : left.agrees right = true)
    (input : Input) (output : Output) :
    Lockstep (withConsole left input output) (withConsole right input output) := by
  apply lockstep_of_canonical_eq
  rw [canonical_withConsole, canonical_withConsole, Program.map_canonical_eq_of_agrees hagrees]

/-!
# Padded programs
-/

theorem padding_has_no_effect (input : Input) (output : Output) :
    (forall left right : Program, left.agrees right = true ->
      Lockstep (withConsole left input output) (withConsole right input output)) ∧
    (forall (mode : Mode) (style : Style) (source : String) (reading : Reading),
      Program.decode mode (style.remap source) = .ok reading ->
      exists assembly : Assembly, assemble reading.program.disassembly = .ok assembly ∧
        Lockstep (withConsole reading.program input output)
          (withConsole assembly.program input output)) := by
  constructor
  · intro left right hagrees
    exact lockstep_of_agrees hagrees input output
  · intro mode style source reading _hdecode
    refine ⟨_, Program.assemble_disassembly_eq reading.program, ?_⟩
    apply lockstep_of_canonical_eq
    rw [canonical_withConsole, canonical_withConsole, Program.program_ofInstructions_canonical,
      Program.map_canonical_eq_of_agrees (Program.canonical_agrees reading.program)]

/-- A jump whose label has a leading zero, over the mark without one to a padded number. -/
theorem padding_has_no_effect_on_jump :
    exists padded plain : Program,
      padded = #[.label .jump ⟨[false, true]⟩, .label .mark ⟨[true]⟩,
        .number .push ⟨[false, false, true]⟩] ∧
      plain = #[.label .jump ⟨[true]⟩, .label .mark ⟨[true]⟩, .number .push ⟨[false, true]⟩] ∧
      padded.agrees plain = true ∧
      Lockstep (withConsole padded (Input.ofString "") Output.empty)
        (withConsole plain (Input.ofString "") Output.empty) ∧
      Program.decode .lenient (Style.stl.remap "LSLSTLLSSTLSSSSTL") = .ok ⟨padded, none⟩ ∧
      exists assembly : Assembly, assemble padded.disassembly = .ok assembly ∧
        Lockstep (withConsole padded (Input.ofString "") Output.empty)
          (withConsole assembly.program (Input.ofString "") Output.empty) := by
  refine ⟨_, _, rfl, rfl, by decide, ?_, rfl, ?_⟩
  · exact (padding_has_no_effect _ _).left _ _ (by decide)
  · exact (padding_has_no_effect _ _).right .lenient Style.stl "LSLSTLLSSTLSSSSTL" ⟨_, none⟩ rfl

end Machine
end Whitespace
