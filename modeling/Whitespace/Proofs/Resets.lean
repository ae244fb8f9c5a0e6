import Whitespace.Proofs.Histories
import Whitespace.Proofs.Runs

/-!
# Resetting a machine

Warnings are collected and never looked at, so earlier ones can be put in front of
a machine's own without any effect on what it does.  A machine that is reset is a
fresh one for what is left of its input, with the warnings of its past in front;
from then on the two stay alike, whatever is done with them.
-/

namespace Whitespace
namespace Machine

/-!
# Earlier warnings
-/

def remembering (past : Array Warning) (machine : Machine) : Machine :=
  { machine with log := past ++ machine.log }

theorem remembering_warn (past : Array Warning) (machine : Machine) (warning : Warning) :
    (machine.remembering past).warn warning = (machine.warn warning).remembering past := by
  simp [remembering, warn]

theorem follow_remembering (past : Array Warning) (machine : Machine) (flow : Flow) :
    (machine.remembering past).follow flow =
      (machine.follow flow).map (remembering past) := by
  have htarget : forall label, (machine.remembering past).target label = machine.target label :=
    fun _label => rfl
  cases flow with
  | next => rfl
  | jump label =>
      simp only [follow, htarget]
      cases machine.target label with
      | error error => rfl
      | ok pc => rfl
  | call label =>
      simp only [follow, htarget]
      cases machine.target label with
      | error error => rfl
      | ok pc => rfl
  | ret =>
      have hcalls : (machine.remembering past).calls = machine.calls := rfl
      simp only [follow, hcalls]
      cases machine.calls with
      | nil => exact congrArg Except.ok (remembering_warn past machine _)
      | cons address calls => rfl
  | halt => rfl
  | unbound label => exact congrArg Except.ok (remembering_warn past machine _)

theorem execute_remembering (past : Array Warning) (machine : Machine)
    (instruction : Instruction) :
    (machine.remembering past).execute instruction =
      ((machine.execute instruction).1, (machine.execute instruction).2.remembering past) := by
  have hmoved : forall (memory : Memory) (flow : Flow),
      follow { machine.remembering past with pc := machine.pc + 1, memory := memory } flow =
        (follow { machine with pc := machine.pc + 1, memory := memory } flow).map
          (remembering past) :=
    fun memory flow => follow_remembering past { machine with pc := machine.pc + 1, memory } flow
  have hexecution := execution machine instruction
  generalize machine.execute instruction = outcome at hexecution
  cases hexecution with
  | refused error memory hperform =>
      have hremembering : instruction.perform (machine.remembering past).host
          (machine.remembering past).memory = (.error error, memory) := hperform
      exact execute_of_refused hremembering
  | astray flow memory error hperform hfollow =>
      have hremembering : instruction.perform (machine.remembering past).host
          (machine.remembering past).memory = (.ok flow, memory) := hperform
      have hastray := hmoved memory flow
      rw [hfollow] at hastray
      exact execute_of_astray hremembering hastray
  | done flow memory followed hperform hfollow =>
      have hremembering : instruction.perform (machine.remembering past).host
          (machine.remembering past).memory = (.ok flow, memory) := hperform
      have hdone := hmoved memory flow
      rw [hfollow] at hdone
      exact execute_of_done hremembering hdone

theorem step_remembering (past : Array Warning) (machine : Machine) :
    (machine.remembering past).step =
      (machine.step.1, machine.step.2.remembering past) := by
  by_cases hrunning : machine.status = .running
  · have hremembering : (machine.remembering past).status = .running := hrunning
    cases hinstruction : machine.program[machine.pc]? with
    | none =>
        rw [step_of_end hrunning hinstruction, step_of_end hremembering hinstruction]
        rfl
    | some instruction =>
        rw [step_of_running hrunning hinstruction, step_of_running hremembering hinstruction]
        exact execute_remembering past machine instruction
  · have hremembering : (machine.remembering past).status ≠ .running := hrunning
    rw [step_of_not_running hrunning, step_of_not_running hremembering]
    rfl

theorem commutes_remembering (past : Array Warning) : Commutes (remembering past) id where
  status := fun _machine => rfl
  interrupt := fun _machine => rfl
  steps := fun _machine => rfl
  output := fun _machine => rfl
  stopInterrupted := by
    intro machine
    simp [stopInterrupted, remembering, warn]
  flushed := fun _machine => rfl
  step := by
    intro machine
    rw [step_remembering, Except.map_id]
    rfl

theorem operate_remembering (past : Array Warning) (machine : Machine) (operation : Operation) :
    (machine.remembering past).operate operation =
      ((machine.operate operation).1, (machine.operate operation).2.remembering past) := by
  cases operation with
  | withHost host => rfl
  | seedStack values => rfl
  | seedHeap cells => rfl
  | raiseInterrupt => rfl
  | step => simp only [operate, step_remembering]
  | run => simp only [operate, (commutes_remembering past).run]
  | runLimited limit => simp only [operate, (commutes_remembering past).runLimited]
  | reset => rfl

theorem replay_remembering (past : Array Warning) (machine : Machine)
    (operations : List Operation) :
    (machine.remembering past).replay operations =
      (machine.replay operations).remembering past := by
  induction operations generalizing machine with
  | nil => rfl
  | cons operation rest ih =>
      have hnext := operate_remembering past machine operation
      show ((machine.remembering past).operate operation).2.replay rest = _
      rw [hnext]
      exact ih (machine.operate operation).2

/-!
# Fresh machines
-/

def quiet (program : Program) (input : Input) (output : Output) (host : Host) : Machine :=
  { (withConsole program input output).withHost host with log := #[] }

theorem withHost_withConsole_eq (program : Program) (input : Input) (output : Output)
    (host : Host) :
    (withConsole program input output).withHost host =
      (quiet program input output host).remembering (withConsole program input output).log := by
  simp [quiet, remembering, withHost]

theorem reset_eq {program : Program} {machine : Machine} (hcoherent : Coherent program machine) :
    machine.reset =
      (quiet program machine.memory.input machine.memory.output machine.host).remembering
        machine.log := by
  have hprogram := hcoherent.program_eq
  have hlabels := hcoherent.labels_eq
  simp [reset, quiet, remembering, withHost, withConsole, hprogram, hlabels, Program.labels]

def SameButLog (left right : Machine) : Prop :=
  left = { right with log := left.log }

theorem reset_forgets_past (program : Program) (input : Input) (output : Output)
    (earlier later : List Operation) :
    let machine := (withConsole program input output).replay earlier
    let fresh := (withConsole program machine.memory.input machine.memory.output).withHost
      machine.host
    SameButLog (machine.reset.replay later) (fresh.replay later) ∧
      (exists news : Array Warning, (machine.reset.replay later).log = machine.log ++ news ∧
        (fresh.replay later).log = fresh.log ++ news) ∧
      forall operation : Operation,
        ((machine.reset.replay later).operate operation).1 =
          ((fresh.replay later).operate operation).1 := by
  intro machine fresh
  have hcoherent : Coherent program machine :=
    (coherent_withConsole program input output).replay earlier
  have hreset : machine.reset.replay later =
      ((quiet program machine.memory.input machine.memory.output machine.host).replay
        later).remembering machine.log := by
    rw [reset_eq hcoherent, replay_remembering]
  have hfresh : fresh.replay later =
      ((quiet program machine.memory.input machine.memory.output machine.host).replay
        later).remembering fresh.log := by
    rw [← replay_remembering]
    exact congrArg (fun start => start.replay later) (withHost_withConsole_eq _ _ _ _)
  rw [hreset, hfresh]
  refine ⟨rfl, ⟨_, rfl, rfl⟩, ?_⟩
  intro operation
  rw [operate_remembering, operate_remembering]

end Machine
end Whitespace
