import Mathlib.Data.List.Induction
import Whitespace.Proofs.Labels
import Whitespace.Proofs.Runs

/-!
# Histories of a machine

A machine is built for a program and then worked on by any sequence of
operations.  Whatever the sequence, control stays inside the program, the status
of the machine says where it stands, return addresses lie behind calls, and a
machine that has failed stands behind the instruction that failed.
-/

namespace Whitespace

/-!
# Operations
-/

inductive Operation where
  | withHost (host : Host)
  | seedStack (values : List Int)
  | seedHeap (cells : List (Int × Int))
  | raiseInterrupt
  | step
  | run
  | runLimited (limit : Nat)
  | reset

inductive Answer where
  | done
  | stepped (result : Except MachineError Instruction)
  | ran (result : Except MachineError Nat)

namespace Machine

def operate (machine : Machine) : Operation -> Answer × Machine
  | .withHost host => (.done, machine.withHost host)
  | .seedStack values => (.done, machine.seedStack values)
  | .seedHeap cells => (.done, machine.seedHeap cells)
  | .raiseInterrupt => (.done, machine.raiseInterrupt)
  | .step => (.stepped machine.step.1, machine.step.2)
  | .run => (.ran machine.run.1, machine.run.2)
  | .runLimited limit => (.ran (machine.runLimited limit).1, (machine.runLimited limit).2)
  | .reset => (.done, machine.reset)

def replay (machine : Machine) (operations : List Operation) : Machine :=
  operations.foldl (fun machine operation => (machine.operate operation).2) machine

theorem replay_append_singleton (machine : Machine) (operations : List Operation)
    (operation : Operation) :
    machine.replay (operations ++ [operation]) =
      ((machine.replay operations).operate operation).2 := by
  simp [replay, List.foldl_append]

/-!
# Coherence
-/

/-- Where a return may lead: behind a call of the program. -/
def IsReturnAddress (program : Program) (address : Nat) : Prop :=
  1 ≤ address ∧ address ≤ program.size ∧
    exists operand : Label, program[address - 1]? = some (.label .call operand)

def Stands (program : Program) (pc : Nat) : Status -> Prop
  | .running => pc < program.size
  | .finished => pc = program.size
  | .halted => 1 ≤ pc ∧ program[pc - 1]? = some (.plain .halt)
  | .interrupted => pc < program.size
  | .failed => 1 ≤ pc

/-- Control of the machine fits the program that it was built for. -/
structure Coherent (program : Program) (machine : Machine) : Prop where
  program_eq : machine.program = program
  labels_eq : machine.labels = program.labels
  pc_le : machine.pc ≤ program.size
  stands : Stands program machine.pc machine.status
  calls : forall address, address ∈ machine.calls -> IsReturnAddress program address

theorem initialStatus_eq (program : Program) :
    initialStatus program = if program.size = 0 then .finished else .running := by
  simp only [initialStatus, Array.isEmpty, decide_eq_true_eq]

theorem stands_initialStatus (program : Program) :
    Stands program 0 (initialStatus program) := by
  unfold initialStatus
  split
  · next hempty => exact (Array.size_eq_zero_iff.mpr (Array.isEmpty_iff.mp hempty)).symm
  · next hempty => exact Array.size_pos_iff.mpr (by simpa using hempty)

theorem coherent_withConsole (program : Program) (input : Input) (output : Output) :
    Coherent program (withConsole program input output) where
  program_eq := rfl
  labels_eq := rfl
  pc_le := Nat.zero_le _
  stands := stands_initialStatus program
  calls := by
    intro address hmem
    cases hmem

theorem Coherent.reset {program : Program} {machine : Machine}
    (hcoherent : Coherent program machine) : Coherent program machine.reset where
  program_eq := hcoherent.program_eq
  labels_eq := hcoherent.labels_eq
  pc_le := Nat.zero_le _
  stands := by
    rw [← hcoherent.program_eq]
    exact stands_initialStatus machine.program
  calls := by
    intro address hmem
    cases hmem

theorem Coherent.pc_lt {program : Program} {machine : Machine}
    (hcoherent : Coherent program machine) (hrunning : machine.status = .running) :
    machine.pc < program.size := by
  have hstands := hcoherent.stands
  rw [hrunning] at hstands
  exact hstands

theorem Coherent.exists_instruction {program : Program} {machine : Machine}
    (hcoherent : Coherent program machine) (hrunning : machine.status = .running) :
    exists instruction, machine.program[machine.pc]? = some instruction := by
  have hpc := hcoherent.pc_lt hrunning
  rw [← hcoherent.program_eq] at hpc
  exact ⟨_, Array.getElem?_eq_getElem hpc⟩

/-!
# Steps keep coherence

A step that goes on lands inside the program or right behind it, and in the
second case the machine is finished.
-/

theorem coherent_complete {program : Program} {machine : Machine} (instruction : Instruction)
    (hprogram : machine.program = program) (hlabels : machine.labels = program.labels)
    (hpc : machine.pc ≤ program.size) (hrunning : machine.status = .running)
    (hcalls : forall address, address ∈ machine.calls -> IsReturnAddress program address) :
    Coherent program (machine.complete instruction) := by
  refine ⟨hprogram, hlabels, hpc, ?_, hcalls⟩
  simp only [complete, hrunning, hprogram, true_and]
  by_cases hend : program.size ≤ machine.pc
  · rw [if_pos hend]
    exact Nat.le_antisymm hpc hend
  · rw [if_neg hend]
    exact Nat.lt_of_not_le hend

theorem Coherent.step {program : Program} {machine : Machine}
    (hcoherent : Coherent program machine) : Coherent program machine.step.2 := by
  by_cases hrunning : machine.status = .running
  · rcases hcoherent.exists_instruction hrunning with ⟨instruction, hat⟩
    have hpc : machine.pc + 1 ≤ program.size := hcoherent.pc_lt hrunning
    have hprogram := hcoherent.program_eq
    have hlabels := hcoherent.labels_eq
    have htarget : forall {label index : Nat}, machine.labels[label]? = some index ->
        index + 1 ≤ program.size := by
      intro label index hentry
      rw [hlabels] at hentry
      exact Program.lt_size_of_labels hentry
    have hreaction := reaction_step hrunning hat
    rw [hprogram] at hat
    generalize machine.step = outcome at hreaction
    cases hreaction with
    | failed error memory =>
        exact ⟨hprogram, hlabels, hpc, Nat.le_add_left 1 _, hcoherent.calls⟩
    | next memory log =>
        exact coherent_complete instruction hprogram hlabels hpc hrunning hcoherent.calls
    | jumped memory label index hentry =>
        exact coherent_complete instruction hprogram hlabels (htarget hentry) hrunning
          hcoherent.calls
    | called memory operand index hcall hentry =>
        refine coherent_complete instruction hprogram hlabels (htarget hentry) hrunning ?_
        intro address hmem
        rcases List.mem_cons.mp hmem with hnew | hold
        · rw [hnew]
          refine ⟨Nat.le_add_left 1 _, hpc, operand, ?_⟩
          rw [Nat.add_sub_cancel, hat, hcall]
        · exact hcoherent.calls address hold
    | returned memory address calls hret hcalls =>
        have haddress : IsReturnAddress program address := by
          apply hcoherent.calls
          rw [hcalls]
          exact List.mem_cons_self
        refine coherent_complete instruction hprogram hlabels haddress.right.left hrunning ?_
        intro other hmem
        apply hcoherent.calls
        rw [hcalls]
        exact List.mem_cons_of_mem address hmem
    | halted memory hhalt =>
        refine ⟨hprogram, hlabels, hpc, ?_, hcoherent.calls⟩
        have hstatus : (complete
            { machine with pc := machine.pc + 1, memory := memory, status := .halted }
              instruction).status = .halted := by
          simp [complete]
        rw [hstatus]
        refine ⟨Nat.le_add_left 1 _, ?_⟩
        show program[machine.pc + 1 - 1]? = _
        rw [Nat.add_sub_cancel, hat, hhalt]
  · rw [step_of_not_running hrunning]
    exact hcoherent

theorem Coherent.steps {program : Program} {machine last : Machine}
    (hcoherent : Coherent program machine) (hsteps : Steps machine last) :
    Coherent program last := by
  induction hsteps with
  | refl machine => exact hcoherent
  | head hstep _hrest ih =>
      apply ih
      have hnext := hcoherent.step
      rw [hstep] at hnext
      exact hnext

theorem Coherent.stopInterrupted {program : Program} {machine : Machine}
    (hcoherent : Coherent program machine) (hrunning : machine.status = .running) :
    Coherent program machine.stopInterrupted where
  program_eq := hcoherent.program_eq
  labels_eq := hcoherent.labels_eq
  pc_le := hcoherent.pc_le
  stands := hcoherent.pc_lt hrunning
  calls := hcoherent.calls

theorem Coherent.advance {program : Program} {machine : Machine}
    (hcoherent : Coherent program machine) (count : Nat) :
    Coherent program (Machine.advance count machine).2 := by
  have hend := runEnd_advance count machine
  generalize Machine.advance count machine = ending at hend
  cases hend with
  | paused last hsteps => exact hcoherent.steps hsteps
  | interrupted last hsteps hrunning => exact (hcoherent.steps hsteps).stopInterrupted hrunning
  | failed last next error hsteps hrunning hstep =>
      have hnext := (hcoherent.steps hsteps).step
      rw [hstep] at hnext
      exact hnext

theorem Coherent.flushed {program : Program} {machine : Machine}
    (hcoherent : Coherent program machine) : Coherent program machine.flushed :=
  ⟨hcoherent.program_eq, hcoherent.labels_eq, hcoherent.pc_le, hcoherent.stands, hcoherent.calls⟩

theorem Coherent.run {program : Program} {machine : Machine}
    (hcoherent : Coherent program machine) : Coherent program machine.run.2 := by
  rcases run_cases machine with ⟨count, hstopped, _hrun⟩ | hendless
  · rw [run_of_advance hstopped]
    exact (hcoherent.advance count).flushed
  · rw [Machine.run, hendless]
    exact hcoherent

theorem Coherent.operate {program : Program} {machine : Machine}
    (hcoherent : Coherent program machine) (operation : Operation) :
    Coherent program (machine.operate operation).2 := by
  cases operation with
  | withHost host =>
      exact ⟨hcoherent.program_eq, hcoherent.labels_eq, hcoherent.pc_le, hcoherent.stands,
        hcoherent.calls⟩
  | seedStack values =>
      exact ⟨hcoherent.program_eq, hcoherent.labels_eq, hcoherent.pc_le, hcoherent.stands,
        hcoherent.calls⟩
  | seedHeap cells =>
      exact ⟨hcoherent.program_eq, hcoherent.labels_eq, hcoherent.pc_le, hcoherent.stands,
        hcoherent.calls⟩
  | raiseInterrupt =>
      exact ⟨hcoherent.program_eq, hcoherent.labels_eq, hcoherent.pc_le, hcoherent.stands,
        hcoherent.calls⟩
  | step => exact hcoherent.step
  | run => exact hcoherent.run
  | runLimited limit => exact (hcoherent.advance _).flushed
  | reset => exact hcoherent.reset

theorem Coherent.replay {program : Program} {machine : Machine}
    (hcoherent : Coherent program machine) (operations : List Operation) :
    Coherent program (machine.replay operations) := by
  induction operations generalizing machine with
  | nil => exact hcoherent
  | cons operation rest ih => exact ih (hcoherent.operate operation)

end Machine

/-!
# Setups

Before it runs, a machine is given what the program does not say: where it reads
and writes, its host, and what lies on its stack and in its heap.
-/

structure Setup where
  input : Input
  output : Output
  host : Host
  stack : List Int
  heap : List (Int × Int)

def Setup.machine (setup : Setup) (program : Program) : Machine :=
  (((Machine.withConsole program setup.input setup.output).withHost setup.host).seedStack
    setup.stack).seedHeap setup.heap

namespace Machine

/-!
# Failures

A machine fails in one step of some operation, and stays as it failed until it
is reset.
-/

/-- Work that starts in one machine stops in another because an instruction fails; the output may
have been flushed after that. -/
def FailsAt (start after : Machine) (instruction : Instruction) : Prop :=
  exists (before failed : Machine) (error : MachineError), Steps start before ∧
    before.status = .running ∧ before.program[before.pc]? = some instruction ∧
      before.step = (.error error, failed) ∧ (after = failed ∨ after = failed.flushed)

theorem pc_of_failsAt {start after : Machine} {instruction : Instruction}
    (hfails : FailsAt start after instruction) :
    1 ≤ after.pc ∧ after.program[after.pc - 1]? = some instruction := by
  rcases hfails with ⟨before, failed, error, _hsteps, hrunning, hat, hstep, hafter⟩
  have hreaction := reaction_step hrunning hat
  rw [hstep] at hreaction
  have hfailed : 1 ≤ failed.pc ∧ failed.program[failed.pc - 1]? = some instruction := by
    cases hreaction with
    | failed error memory => exact ⟨Nat.le_add_left 1 _, hat⟩
  rcases hafter with hsame | hflushed
  · rw [hsame]
    exact hfailed
  · rw [hflushed]
    exact hfailed

theorem status_ne_failed_of_step_ok {machine next : Machine} {instruction : Instruction}
    (hstep : machine.step = (.ok instruction, next)) : next.status ≠ .failed := by
  have hrunning := (running_of_step_ok hstep).left
  have hcompleted : forall completed : Machine, completed.status ≠ .failed ->
      (completed.complete instruction).status ≠ .failed := by
    intro completed hstatus
    simp only [complete]
    split
    · intro hfinished
      cases hfinished
    · exact hstatus
  have hkept : machine.status ≠ .failed := by
    rw [hrunning]
    intro hother
    cases hother
  cases reaction_of_step_ok hstep with
  | next memory log => exact hcompleted _ hkept
  | jumped memory label index hentry => exact hcompleted _ hkept
  | called memory operand index hcall hentry => exact hcompleted _ hkept
  | returned memory address calls hret hcalls => exact hcompleted _ hkept
  | halted memory hhalt =>
      apply hcompleted
      intro hother
      cases hother

theorem eq_of_steps_failed {machine last : Machine} (hsteps : Steps machine last)
    (hfailed : last.status = .failed) : machine.status = .failed ∧ last = machine := by
  induction hsteps with
  | refl machine => exact ⟨hfailed, rfl⟩
  | head hstep _hrest ih =>
      have hnext := (ih hfailed).left
      exact absurd hnext (status_ne_failed_of_step_ok hstep)

theorem failed_of_step {program : Program} {machine : Machine}
    (hcoherent : Coherent program machine) (hfailed : machine.step.2.status = .failed) :
    machine.status = .failed ∧ machine.step.2 = machine ∨
      exists instruction, FailsAt machine machine.step.2 instruction := by
  by_cases hrunning : machine.status = .running
  · rcases hcoherent.exists_instruction hrunning with ⟨instruction, hat⟩
    cases hstep : machine.step with
    | mk result next =>
        rw [hstep] at hfailed
        cases result with
        | error error =>
            exact Or.inr ⟨instruction, machine, next, error, .refl machine, hrunning, hat, hstep,
              Or.inl rfl⟩
        | ok executed => exact absurd hfailed (status_ne_failed_of_step_ok hstep)
  · rw [step_of_not_running hrunning] at hfailed
    exact Or.inl ⟨hfailed, by rw [step_of_not_running hrunning]⟩

theorem failed_of_advance {program : Program} {machine : Machine} (count : Nat)
    (hcoherent : Coherent program machine)
    (hfailed : (Machine.advance count machine).2.status = .failed) :
    machine.status = .failed ∧ (Machine.advance count machine).2.pc = machine.pc ∨
      exists instruction,
        FailsAt machine (Machine.advance count machine).2.flushed instruction := by
  have hend := runEnd_advance count machine
  generalize Machine.advance count machine = ending at hend hfailed
  cases hend with
  | paused last hsteps =>
      rcases eq_of_steps_failed hsteps hfailed with ⟨hbefore, hsame⟩
      exact Or.inl ⟨hbefore, congrArg Machine.pc hsame⟩
  | interrupted last hsteps hrunning => cases hfailed
  | failed last next error hsteps hrunning hstep =>
      rcases (hcoherent.steps hsteps).exists_instruction hrunning with ⟨instruction, hat⟩
      exact Or.inr ⟨instruction, last, next, error, hsteps, hrunning, hat, hstep, Or.inr rfl⟩

theorem failed_of_run {program : Program} {machine : Machine}
    (hcoherent : Coherent program machine) (hfailed : machine.run.2.status = .failed) :
    machine.status = .failed ∧ machine.run.2.pc = machine.pc ∨
      exists instruction, FailsAt machine machine.run.2 instruction := by
  rcases run_cases machine with ⟨count, hstopped, _hrun⟩ | hendless
  · rw [run_of_advance hstopped] at hfailed ⊢
    exact failed_of_advance count hcoherent hfailed
  · rw [Machine.run, hendless] at hfailed ⊢
    exact Or.inl ⟨hfailed, rfl⟩

theorem failed_of_operate {program : Program} {machine : Machine} {operation : Operation}
    (hcoherent : Coherent program machine)
    (hfailed : (machine.operate operation).2.status = .failed) :
    operation ≠ .reset ∧ machine.status = .failed ∧
        (machine.operate operation).2.pc = machine.pc ∨
      exists instruction, FailsAt machine (machine.operate operation).2 instruction := by
  cases operation with
  | withHost host => exact Or.inl ⟨Operation.noConfusion, hfailed, rfl⟩
  | seedStack values => exact Or.inl ⟨Operation.noConfusion, hfailed, rfl⟩
  | seedHeap cells => exact Or.inl ⟨Operation.noConfusion, hfailed, rfl⟩
  | raiseInterrupt => exact Or.inl ⟨Operation.noConfusion, hfailed, rfl⟩
  | step =>
      rcases failed_of_step hcoherent hfailed with ⟨hbefore, hsame⟩ | hfails
      · exact Or.inl ⟨Operation.noConfusion, hbefore, congrArg Machine.pc hsame⟩
      · exact Or.inr hfails
  | run =>
      rcases failed_of_run hcoherent hfailed with ⟨hbefore, hsame⟩ | hfails
      · exact Or.inl ⟨Operation.noConfusion, hbefore, hsame⟩
      · exact Or.inr hfails
  | runLimited limit =>
      rcases failed_of_advance _ hcoherent hfailed with ⟨hbefore, hsame⟩ | hfails
      · exact Or.inl ⟨Operation.noConfusion, hbefore, hsame⟩
      · exact Or.inr hfails
  | reset =>
      have hstands := hcoherent.reset.stands
      have hstatus : machine.reset.status = .failed := hfailed
      rw [hstatus] at hstands
      cases hstands

theorem exists_failing_operation {program : Program} {machine : Machine}
    (hcoherent : Coherent program machine) (hstart : machine.status ≠ .failed)
    (operations : List Operation) (hfailed : (machine.replay operations).status = .failed) :
    exists (earlier : List Operation) (operation : Operation) (later : List Operation)
      (instruction : Instruction),
      operations = earlier ++ operation :: later ∧
        (forall other, other ∈ later -> other ≠ .reset) ∧
          FailsAt (machine.replay earlier) (machine.replay (earlier ++ [operation]))
            instruction ∧
            (machine.replay operations).pc = (machine.replay (earlier ++ [operation])).pc := by
  induction operations using List.reverseRecOn with
  | nil => exact absurd hfailed hstart
  | append_singleton operations last ih =>
      rw [replay_append_singleton] at hfailed
      rcases failed_of_operate (hcoherent.replay operations) hfailed with
        ⟨hkeeps, hbefore, hpc⟩ | ⟨instruction, hfails⟩
      · rcases ih hbefore with
          ⟨earlier, operation, later, instruction, hsplit, hlater, hfails, hsame⟩
        refine ⟨earlier, operation, later ++ [last], instruction, ?_, ?_, hfails, ?_⟩
        · rw [hsplit, List.append_assoc, List.cons_append]
        · intro other hmem
          rcases List.mem_append.mp hmem with hold | hnew
          · exact hlater other hold
          · rw [List.mem_singleton.mp hnew]
            exact hkeeps
        · rw [replay_append_singleton, hpc, hsame]
      · refine ⟨operations, last, [], instruction, rfl, ?_, ?_, rfl⟩
        · intro other hmem
          cases hmem
        · rw [replay_append_singleton]
          exact hfails

/-!
# Every history
-/

theorem control_of_history (program : Program) (input : Input) (output : Output)
    (operations : List Operation) :
    Coherent program ((withConsole program input output).replay operations) ∧
      (((withConsole program input output).replay operations).status = .failed ->
        exists (earlier : List Operation) (operation : Operation) (later : List Operation)
          (instruction : Instruction),
          operations = earlier ++ operation :: later ∧
            (forall other, other ∈ later -> other ≠ .reset) ∧
            FailsAt ((withConsole program input output).replay earlier)
              ((withConsole program input output).replay (earlier ++ [operation])) instruction ∧
            program[((withConsole program input output).replay operations).pc - 1]? =
              some instruction) := by
  have hstart := coherent_withConsole program input output
  refine ⟨hstart.replay operations, ?_⟩
  intro hfailed
  have hfresh : (withConsole program input output).status ≠ .failed := by
    intro hfailed
    have hstands := hstart.stands
    rw [hfailed] at hstands
    cases hstands
  rcases exists_failing_operation hstart hfresh operations hfailed with
    ⟨earlier, operation, later, instruction, hsplit, hlater, hfails, hpc⟩
  refine ⟨earlier, operation, later, instruction, hsplit, hlater, hfails, ?_⟩
  have hat := (pc_of_failsAt hfails).right
  rw [(hstart.replay (earlier ++ [operation])).program_eq] at hat
  rw [hpc]
  exact hat

/-!
# The steps of a history

Every operation comes down to steps, made one after another in certain machines,
and to changes that are no steps.  What both keep holds at the end of a history
that is not reset.
-/

def attemptsOfRun : Nat -> Machine -> List Machine
  | 0, _ => []
  | count + 1, machine =>
      if machine.status = .running ∧ machine.interrupt = false then
        match machine.step with
        | (.ok _, next) => machine :: attemptsOfRun count next
        | (.error _, _) => [machine]
      else
        []

def attemptsOf (machine : Machine) : Operation -> List Machine
  | .step => [machine]
  | .run =>
      match machine.run? with
      | some (_, last) => attemptsOfRun (last.steps - machine.steps + 1) machine
      | none => []
  | .runLimited limit => attemptsOfRun (min limit (wordMax - machine.steps)) machine
  | _ => []

/-- The machines in which a history makes its steps, whether they succeed or fail. -/
def attempts (machine : Machine) : List Operation -> List Machine
  | [] => []
  | operation :: rest => machine.attemptsOf operation ++ (machine.operate operation).2.attempts rest

/-- A property of the steps made so far and the machine they have led to is kept by steps. -/
structure Stepwise (property : List Machine -> Machine -> Prop) : Prop where
  step : forall made machine, property made machine ->
    property (made ++ [machine]) machine.step.2
  stopInterrupted : forall made machine, property made machine ->
    property made machine.stopInterrupted
  flushed : forall made machine, property made machine -> property made machine.flushed

theorem Stepwise.advance {property : List Machine -> Machine -> Prop}
    (hstepwise : Stepwise property)
    {made : List Machine} {machine : Machine} (hproperty : property made machine) (count : Nat) :
    property (made ++ attemptsOfRun count machine) (Machine.advance count machine).2 := by
  induction count generalizing made machine with
  | zero =>
      rw [attemptsOfRun, List.append_nil]
      exact hproperty
  | succ count ih =>
      cases turn machine with
      | stopped hstopped =>
          rw [advance_of_not_running _ hstopped, attemptsOfRun,
            if_neg fun hboth => hstopped hboth.left, List.append_nil]
          exact hproperty
      | interrupted hrunning hflag =>
          rw [advance_of_interrupt count hrunning hflag, attemptsOfRun,
            if_neg fun hboth => absurd hboth.right (by rw [hflag]; decide), List.append_nil]
          exact hstepwise.stopInterrupted made machine hproperty
      | failed error next hrunning hflag hstep =>
          have hnext := hstepwise.step made machine hproperty
          rw [hstep] at hnext
          rw [advance_of_step_error count hrunning hflag hstep, attemptsOfRun,
            if_pos ⟨hrunning, hflag⟩, hstep]
          exact hnext
      | moved instruction next hflag hstep =>
          have hnext := hstepwise.step made machine hproperty
          rw [hstep] at hnext
          rw [advance_of_step_ok count hflag hstep, attemptsOfRun,
            if_pos ⟨(running_of_step_ok hstep).left, hflag⟩, hstep]
          simp only
          rw [List.append_cons]
          exact ih hnext

theorem attemptsOf_run {count : Nat} {machine : Machine}
    (hstopped : (Machine.advance count machine).2.status ≠ .running) :
    machine.attemptsOf .run =
      attemptsOfRun ((Machine.advance count machine).2.steps - machine.steps + 1) machine := by
  simp only [attemptsOf, run?, advanceFully_of_advance hstopped, Option.map_some]
  rfl

theorem Stepwise.run {property : List Machine -> Machine -> Prop} (hstepwise : Stepwise property)
    {made : List Machine} {machine : Machine} (hproperty : property made machine) :
    property (made ++ machine.attemptsOf .run) machine.run.2 := by
  rcases run_cases machine with ⟨count, hstopped, _hrun⟩ | hendless
  · have hsteps := hstepwise.advance hproperty
      ((Machine.advance count machine).2.steps - machine.steps + 1)
    rw [advance_eq_of_stopped hstopped (Nat.lt_succ_self _)] at hsteps
    rw [run_of_advance hstopped, attemptsOf_run hstopped]
    exact hstepwise.flushed _ _ hsteps
  · rw [Machine.run, attemptsOf, hendless, List.append_nil]
    exact hproperty

/-- A property of the steps made so far and the machine they have led to is carried along by every
operation but a reset. -/
structure Carried (property : List Machine -> Machine -> Prop) : Prop where
  step : forall made machine, property made machine ->
    property (made ++ [machine]) machine.step.2
  withHost : forall made machine host, property made machine ->
    property made (machine.withHost host)
  seedStack : forall made machine values, property made machine ->
    property made (machine.seedStack values)
  seedHeap : forall made machine cells, property made machine ->
    property made (machine.seedHeap cells)
  raiseInterrupt : forall made machine, property made machine ->
    property made machine.raiseInterrupt
  stopInterrupted : forall made machine, property made machine ->
    property made machine.stopInterrupted
  flushed : forall made machine, property made machine -> property made machine.flushed

theorem Carried.stepwise {property : List Machine -> Machine -> Prop}
    (hcarried : Carried property) : Stepwise property :=
  ⟨hcarried.step, hcarried.stopInterrupted, hcarried.flushed⟩

theorem Carried.operate {property : List Machine -> Machine -> Prop} (hcarried : Carried property)
    {made : List Machine} {machine : Machine} (hproperty : property made machine)
    {operation : Operation} (hkeeps : operation ≠ .reset) :
    property (made ++ machine.attemptsOf operation) (machine.operate operation).2 := by
  have hquiet : forall next, property made next -> property (made ++ []) next := by
    intro next hnext
    rw [List.append_nil]
    exact hnext
  cases operation with
  | withHost host => exact hquiet _ (hcarried.withHost made machine host hproperty)
  | seedStack values => exact hquiet _ (hcarried.seedStack made machine values hproperty)
  | seedHeap cells => exact hquiet _ (hcarried.seedHeap made machine cells hproperty)
  | raiseInterrupt => exact hquiet _ (hcarried.raiseInterrupt made machine hproperty)
  | step => exact hcarried.step made machine hproperty
  | run => exact hcarried.stepwise.run hproperty
  | runLimited limit =>
      exact hcarried.flushed _ _ (hcarried.stepwise.advance hproperty _)
  | reset => exact absurd rfl hkeeps

theorem Carried.replay {property : List Machine -> Machine -> Prop} (hcarried : Carried property)
    {made : List Machine} {machine : Machine} (hproperty : property made machine)
    {operations : List Operation}
    (hkeeps : forall operation, operation ∈ operations -> operation ≠ .reset) :
    property (made ++ machine.attempts operations) (machine.replay operations) := by
  induction operations generalizing made machine with
  | nil =>
      rw [attempts, List.append_nil]
      exact hproperty
  | cons operation rest ih =>
      have hnext := hcarried.operate hproperty (hkeeps operation List.mem_cons_self)
      rw [attempts, ← List.append_assoc]
      exact ih hnext fun other hmem => hkeeps other (List.mem_cons_of_mem operation hmem)

theorem Carried.replay_of_reset {property : Machine -> Prop}
    (hcarried : Carried fun _made machine => property machine)
    (hreset : forall machine, property machine -> property machine.reset) {machine : Machine}
    (hproperty : property machine) (operations : List Operation) :
    property (machine.replay operations) := by
  induction operations generalizing machine with
  | nil => exact hproperty
  | cons operation rest ih =>
      apply ih
      by_cases hoperation : operation = .reset
      · rw [hoperation]
        exact hreset machine hproperty
      · exact @Carried.operate _ hcarried [] machine hproperty operation hoperation

theorem destination_replay (machine : Machine) (operations : List Operation) :
    (machine.replay operations).memory.output.destination =
      machine.memory.output.destination := by
  have hcarried : Carried fun _made other =>
      other.memory.output.destination = machine.memory.output.destination :=
    { step := fun _made other hkept => (destination_step other).trans hkept
      withHost := fun _made _other _host hkept => hkept
      seedStack := fun _made _other _values hkept => hkept
      seedHeap := fun _made _other _cells hkept => hkept
      raiseInterrupt := fun _made _other hkept => hkept
      stopInterrupted := fun _made _other hkept => hkept
      flushed := fun _made other hkept => (destination_flushed other).trans hkept }
  exact hcarried.replay_of_reset (fun _other hkept => hkept) rfl operations

end Machine
end Whitespace
