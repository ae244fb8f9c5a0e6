import Whitespace.Machine
import Whitespace.Proofs.Actions

/-!
# What a step does

A machine follows the flow that an instruction names.  This module says once
what can come of that, and how a run is made of steps.  Facts about runs are
drawn from here and do not open the step again.
-/

namespace Whitespace

/-!
# Executions

An instruction can fail while it acts on memory, or name a label that leads
nowhere, or be carried out.
-/

namespace Machine

inductive Execution (machine : Machine) (instruction : Instruction) :
    Except MachineError Instruction × Machine -> Prop where
  | refused (error : MachineError) (memory : Memory)
      (hperform : instruction.perform machine.host machine.memory = (.error error, memory)) :
      Execution machine instruction
        (.error error, { machine with pc := machine.pc + 1, memory := memory }.fail)
  | astray (flow : Flow) (memory : Memory) (error : MachineError)
      (hperform : instruction.perform machine.host machine.memory = (.ok flow, memory))
      (hfollow : follow { machine with pc := machine.pc + 1, memory := memory } flow =
        .error error) :
      Execution machine instruction
        (.error error, { machine with pc := machine.pc + 1, memory := memory }.fail)
  | done (flow : Flow) (memory : Memory) (followed : Machine)
      (hperform : instruction.perform machine.host machine.memory = (.ok flow, memory))
      (hfollow : follow { machine with pc := machine.pc + 1, memory := memory } flow =
        .ok followed) :
      Execution machine instruction (.ok instruction, followed.complete instruction)

theorem execute_of_refused {machine : Machine} {instruction : Instruction} {error : MachineError}
    {memory : Memory}
    (hperform : instruction.perform machine.host machine.memory = (.error error, memory)) :
    machine.execute instruction =
      (.error error, { machine with pc := machine.pc + 1, memory := memory }.fail) := by
  rw [execute, hperform]

theorem execute_of_astray {machine : Machine} {instruction : Instruction} {error : MachineError}
    {flow : Flow} {memory : Memory}
    (hperform : instruction.perform machine.host machine.memory = (.ok flow, memory))
    (hfollow : follow { machine with pc := machine.pc + 1, memory := memory } flow =
      .error error) :
    machine.execute instruction =
      (.error error, { machine with pc := machine.pc + 1, memory := memory }.fail) := by
  simp only [execute, hperform, hfollow]

theorem execute_of_done {machine followed : Machine} {instruction : Instruction} {flow : Flow}
    {memory : Memory}
    (hperform : instruction.perform machine.host machine.memory = (.ok flow, memory))
    (hfollow : follow { machine with pc := machine.pc + 1, memory := memory } flow =
      .ok followed) :
    machine.execute instruction = (.ok instruction, followed.complete instruction) := by
  simp only [execute, hperform, hfollow]

theorem execution (machine : Machine) (instruction : Instruction) :
    Execution machine instruction (machine.execute instruction) := by
  cases hperform : instruction.perform machine.host machine.memory with
  | mk result memory =>
      cases result with
      | error error =>
          rw [execute_of_refused hperform]
          exact .refused error memory hperform
      | ok flow =>
          cases hfollow : follow { machine with pc := machine.pc + 1, memory := memory } flow with
          | error error =>
              rw [execute_of_astray hperform hfollow]
              exact .astray flow memory error hperform hfollow
          | ok followed =>
              rw [execute_of_done hperform hfollow]
              exact .done flow memory followed hperform hfollow

end Machine

/-!
# Reactions

A step of a running machine fails, moves on, jumps behind a mark, enters or
leaves a subroutine, or stops the machine.  What it leaves in memory and which
warnings it adds is not described here.
-/

namespace Machine

inductive Reaction (machine : Machine) (instruction : Instruction) :
    Except MachineError Instruction × Machine -> Prop where
  | failed (error : MachineError) (memory : Memory) :
      Reaction machine instruction
        (.error error, { machine with pc := machine.pc + 1, memory := memory }.fail)
  | next (memory : Memory) (log : Array Warning) :
      Reaction machine instruction
        (.ok instruction,
          { machine with pc := machine.pc + 1, memory := memory, log := log }.complete
            instruction)
  | jumped (memory : Memory) (label index : Nat) (hlabel : machine.labels[label]? = some index) :
      Reaction machine instruction
        (.ok instruction, { machine with pc := index + 1, memory := memory }.complete instruction)
  | called (memory : Memory) (operand : Label) (index : Nat)
      (hinstruction : instruction = .label .call operand)
      (hlabel : machine.labels[operand.value]? = some index) :
      Reaction machine instruction
        (.ok instruction,
          { machine with
            pc := index + 1
            memory := memory
            calls := (machine.pc + 1) :: machine.calls }.complete instruction)
  | returned (memory : Memory) (address : Nat) (calls : List Nat)
      (hinstruction : instruction = .plain .ret) (hcalls : machine.calls = address :: calls) :
      Reaction machine instruction
        (.ok instruction,
          { machine with pc := address, memory := memory, calls := calls }.complete instruction)
  | halted (memory : Memory) (hinstruction : instruction = .plain .halt) :
      Reaction machine instruction
        (.ok instruction,
          { machine with
            pc := machine.pc + 1
            memory := memory
            status := .halted }.complete instruction)

theorem reaction_execute (machine : Machine) (instruction : Instruction) :
    Reaction machine instruction (machine.execute instruction) := by
  unfold execute
  cases hperform : instruction.perform machine.host machine.memory with
  | mk result memory =>
      cases result with
      | error error => exact .failed error memory
      | ok flow =>
          have hfits := Instruction.fits_of_perform machine.host instruction _ _ _ hperform
          cases flow with
          | next => exact .next memory machine.log
          | jump label =>
              cases hlabel : machine.labels[label]? with
              | none =>
                  simp only [follow, target, hlabel]
                  exact .failed _ memory
              | some index =>
                  simp only [follow, target, hlabel]
                  exact .jumped memory label index hlabel
          | call label =>
              rcases hfits with ⟨operand, hinstruction, hvalue⟩
              rw [← hvalue]
              cases hlabel : machine.labels[operand.value]? with
              | none =>
                  simp only [follow, target, hlabel]
                  exact .failed _ memory
              | some index =>
                  simp only [follow, target, hlabel]
                  exact .called memory operand index hinstruction hlabel
          | ret =>
              cases hcalls : machine.calls with
              | nil =>
                  simp only [follow]
                  rw [← hcalls]
                  exact .next memory _
              | cons address calls =>
                  simp only [follow]
                  exact .returned memory address calls hfits hcalls
          | halt => exact .halted memory hfits
          | unbound label => exact .next memory _

theorem step_of_running {machine : Machine} {instruction : Instruction}
    (hrunning : machine.status = .running)
    (hinstruction : machine.program[machine.pc]? = some instruction) :
    machine.step = machine.execute instruction := by
  unfold step
  rw [if_pos hrunning, hinstruction]

theorem step_of_end {machine : Machine} (hrunning : machine.status = .running)
    (hend : machine.program[machine.pc]? = none) :
    machine.step = (.error (.notRunning .finished), { machine with status := .finished }) := by
  unfold step
  rw [if_pos hrunning, hend]

theorem step_of_not_running {machine : Machine} (hstopped : machine.status ≠ .running) :
    machine.step = (.error (.notRunning machine.status), machine) := by
  unfold step
  rw [if_neg hstopped]

theorem running_complete {machine : Machine} {instruction : Instruction}
    (hrunning : machine.status = .running) (hinside : machine.pc < machine.program.size) :
    (machine.complete instruction).status = .running := by
  simp only [complete, hrunning, Nat.not_le_of_lt hinside, and_false, if_false]

theorem step_mark {machine : Machine} {operand : Label} (hrunning : machine.status = .running)
    (hmark : machine.program[machine.pc]? = some (.label .mark operand)) :
    machine.step =
      (.ok (.label .mark operand),
        { machine with pc := machine.pc + 1 }.complete (.label .mark operand)) := by
  rw [step_of_running hrunning hmark]
  rfl

theorem step_jump {machine : Machine} {operand : Label} {index : Nat}
    (hrunning : machine.status = .running)
    (hjump : machine.program[machine.pc]? = some (.label .jump operand))
    (hdefined : machine.labels[operand.value]? = some index) :
    machine.step =
      (.ok (.label .jump operand),
        { machine with pc := index + 1 }.complete (.label .jump operand)) := by
  have hperform : (Instruction.label .jump operand).perform machine.host machine.memory =
      (.ok (.jump operand.value), machine.memory) := rfl
  rw [step_of_running hrunning hjump, execute, hperform]
  simp only [follow, target, hdefined]
  rfl

theorem reaction_step {machine : Machine} {instruction : Instruction}
    (hrunning : machine.status = .running)
    (hinstruction : machine.program[machine.pc]? = some instruction) :
    Reaction machine instruction machine.step := by
  rw [step_of_running hrunning hinstruction]
  exact reaction_execute machine instruction

theorem running_of_step_ok {machine next : Machine} {instruction : Instruction}
    (hstep : machine.step = (.ok instruction, next)) :
    machine.status = .running ∧ machine.program[machine.pc]? = some instruction := by
  by_cases hrunning : machine.status = .running
  · refine ⟨hrunning, ?_⟩
    cases hinstruction : machine.program[machine.pc]? with
    | none =>
        rw [step_of_end hrunning hinstruction] at hstep
        cases hstep
    | some other =>
        have hreaction := reaction_step hrunning hinstruction
        rw [hstep] at hreaction
        cases hreaction <;> rfl
  · rw [step_of_not_running hrunning] at hstep
    cases hstep

theorem reaction_of_step_ok {machine next : Machine} {instruction : Instruction}
    (hstep : machine.step = (.ok instruction, next)) :
    Reaction machine instruction (.ok instruction, next) := by
  rcases running_of_step_ok hstep with ⟨hrunning, hinstruction⟩
  rw [← hstep]
  exact reaction_step hrunning hinstruction

theorem eq_of_follow {machine followed : Machine} {flow : Flow}
    (hfollow : machine.follow flow = .ok followed) :
    followed =
      { machine with
        pc := followed.pc
        status := followed.status
        calls := followed.calls
        log := followed.log } := by
  cases flow with
  | next =>
      cases hfollow
      rfl
  | jump label =>
      simp only [follow] at hfollow
      cases htarget : machine.target label with
      | error error =>
          rw [htarget] at hfollow
          cases hfollow
      | ok pc =>
          rw [htarget] at hfollow
          cases hfollow
          rfl
  | call label =>
      simp only [follow] at hfollow
      cases htarget : machine.target label with
      | error error =>
          rw [htarget] at hfollow
          cases hfollow
      | ok pc =>
          rw [htarget] at hfollow
          cases hfollow
          rfl
  | ret =>
      simp only [follow] at hfollow
      split at hfollow
      · cases hfollow
        rfl
      · cases hfollow
        rfl
  | halt =>
      cases hfollow
      rfl
  | unbound label =>
      cases hfollow
      rfl

theorem memory_execute (machine : Machine) (instruction : Instruction) :
    (machine.execute instruction).2.memory =
      (instruction.perform machine.host machine.memory).2 := by
  have hexecution := execution machine instruction
  generalize machine.execute instruction = outcome at hexecution
  cases hexecution with
  | refused error memory hperform =>
      rw [hperform]
      rfl
  | astray flow memory error hperform hfollow =>
      rw [hperform]
      rfl
  | done flow memory followed hperform hfollow =>
      rw [hperform, eq_of_follow hfollow]
      rfl

theorem follow_withMemory (machine : Machine) (memory : Memory) (flow : Flow) :
    { machine with memory := memory }.follow flow =
      (machine.follow flow).map fun followed => { followed with memory := memory } := by
  have htarget : forall label, { machine with memory := memory }.target label =
      machine.target label := fun _ => rfl
  cases flow with
  | next => rfl
  | jump label =>
      simp only [follow, htarget]
      cases machine.target label <;> rfl
  | call label =>
      simp only [follow, htarget]
      cases machine.target label <;> rfl
  | ret =>
      simp only [follow]
      split
      · rfl
      · rfl
  | halt => rfl
  | unbound label => rfl

/-- In other memory on which the instruction gives the same result, executing it does the same to
all the rest. -/
theorem execute_withMemory {machine : Machine} {instruction : Instruction}
    {memory after : Memory}
    (hperform : instruction.perform machine.host memory =
      ((instruction.perform machine.host machine.memory).1, after)) :
    { machine with memory := memory }.execute instruction =
      ((machine.execute instruction).1,
        { (machine.execute instruction).2 with memory := after }) := by
  simp only [execute, hperform]
  cases instruction.perform machine.host machine.memory with
  | mk result usual =>
      cases result with
      | error error => rfl
      | ok flow =>
          have hsame := follow_withMemory
            { machine with pc := machine.pc + 1, memory := usual } after flow
          dsimp only at hsame ⊢
          rw [hsame]
          cases follow { machine with pc := machine.pc + 1, memory := usual } flow <;> rfl

theorem view_step {γ : Type} {view : Memory -> γ} (hstack : Action.IgnoresStack view)
    (hheap : Action.IgnoresHeap view) (hwritten : Action.IgnoresWritten view)
    (hinput : Action.IgnoresInput view) (machine : Machine) :
    view machine.step.2.memory = view machine.memory := by
  by_cases hrunning : machine.status = .running
  · cases hinstruction : machine.program[machine.pc]? with
    | none => rw [step_of_end hrunning hinstruction]
    | some instruction =>
        rw [step_of_running hrunning hinstruction, memory_execute]
        exact Instruction.keeps_perform_of_ignores machine.host instruction hstack hheap hwritten
          hinput machine.memory
  · rw [step_of_not_running hrunning]

theorem destination_step (machine : Machine) :
    machine.step.2.memory.output.destination = machine.memory.output.destination :=
  @view_step _ (fun memory => memory.output.destination) (fun _ _ => rfl) (fun _ _ => rfl)
    (fun _ _ _ => rfl) (fun _ _ _ => rfl) machine

theorem destination_flushed (machine : Machine) :
    machine.flushed.memory.output.destination = machine.memory.output.destination := by
  rw [flushed, Output.flush_snd]

theorem program_step (machine : Machine) : machine.step.2.program = machine.program := by
  by_cases hrunning : machine.status = .running
  · cases hinstruction : machine.program[machine.pc]? with
    | none => rw [step_of_end hrunning hinstruction]
    | some instruction =>
        have hreaction := reaction_step hrunning hinstruction
        generalize machine.step = outcome at hreaction
        cases hreaction <;> rfl
  · rw [step_of_not_running hrunning]

theorem stopped_of_step_error {machine next : Machine} {error : MachineError}
    (hstep : machine.step = (.error error, next)) :
    next.steps = machine.steps ∧ next.status ≠ .running := by
  by_cases hrunning : machine.status = .running
  · cases hat : machine.program[machine.pc]? with
    | none =>
        rw [step_of_end hrunning hat] at hstep
        cases hstep
        exact ⟨rfl, Status.noConfusion⟩
    | some instruction =>
        have hreaction := reaction_step hrunning hat
        rw [hstep] at hreaction
        cases hreaction with
        | failed error memory => exact ⟨rfl, Status.noConfusion⟩
  · rw [step_of_not_running hrunning] at hstep
    cases hstep
    exact ⟨rfl, hrunning⟩

/-!
# Sequences of steps

A run makes successful steps and then stops: it has made enough of them or the
machine stands still, the interrupt flag is up, or the next step fails.
-/

/-- The machine after a number of steps, whether they succeed or fail. -/
def after (machine : Machine) : Nat -> Machine
  | 0 => machine
  | count + 1 => (machine.after count).step.2

inductive Steps : Machine -> Machine -> Prop where
  | refl (machine : Machine) : Steps machine machine
  | head {machine next last : Machine} {instruction : Instruction}
      (hstep : machine.step = (.ok instruction, next)) (hrest : Steps next last) :
      Steps machine last

inductive RunEnd (machine : Machine) : Except MachineError Unit × Machine -> Prop where
  | paused (last : Machine) (hsteps : Steps machine last) : RunEnd machine (.ok (), last)
  | interrupted (last : Machine) (hsteps : Steps machine last)
      (hrunning : last.status = .running) : RunEnd machine (.ok (), last.stopInterrupted)
  | failed (last next : Machine) (error : MachineError) (hsteps : Steps machine last)
      (hrunning : last.status = .running) (hstep : last.step = (.error error, next)) :
      RunEnd machine (.error error, next)

theorem RunEnd.head {machine next : Machine} {instruction : Instruction}
    {ending : Except MachineError Unit × Machine}
    (hstep : machine.step = (.ok instruction, next)) (hend : RunEnd next ending) :
    RunEnd machine ending := by
  cases hend with
  | paused last hsteps => exact .paused last (.head hstep hsteps)
  | interrupted last hsteps hrunning => exact .interrupted last (.head hstep hsteps) hrunning
  | failed last stopped error hsteps hrunning hfailed =>
      exact .failed last stopped error (.head hstep hsteps) hrunning hfailed

theorem advance_of_not_running (count : Nat) {machine : Machine}
    (hstopped : machine.status ≠ .running) : advance count machine = (.ok (), machine) := by
  cases count with
  | zero => rfl
  | succ count => rw [advance, if_neg hstopped]

theorem advance_of_interrupt (count : Nat) {machine : Machine}
    (hrunning : machine.status = .running) (hflag : machine.interrupt = true) :
    advance (count + 1) machine = (.ok (), machine.stopInterrupted) := by
  rw [advance, if_pos hrunning, if_pos hflag]

theorem advance_of_step_ok (count : Nat) {machine next : Machine} {instruction : Instruction}
    (hflag : machine.interrupt = false) (hstep : machine.step = (.ok instruction, next)) :
    advance (count + 1) machine = advance count next := by
  have hrunning := (running_of_step_ok hstep).left
  rw [advance, if_pos hrunning, hflag, hstep]
  rfl

theorem advance_of_step_error (count : Nat) {machine next : Machine} {error : MachineError}
    (hrunning : machine.status = .running) (hflag : machine.interrupt = false)
    (hstep : machine.step = (.error error, next)) :
    advance (count + 1) machine = (.error error, next) := by
  rw [advance, if_pos hrunning, hflag, hstep]
  rfl

inductive Turn (machine : Machine) : Prop where
  | stopped (hstopped : machine.status ≠ .running)
  | interrupted (hrunning : machine.status = .running) (hflag : machine.interrupt = true)
  | failed (error : MachineError) (next : Machine) (hrunning : machine.status = .running)
      (hflag : machine.interrupt = false) (hstep : machine.step = (.error error, next))
  | moved (instruction : Instruction) (next : Machine) (hflag : machine.interrupt = false)
      (hstep : machine.step = (.ok instruction, next))

theorem turn (machine : Machine) : Turn machine := by
  by_cases hrunning : machine.status = .running
  · cases hflag : machine.interrupt with
    | true => exact .interrupted hrunning hflag
    | false =>
        cases hstep : machine.step with
        | mk result next =>
            cases result with
            | error error => exact .failed error next hrunning hflag hstep
            | ok instruction => exact .moved instruction next hflag hstep
  · exact .stopped hrunning

theorem runEnd_advance (count : Nat) (machine : Machine) :
    RunEnd machine (advance count machine) := by
  induction count generalizing machine with
  | zero => exact .paused machine (.refl machine)
  | succ count ih =>
      cases turn machine with
      | stopped hstopped =>
          rw [advance_of_not_running _ hstopped]
          exact .paused machine (.refl machine)
      | interrupted hrunning hflag =>
          rw [advance_of_interrupt count hrunning hflag]
          exact .interrupted machine (.refl machine) hrunning
      | failed error next hrunning hflag hstep =>
          rw [advance_of_step_error count hrunning hflag hstep]
          exact .failed machine next error (.refl machine) hrunning hstep
      | moved instruction next hflag hstep =>
          rw [advance_of_step_ok count hflag hstep]
          exact (ih next).head hstep

theorem destination_of_steps {machine last : Machine} (hsteps : Steps machine last) :
    last.memory.output.destination = machine.memory.output.destination := by
  induction hsteps with
  | refl machine => rfl
  | @head machine next last instruction hstep _hrest ih =>
      have hfirst := destination_step machine
      rw [hstep] at hfirst
      exact ih.trans hfirst

theorem destination_advance (count : Nat) (machine : Machine) :
    (advance count machine).2.memory.output.destination =
      machine.memory.output.destination := by
  have hend := runEnd_advance count machine
  generalize advance count machine = ending at hend
  cases hend with
  | paused last hsteps => exact destination_of_steps hsteps
  | interrupted last hsteps hrunning =>
      exact @destination_of_steps machine last hsteps
  | failed last next error hsteps hrunning hstep =>
      have hlast := destination_step last
      rw [hstep] at hlast
      exact hlast.trans (destination_of_steps hsteps)

/-!
# Runs without a bound

What steps without a bound lead to, some number of steps leads to, after which the
machine stands still.
-/

theorem acc_goesOn {count : Nat} {machine : Machine}
    (hstopped : (advance count machine).2.status ≠ .running) : Acc GoesOn machine := by
  induction count generalizing machine with
  | zero =>
      constructor
      intro next hgoes
      exact absurd hgoes.left hstopped
  | succ count ih =>
      constructor
      intro next hgoes
      apply ih
      rw [← advance_of_goesOn hgoes]
      exact hstopped

section Pass

variable {machine : Machine} (further : forall next, GoesOn next machine -> Advanced next)

theorem pass_of_not_running (hstopped : machine.status ≠ .running) :
    (pass machine further).ending = (.ok (), machine) := by
  rw [pass, dif_neg hstopped]

theorem pass_of_interrupt (hrunning : machine.status = .running)
    (hflag : machine.interrupt = true) :
    (pass machine further).ending = (.ok (), machine.stopInterrupted) := by
  rw [pass, dif_pos hrunning, dif_pos hflag]

theorem pass_of_step_error {next : Machine} {error : MachineError}
    (hrunning : machine.status = .running) (hflag : machine.interrupt = false)
    (hstep : machine.step = (.error error, next)) :
    (pass machine further).ending = (.error error, next) := by
  rw [pass, dif_pos hrunning, dif_neg (Bool.eq_false_iff.mp hflag)]
  split
  · next hmoved =>
      rw [hstep] at hmoved
      cases hmoved
  · next hfailed =>
      rw [hstep] at hfailed
      cases hfailed
      rfl

theorem pass_of_goesOn {next : Machine} (hgoes : GoesOn next machine) :
    (pass machine further).ending = (further next hgoes).ending := by
  rcases hgoes with ⟨hrunning, hflag, instruction, hstep⟩
  rw [pass, dif_pos hrunning, dif_neg (Bool.eq_false_iff.mp hflag)]
  split
  · next hmoved =>
      have hsame := hmoved
      rw [hstep] at hsame
      cases hsame
      rfl
  · next hfailed =>
      rw [hstep] at hfailed
      cases hfailed

end Pass

theorem advanceUntilStopped_eq {count : Nat} {machine : Machine}
    (hstopped : (advance count machine).2.status ≠ .running) :
    machine.advanceUntilStopped = pass machine fun next _hgoes => next.advanceUntilStopped :=
  WellFounded.partialExtrinsicFix_eq_apply_of_acc (acc_goesOn hstopped)

theorem ending_advanceUntilStopped {count : Nat} {machine : Machine}
    (hstopped : (advance count machine).2.status ≠ .running) :
    machine.advanceUntilStopped.ending = advance count machine := by
  induction count generalizing machine with
  | zero =>
      rw [advanceUntilStopped_eq hstopped]
      exact pass_of_not_running _ hstopped
  | succ count ih =>
      rw [advanceUntilStopped_eq hstopped]
      cases turn machine with
      | stopped hstands =>
          rw [pass_of_not_running _ hstands, advance_of_not_running _ hstands]
      | interrupted hrunning hflag =>
          rw [pass_of_interrupt _ hrunning hflag, advance_of_interrupt count hrunning hflag]
      | failed error next hrunning hflag hstep =>
          rw [pass_of_step_error _ hrunning hflag hstep,
            advance_of_step_error count hrunning hflag hstep]
      | moved instruction next hflag hstep =>
          have hgoes : GoesOn next machine :=
            ⟨(running_of_step_ok hstep).left, hflag, instruction, hstep⟩
          rw [advance_of_goesOn hgoes] at hstopped ⊢
          rw [pass_of_goesOn _ hgoes]
          exact ih hstopped

theorem advanceFully_of_advance {count : Nat} {machine : Machine}
    (hstopped : (advance count machine).2.status ≠ .running) :
    machine.advanceFully = some (advance count machine) := by
  simp only [advanceFully, ending_advanceUntilStopped hstopped, if_neg hstopped]

theorem exists_advance_of_advanceFully {machine : Machine}
    {ending : Except MachineError Unit × Machine} (hfully : machine.advanceFully = some ending) :
    exists count, advance count machine = ending ∧ ending.2.status ≠ .running := by
  rcases machine.advanceUntilStopped.reached with ⟨count, hreached⟩
  by_cases hrunning : machine.advanceUntilStopped.ending.2.status = .running
  · simp only [advanceFully, if_pos hrunning] at hfully
    cases hfully
  · simp only [advanceFully, if_neg hrunning] at hfully
    cases hfully
    exact ⟨count, hreached, hrunning⟩

/-- What a run without a bound comes down to: a number of steps, or nothing at all. -/
theorem run_cases (machine : Machine) :
    (exists count, (advance count machine).2.status ≠ .running ∧
      machine.run? = some (finish machine.steps (advance count machine))) ∨
    machine.run? = none := by
  cases hfully : machine.advanceFully with
  | none => exact Or.inr (by rw [run?, hfully]; rfl)
  | some ending =>
      rcases exists_advance_of_advanceFully hfully with ⟨count, hadvance, hstopped⟩
      rw [← hadvance] at hstopped hfully
      exact Or.inl ⟨count, hstopped, by rw [run?, hfully]; rfl⟩

theorem run_of_advance {count : Nat} {machine : Machine}
    (hstopped : (advance count machine).2.status ≠ .running) :
    machine.run = finish machine.steps (advance count machine) := by
  rw [run, run?, advanceFully_of_advance hstopped]
  rfl

end Machine
end Whitespace
