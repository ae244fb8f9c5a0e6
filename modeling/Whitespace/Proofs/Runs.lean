import Whitespace.Proofs.Flushes

/-!
# Runs and steps

A run with a bound is the same work as single steps, wherever it is cut in two.
What a call reports needs more care than what it does: a call whose steps succeed
still fails when the output refuses to be flushed at its end, and cutting a run
in two means one more flush.
-/

namespace Whitespace
namespace Machine

/-!
# What a step leaves alone

A successful step is counted and its instruction is remembered.  No step touches
the interrupt flag.
-/

theorem steps_of_step_ok {machine next : Machine} {instruction : Instruction}
    (hstep : machine.step = (.ok instruction, next)) : next.steps = machine.steps + 1 := by
  cases reaction_of_step_ok hstep with
  | next memory log => rfl
  | jumped memory label index hlabel => rfl
  | called memory operand index hcall hlabel => rfl
  | returned memory address calls hret hcalls => rfl
  | halted memory hhalt => rfl

theorem interrupt_of_step_ok {machine next : Machine} {instruction : Instruction}
    (hstep : machine.step = (.ok instruction, next)) : next.interrupt = machine.interrupt := by
  cases reaction_of_step_ok hstep with
  | next memory log => rfl
  | jumped memory label index hlabel => rfl
  | called memory operand index hcall hlabel => rfl
  | returned memory address calls hret hcalls => rfl
  | halted memory hhalt => rfl

theorem last_of_step_ok {machine next : Machine} {instruction : Instruction}
    (hstep : machine.step = (.ok instruction, next)) : next.last = some instruction := by
  cases reaction_of_step_ok hstep with
  | next memory log => rfl
  | jumped memory label index hlabel => rfl
  | called memory operand index hcall hlabel => rfl
  | returned memory address calls hret hcalls => rfl
  | halted memory hhalt => rfl

/-!
# Advancing

What holds of one step is carried along the recursion on the bound.
-/

theorem steps_advance (count : Nat) (machine : Machine) :
    machine.steps ≤ (advance count machine).2.steps ∧
      (advance count machine).2.steps ≤ machine.steps + count := by
  induction count generalizing machine with
  | zero => exact ⟨Nat.le_refl _, Nat.le_refl _⟩
  | succ count ih =>
      cases turn machine with
      | stopped hstopped =>
          rw [advance_of_not_running _ hstopped]
          exact ⟨Nat.le_refl _, Nat.le_add_right _ _⟩
      | interrupted hrunning hflag =>
          rw [advance_of_interrupt count hrunning hflag]
          exact ⟨Nat.le_refl _, Nat.le_add_right _ _⟩
      | failed error next hrunning hflag hstep =>
          rw [advance_of_step_error count hrunning hflag hstep,
            (stopped_of_step_error hstep).left]
          exact ⟨Nat.le_refl _, Nat.le_add_right _ _⟩
      | moved instruction next hflag hstep =>
          rw [advance_of_step_ok count hflag hstep]
          have hnext := ih next
          have hcounted := steps_of_step_ok hstep
          omega

theorem status_of_advance_error {count : Nat} {machine stopped : Machine} {error : MachineError}
    (hadvance : advance count machine = (.error error, stopped)) : stopped.status ≠ .running := by
  have hend := runEnd_advance count machine
  rw [hadvance] at hend
  cases hend with
  | failed last next error hsteps hrunning hstep => exact (stopped_of_step_error hstep).right

theorem steps_of_advance_running {count : Nat} {machine : Machine}
    (hrunning : (advance count machine).2.status = .running) :
    (advance count machine).2.steps = machine.steps + count := by
  induction count generalizing machine with
  | zero => rfl
  | succ count ih =>
      cases turn machine with
      | stopped hstopped =>
          rw [advance_of_not_running _ hstopped] at hrunning
          exact absurd hrunning hstopped
      | interrupted hstart hflag =>
          rw [advance_of_interrupt count hstart hflag] at hrunning
          cases hrunning
      | failed error next hstart hflag hstep =>
          rw [advance_of_step_error count hstart hflag hstep] at hrunning
          exact absurd hrunning (stopped_of_step_error hstep).right
      | moved instruction next hflag hstep =>
          rw [advance_of_step_ok count hflag hstep] at hrunning ⊢
          have hnext := ih hrunning
          have hcounted := steps_of_step_ok hstep
          omega

/-!
# Cutting a run in two
-/

theorem advance_add_of_error {first : Nat} {machine stopped : Machine} {error : MachineError}
    (second : Nat) (hfirst : advance first machine = (.error error, stopped)) :
    advance (first + second) machine = (.error error, stopped) := by
  induction first generalizing machine with
  | zero => cases hfirst
  | succ first ih =>
      rw [Nat.add_right_comm]
      cases turn machine with
      | stopped hstopped =>
          rw [advance_of_not_running _ hstopped] at hfirst
          cases hfirst
      | interrupted hrunning hflag =>
          rw [advance_of_interrupt first hrunning hflag] at hfirst
          cases hfirst
      | failed other next hrunning hflag hstep =>
          rw [advance_of_step_error first hrunning hflag hstep] at hfirst
          rw [advance_of_step_error _ hrunning hflag hstep]
          exact hfirst
      | moved instruction next hflag hstep =>
          rw [advance_of_step_ok first hflag hstep] at hfirst
          rw [advance_of_step_ok _ hflag hstep]
          exact ih hfirst

theorem advance_add_of_ok {first : Nat} {machine middle : Machine} (second : Nat)
    (hfirst : advance first machine = (.ok (), middle)) :
    advance (first + second) machine = advance second middle := by
  induction first generalizing machine with
  | zero =>
      cases hfirst
      rw [Nat.zero_add]
  | succ first ih =>
      rw [Nat.add_right_comm]
      cases turn machine with
      | stopped hstopped =>
          rw [advance_of_not_running _ hstopped] at hfirst
          cases hfirst
          rw [advance_of_not_running _ hstopped, advance_of_not_running _ hstopped]
      | interrupted hrunning hflag =>
          rw [advance_of_interrupt first hrunning hflag] at hfirst
          cases hfirst
          rw [advance_of_interrupt _ hrunning hflag]
          exact (advance_of_not_running second Status.noConfusion).symm
      | failed error next hrunning hflag hstep =>
          rw [advance_of_step_error first hrunning hflag hstep] at hfirst
          cases hfirst
      | moved instruction next hflag hstep =>
          rw [advance_of_step_ok first hflag hstep] at hfirst
          rw [advance_of_step_ok _ hflag hstep]
          exact ih hfirst

theorem advance_add_of_stopped {first : Nat} {machine : Machine} (second : Nat)
    (hstopped : (advance first machine).2.status ≠ .running) :
    advance (first + second) machine = advance first machine := by
  cases hfirst : advance first machine with
  | mk result middle =>
      rw [hfirst] at hstopped
      cases result with
      | error error => exact advance_add_of_error second hfirst
      | ok _ =>
          rw [advance_add_of_ok second hfirst]
          exact advance_of_not_running second hstopped

theorem advance_eq_of_stopped {count limit : Nat} {machine : Machine}
    (hstopped : (advance count machine).2.status ≠ .running)
    (hlimit : (advance count machine).2.steps - machine.steps < limit) :
    advance limit machine = advance count machine := by
  rcases Nat.le_total count limit with hlarger | hsmaller
  · rcases Nat.exists_eq_add_of_le hlarger with ⟨more, hmore⟩
    rw [hmore]
    exact advance_add_of_stopped more hstopped
  · rcases Nat.exists_eq_add_of_le hsmaller with ⟨more, hmore⟩
    rw [hmore] at hlimit ⊢
    by_cases hrunning : (advance limit machine).2.status = .running
    · -- The smaller bound would be used up, so the whole run makes at least that many steps.
      have hused := steps_of_advance_running hrunning
      cases hfirst : advance limit machine with
      | mk result middle =>
          rw [hfirst] at hused hrunning
          dsimp only at hused
          cases result with
          | error error => exact absurd hrunning (status_of_advance_error hfirst)
          | ok _ =>
              rw [advance_add_of_ok more hfirst] at hlimit
              have hmiddle := (steps_advance more middle).left
              omega
    · exact (advance_add_of_stopped more hrunning).symm

/-!
# Results of runs

The result of a call is read off the machine in which its steps end.
-/

theorem runLimited_of_room {machine : Machine} {limit : Nat}
    (hroom : machine.steps + limit ≤ wordMax) :
    machine.runLimited limit = finish machine.steps (advance limit machine) := by
  have hmin : min limit (wordMax - machine.steps) = limit := by omega
  rw [runLimited, hmin]

theorem runResult_of_accepted {start : Nat} {machine : Machine}
    (haccepted : machine.memory.output.flush.1 = .ok ()) :
    runResult start machine (.ok ()) = .ok (machine.steps - start) := by
  simp only [runResult, haccepted]

theorem runResult_of_refused {start : Nat} {machine : Machine} {fault : String}
    (hrefused : machine.memory.output.flush.1 = .error fault) :
    runResult start machine (.ok ()) = .error (.io fault) := by
  simp only [runResult, hrefused]

/-- A report about a whole run, of which another report is about what follows so many steps. -/
def Continues (made : Nat) (later whole : Except MachineError Nat) : Prop :=
  (forall more, later = .ok more ↔ whole = .ok (made + more)) ∧
    (forall error, later = .error error ↔ whole = .error error)

theorem continues_error (made : Nat) (error : MachineError) :
    Continues made (.error error) (.error error) := by
  constructor
  · intro more
    constructor
    · intro hmore
      cases hmore
    · intro hmore
      cases hmore
  · intro other
    exact Iff.rfl

theorem continues_ok (made more : Nat) : Continues made (.ok more) (.ok (made + more)) := by
  constructor
  · intro other
    simp only [Except.ok.injEq]
    omega
  · intro error
    constructor
    · intro herror
      cases herror
    · intro herror
      cases herror

theorem continues_runResult {earlier start : Nat} {machine : Machine}
    (hearlier : earlier ≤ start) (hstart : start ≤ machine.steps)
    (result : Except MachineError Unit) :
    Continues (start - earlier) (runResult start machine result)
      (runResult earlier machine result) := by
  cases result with
  | error error => exact continues_error _ error
  | ok _ =>
      cases hflush : machine.memory.output.flush.1 with
      | error fault =>
          rw [runResult_of_refused hflush, runResult_of_refused hflush]
          exact continues_error _ _
      | ok _ =>
          have hcount : machine.steps - earlier = start - earlier + (machine.steps - start) := by
            omega
          rw [runResult_of_accepted hflush, runResult_of_accepted hflush, hcount]
          exact continues_ok _ _

/-!
# Cutting a call in two

A second call starts where the first one has flushed the output.  Where the
destination takes no notice of that, it does what the steps without the flush do.
-/

section Cut

variable {machine : Machine} {first second : Nat}

theorem runLimited_flushed (hseamless : machine.memory.output.destination.IsSeamless)
    (hroom : machine.steps + first + second ≤ wordMax) :
    (advance first machine).2.flushed.runLimited second =
      finish (advance first machine).2.steps (advance second (advance first machine).2) := by
  have hsteps := (steps_advance first machine).right
  have hflushed : (advance first machine).2.flushed.steps = (advance first machine).2.steps := rfl
  rw [← destination_advance first machine] at hseamless
  rw [runLimited_of_room (by omega), hflushed]
  exact finish_advance_flushed hseamless _ _

theorem runLimited_twice (hseamless : machine.memory.output.destination.IsSeamless)
    (hroom : machine.steps + first + second ≤ wordMax) :
    ((machine.runLimited first).2.runLimited second).2 =
      (machine.runLimited (first + second)).2 := by
  have hfirst : (machine.runLimited first).2 = (advance first machine).2.flushed := by
    rw [runLimited_of_room (by omega), finish]
  rw [hfirst, runLimited_flushed hseamless hroom, runLimited_of_room (by omega)]
  cases hsteps : advance first machine with
  | mk result middle =>
      cases result with
      | ok _ =>
          rw [advance_add_of_ok second hsteps]
          rfl
      | error error =>
          rw [advance_of_not_running second (status_of_advance_error hsteps),
            advance_add_of_error second hsteps]
          rfl

theorem continues_of_ok (hseamless : machine.memory.output.destination.IsSeamless)
    (hroom : machine.steps + first + second ≤ wordMax)
    (hfirst : (advance first machine).1 = .ok ()) :
    Continues ((machine.runLimited first).2.steps - machine.steps)
      ((machine.runLimited first).2.runLimited second).1
      (machine.runLimited (first + second)).1 := by
  have hmiddle : (machine.runLimited first).2 = (advance first machine).2.flushed := by
    rw [runLimited_of_room (by omega), finish]
  have hadvance : advance first machine = (.ok (), (advance first machine).2) := by
    rw [← hfirst]
  rw [hmiddle, runLimited_flushed hseamless hroom, runLimited_of_room (by omega),
    advance_add_of_ok second hadvance]
  exact continues_runResult (steps_advance first machine).left
    (steps_advance second _).left _

theorem runLimited_of_ok (hroom : machine.steps + first ≤ wordMax)
    (hfirst : (advance first machine).1 = .ok ()) :
    (machine.runLimited first).1 = .ok ((machine.runLimited first).2.steps - machine.steps) ∨
      exists fault, (advance first machine).2.memory.output.flush.1 = .error fault ∧
        (machine.runLimited first).1 = .error (.io fault) := by
  have hadvance : advance first machine = (.ok (), (advance first machine).2) := by
    rw [← hfirst]
  rw [runLimited_of_room hroom]
  cases hflush : (advance first machine).2.memory.output.flush.1 with
  | ok _ =>
      apply Or.inl
      rw [hadvance]
      exact runResult_of_accepted hflush
  | error fault =>
      refine Or.inr ⟨fault, rfl, ?_⟩
      rw [hadvance]
      exact runResult_of_refused hflush

theorem counted_of_ok {made : Nat} (hroom : machine.steps + first ≤ wordMax)
    (hmade : (machine.runLimited first).1 = .ok made) :
    (advance first machine).1 = .ok () ∧
      made = (machine.runLimited first).2.steps - machine.steps := by
  cases hfirst : (advance first machine).1 with
  | error error =>
      rw [runLimited_of_room hroom, finish, hfirst] at hmade
      cases hmade
  | ok _ =>
      rcases runLimited_of_ok hroom hfirst with hcounted | ⟨fault, _hflush, hrefused⟩
      · rw [hcounted] at hmade
        cases hmade
        exact ⟨rfl, rfl⟩
      · rw [hrefused] at hmade
        cases hmade

theorem runLimited_add_of_stopped {error : MachineError}
    (hroom : machine.steps + first + second ≤ wordMax)
    (herror : (machine.runLimited first).1 = .error error)
    (hstopped : (machine.runLimited first).2.status ≠ .running) :
    (machine.runLimited (first + second)).1 = .error error := by
  rw [runLimited_of_room (by omega)] at herror hstopped
  rw [runLimited_of_room (by omega), advance_add_of_stopped second hstopped]
  exact herror

/-- A call that fails and leaves the machine running was only refused its flush. -/
theorem refused_of_running {error : MachineError} (hroom : machine.steps + first ≤ wordMax)
    (herror : (machine.runLimited first).1 = .error error)
    (hrunning : (machine.runLimited first).2.status = .running) :
    (advance first machine).1 = .ok () ∧
      exists fault, (advance first machine).2.memory.output.flush.1 = .error fault ∧
        error = .io fault := by
  cases hfirst : (advance first machine).1 with
  | error other =>
      have hadvance : advance first machine = (.error other, (advance first machine).2) := by
        rw [← hfirst]
      rw [runLimited_of_room hroom] at hrunning
      have hstopped := status_of_advance_error hadvance
      exact absurd hrunning hstopped
  | ok _ =>
      rcases runLimited_of_ok hroom hfirst with hcounted | ⟨fault, hflush, hrefused⟩
      · rw [hcounted] at herror
        cases herror
      · rw [hrefused] at herror
        cases herror
        exact ⟨rfl, fault, hflush, rfl⟩

end Cut

theorem runLimited_eq_of_run? {machine last : Machine} {result : Except MachineError Nat}
    {limit : Nat} (hrun : machine.run? = some (result, last)) (hroom : last.steps < wordMax)
    (hlimit : last.steps - machine.steps < limit) :
    machine.runLimited limit = (result, last) := by
  rcases run_cases machine with ⟨count, hstopped, hfinished⟩ | hendless
  · rw [hrun] at hfinished
    cases hfinished
    have hsteps : (advance count machine).2.flushed.steps = (advance count machine).2.steps := rfl
    rw [hsteps] at hroom hlimit
    have hstart := (steps_advance count machine).left
    rw [runLimited, advance_eq_of_stopped hstopped (by omega)]
    rfl
  · rw [hrun] at hendless
    cases hendless

/-!
# Changes that runs carry along

A run looks at the status of the machine, at its flag, its count of steps and its
output.  A change that leaves these alone and is carried along by every step and
by a flush is carried along by runs.
-/

structure Commutes (change : Machine -> Machine) (rename : Instruction -> Instruction) :
    Prop where
  status : forall machine, (change machine).status = machine.status
  interrupt : forall machine, (change machine).interrupt = machine.interrupt
  steps : forall machine, (change machine).steps = machine.steps
  output : forall machine, (change machine).memory.output = machine.memory.output
  stopInterrupted : forall machine,
    (change machine).stopInterrupted = change machine.stopInterrupted
  flushed : forall machine, (change machine).flushed = change machine.flushed
  step : forall machine,
    (change machine).step = (machine.step.1.map rename, change machine.step.2)

theorem Commutes.advance {change : Machine -> Machine} {rename : Instruction -> Instruction}
    (hcommutes : Commutes change rename) (count : Nat) (machine : Machine) :
    Machine.advance count (change machine) =
      ((Machine.advance count machine).1, change (Machine.advance count machine).2) := by
  induction count generalizing machine with
  | zero => rfl
  | succ count ih =>
      have hstatus := hcommutes.status machine
      have hchanged := hcommutes.interrupt machine
      have hstepped := hcommutes.step machine
      cases turn machine with
      | stopped hstopped =>
          rw [advance_of_not_running _ hstopped,
            advance_of_not_running _ (by rw [hstatus]; exact hstopped)]
      | interrupted hrunning hflag =>
          rw [advance_of_interrupt count hrunning hflag,
            advance_of_interrupt count (hstatus.trans hrunning) (hchanged.trans hflag),
            hcommutes.stopInterrupted]
      | failed error next hrunning hflag hstep =>
          rw [hstep] at hstepped
          rw [advance_of_step_error count hrunning hflag hstep,
            advance_of_step_error count (hstatus.trans hrunning) (hchanged.trans hflag) hstepped]
      | moved instruction next hflag hstep =>
          rw [hstep] at hstepped
          rw [advance_of_step_ok count hflag hstep,
            advance_of_step_ok count (hchanged.trans hflag) hstepped]
          exact ih next

theorem Commutes.finish {change : Machine -> Machine} {rename : Instruction -> Instruction}
    (hcommutes : Commutes change rename) (start : Nat) (result : Except MachineError Unit)
    (stopped : Machine) :
    Machine.finish start (result, change stopped) =
      ((Machine.finish start (result, stopped)).1,
        change (Machine.finish start (result, stopped)).2) := by
  have hresult : runResult start (change stopped) result = runResult start stopped result := by
    cases result with
    | error error => rfl
    | ok _ => simp only [runResult, hcommutes.output, hcommutes.steps]
  rw [Machine.finish, Machine.finish, hresult, hcommutes.flushed]

theorem Commutes.runLimited {change : Machine -> Machine} {rename : Instruction -> Instruction}
    (hcommutes : Commutes change rename) (machine : Machine) (limit : Nat) :
    (change machine).runLimited limit =
      ((machine.runLimited limit).1, change (machine.runLimited limit).2) := by
  rw [Machine.runLimited, Machine.runLimited, hcommutes.steps, hcommutes.advance,
    hcommutes.finish]

theorem Commutes.run {change : Machine -> Machine} {rename : Instruction -> Instruction}
    (hcommutes : Commutes change rename) (machine : Machine) :
    (change machine).run = (machine.run.1, change machine.run.2) := by
  rcases run_cases machine with ⟨count, hstopped, _hrun⟩ | hendless
  · have hchanged := hcommutes.advance count machine
    have hstill : (Machine.advance count (change machine)).2.status ≠ .running := by
      rw [hchanged, hcommutes.status]
      exact hstopped
    rw [run_of_advance hstill, run_of_advance hstopped, hchanged, hcommutes.steps,
      hcommutes.finish]
  · rcases run_cases (change machine) with ⟨count, hstopped, _hrun⟩ | hchanged
    · -- The change would have to make an end of an endless run.
      rw [hcommutes.advance, hcommutes.status] at hstopped
      rw [run?, advanceFully_of_advance hstopped] at hendless
      cases hendless
    · rw [Machine.run, Machine.run, hendless, hchanged]
      rfl

/-!
# Single steps
-/

/-- Make steps, at most a number of them, until one fails or the machine does not run;
gives the number of steps that succeeded. -/
def stepUpTo : Nat -> Machine -> Except MachineError Nat × Machine
  | 0, machine => (.ok 0, machine)
  | count + 1, machine =>
      if machine.status = .running then
        match machine.step with
        | (.ok _, next) =>
            ((stepUpTo count next).1.map (· + 1), (stepUpTo count next).2)
        | (.error error, next) => (.error error, next)
      else
        (.ok 0, machine)

theorem stepUpTo_of_not_running (count : Nat) {machine : Machine}
    (hstopped : machine.status ≠ .running) : stepUpTo count machine = (.ok 0, machine) := by
  cases count with
  | zero => rfl
  | succ count => rw [stepUpTo, if_neg hstopped]

theorem stepUpTo_of_step_error (count : Nat) {machine next : Machine} {error : MachineError}
    (hrunning : machine.status = .running) (hstep : machine.step = (.error error, next)) :
    stepUpTo (count + 1) machine = (.error error, next) := by
  rw [stepUpTo, if_pos hrunning, hstep]

theorem stepUpTo_of_step_ok (count : Nat) {machine next : Machine} {instruction : Instruction}
    (hstep : machine.step = (.ok instruction, next)) :
    stepUpTo (count + 1) machine =
      ((stepUpTo count next).1.map (· + 1), (stepUpTo count next).2) := by
  rw [stepUpTo, if_pos (running_of_step_ok hstep).left, hstep]

theorem advance_of_stepUpTo (count : Nat) {machine stopped : Machine}
    {result : Except MachineError Nat} (hflag : machine.interrupt = false)
    (hsteps : stepUpTo count machine = (result, stopped)) :
    advance count machine = (result.map fun _ => (), stopped) ∧
      forall made, result = .ok made -> stopped.steps = machine.steps + made := by
  induction count generalizing machine result with
  | zero =>
      cases hsteps
      refine ⟨rfl, ?_⟩
      intro made hmade
      cases hmade
      rfl
  | succ count ih =>
      cases turn machine with
      | stopped hstopped =>
          rw [stepUpTo_of_not_running _ hstopped] at hsteps
          cases hsteps
          refine ⟨advance_of_not_running _ hstopped, ?_⟩
          intro made hmade
          cases hmade
          rfl
      | interrupted hrunning hraised =>
          rw [hflag] at hraised
          cases hraised
      | failed error next hrunning hlowered hstep =>
          rw [stepUpTo_of_step_error count hrunning hstep] at hsteps
          cases hsteps
          refine ⟨advance_of_step_error count hrunning hflag hstep, ?_⟩
          intro made hmade
          cases hmade
      | moved instruction next hlowered hstep =>
          rw [stepUpTo_of_step_ok count hstep] at hsteps
          rw [advance_of_step_ok count hflag hstep]
          have hcounted := steps_of_step_ok hstep
          have hnext := interrupt_of_step_ok hstep
          cases hrest : stepUpTo count next with
          | mk rest last =>
              rw [hrest] at hsteps
              cases hsteps
              rcases ih (hnext.trans hflag) hrest with ⟨hadvance, hlast⟩
              rw [hadvance]
              cases rest with
              | error error =>
                  refine ⟨rfl, ?_⟩
                  intro made hmade
                  cases hmade
              | ok after =>
                  refine ⟨rfl, ?_⟩
                  intro made hmade
                  cases hmade
                  have hafter : last.steps = next.steps + after := hlast after rfl
                  show last.steps = machine.steps + (after + 1)
                  omega

theorem runLimited_of_stepUpTo {machine : Machine} (hflag : machine.interrupt = false)
    (limit : Nat) :
    let stepped := stepUpTo (min limit (wordMax - machine.steps)) machine
    (machine.runLimited limit).2 = stepped.2.flushed ∧
      match stepped.1, stepped.2.memory.output.flush.1 with
      | .error error, _ => (machine.runLimited limit).1 = .error error
      | .ok made, .ok () => (machine.runLimited limit).1 = .ok made
      | .ok _, .error fault => (machine.runLimited limit).1 = .error (.io fault) := by
  rw [runLimited]
  cases hsteps : stepUpTo (min limit (wordMax - machine.steps)) machine with
  | mk result stopped =>
      rcases advance_of_stepUpTo _ hflag hsteps with ⟨hadvance, hcounted⟩
      rw [hadvance]
      refine ⟨rfl, ?_⟩
      cases result with
      | error error => rfl
      | ok made =>
          cases hanswer : stopped.memory.output.flush.1 with
          | error fault => exact runResult_of_refused hanswer
          | ok _ =>
              show runResult machine.steps stopped (.ok ()) = .ok made
              rw [runResult_of_accepted hanswer, hcounted made rfl, Nat.add_sub_cancel_left]

/-!
# Runs against each other and against steps

A call that reports an error and leaves the machine running was only refused its
flush.  The single call does not stop there, so it continues the first call all
the same.
-/

def doubling : Machine :=
  withConsole #[.number .push ⟨[false, true]⟩, .plain .dup, .plain .halt] (Input.ofString "")
    Output.empty

end Machine
end Whitespace
