import Mathlib.Logic.Function.Iterate
import Whitespace.Proofs.Histories

/-!
# Machines that stand still

A machine that has stopped stays as it is, whichever calls try to carry it on, and
says so.  A raised interrupt flag stops a running machine before its next step.
Output is flushed even by a run that does nothing; its destination may refuse, and
may be in another state afterwards.
-/

namespace Whitespace

namespace Operation

def resumes : Operation -> Bool
  | step | run | runLimited _ => true
  | _ => false

def flushes : Operation -> Bool
  | run | runLimited _ => true
  | _ => false

end Operation

namespace Machine

def answers (machine : Machine) : List Operation -> List Answer
  | [] => []
  | operation :: rest =>
      (machine.operate operation).1 :: (machine.operate operation).2.answers rest

/-!
# Runs without steps
-/

/-- The report of a run that makes no step: none made, unless the output refuses to be flushed. -/
def idleReport (machine : Machine) : Except MachineError Nat :=
  match machine.memory.output.flushFault with
  | none => .ok 0
  | some fault => .error (.io fault)

theorem finish_idle {machine stopped : Machine} (hsteps : stopped.steps = machine.steps)
    (houtput : stopped.memory.output = machine.memory.output) :
    finish machine.steps (.ok (), stopped) = (machine.idleReport, stopped.flushed) := by
  rw [finish, idleReport]
  cases hfault : machine.memory.output.flushFault with
  | none =>
      rw [← houtput] at hfault
      rw [runResult_of_accepted (Output.flush_of_accepted hfault), hsteps, Nat.sub_self]
  | some fault =>
      rw [← houtput] at hfault
      rw [runResult_of_refused (Output.flush_of_refused hfault)]

theorem runLimited_of_not_running {machine : Machine} (hstopped : machine.status ≠ .running)
    (limit : Nat) : machine.runLimited limit = (machine.idleReport, machine.flushed) := by
  rw [runLimited, advance_of_not_running _ hstopped, finish_idle rfl rfl]

theorem run_of_not_running {machine : Machine} (hstopped : machine.status ≠ .running) :
    machine.run = (machine.idleReport, machine.flushed) := by
  rw [@run_of_advance 0 machine hstopped, advance, finish_idle rfl rfl]

theorem runLimited_zero (machine : Machine) :
    machine.runLimited 0 = (machine.idleReport, machine.flushed) := by
  rw [runLimited, Nat.zero_min, advance, finish_idle rfl rfl]

theorem runLimited_of_interrupt {machine : Machine} {limit : Nat}
    (hrunning : machine.status = .running) (hflag : machine.interrupt = true)
    (hroom : machine.steps < wordMax) (hlimit : 1 ≤ limit) :
    machine.runLimited limit = (machine.idleReport, machine.stopInterrupted.flushed) := by
  have hbound : min limit (wordMax - machine.steps) =
      min limit (wordMax - machine.steps) - 1 + 1 := by
    omega
  rw [runLimited, hbound, advance_of_interrupt _ hrunning hflag]
  exact finish_idle rfl rfl

theorem run_of_interrupt {machine : Machine} (hrunning : machine.status = .running)
    (hflag : machine.interrupt = true) :
    machine.run = (machine.idleReport, machine.stopInterrupted.flushed) := by
  have hadvance := advance_of_interrupt 0 hrunning hflag
  have hstopped : (advance (0 + 1) machine).2.status ≠ .running := by
    rw [hadvance]
    exact Status.noConfusion
  rw [run_of_advance hstopped, hadvance]
  exact finish_idle rfl rfl

theorem attemptsOfRun_of_interrupt {machine : Machine} (count : Nat)
    (hflag : machine.interrupt = true) : attemptsOfRun count machine = [] := by
  cases count with
  | zero => rfl
  | succ count =>
      rw [attemptsOfRun, if_neg]
      intro hready
      rw [hflag] at hready
      cases hready.right

theorem attemptsOf_run_of_interrupt {machine : Machine} (hflag : machine.interrupt = true) :
    machine.attemptsOf .run = [] := by
  rw [attemptsOf]
  split
  · exact attemptsOfRun_of_interrupt _ hflag
  · rfl

/-!
# Calls to a stopped machine
-/

/-- What a stopped machine answers; each run finds the output as the last one has flushed it. -/
def refusals (machine : Machine) : List Operation -> List Answer
  | [] => []
  | call :: rest =>
      if call.flushes then .ran machine.idleReport :: machine.flushed.refusals rest
      else .stepped (.error (.notRunning machine.status)) :: machine.refusals rest

theorem operate_of_not_running {machine : Machine} (hstopped : machine.status ≠ .running)
    {operation : Operation} (hresumes : operation.resumes = true) :
    machine.operate operation =
      if operation.flushes then (.ran machine.idleReport, machine.flushed)
      else (.stepped (.error (.notRunning machine.status)), machine) := by
  cases operation with
  | step =>
      rw [operate, step_of_not_running hstopped]
      rfl
  | run =>
      rw [operate, run_of_not_running hstopped]
      rfl
  | runLimited limit =>
      rw [operate, runLimited_of_not_running hstopped]
      rfl
  | withHost host => cases hresumes
  | seedStack values => cases hresumes
  | seedHeap cells => cases hresumes
  | raiseInterrupt => cases hresumes
  | reset => cases hresumes

theorem replay_of_not_running {machine : Machine} (hstopped : machine.status ≠ .running)
    {calls : List Operation} (hresume : forall call, call ∈ calls -> call.resumes = true) :
    machine.replay calls = flushed^[calls.countP Operation.flushes] machine ∧
      machine.answers calls = machine.refusals calls := by
  induction calls generalizing machine with
  | nil => exact ⟨rfl, rfl⟩
  | cons call rest ih =>
      have hrest : forall other, other ∈ rest -> other.resumes = true :=
        fun other hmem => hresume other (List.mem_cons_of_mem call hmem)
      have hcons : machine.replay (call :: rest) = (machine.operate call).2.replay rest := rfl
      rw [hcons, answers, operate_of_not_running hstopped (hresume call List.mem_cons_self),
        refusals]
      by_cases hflushes : call.flushes = true
      · rcases @ih machine.flushed hstopped hrest with ⟨hreplay, hanswers⟩
        rw [if_pos hflushes, if_pos hflushes, List.countP_cons_of_pos hflushes,
          Function.iterate_succ_apply, hreplay, hanswers]
        exact ⟨rfl, rfl⟩
      · rcases ih hstopped hrest with ⟨hreplay, hanswers⟩
        rw [if_neg hflushes, if_neg hflushes, List.countP_cons_of_neg hflushes, hreplay,
          hanswers]
        exact ⟨rfl, rfl⟩

theorem exists_inState_of_flushed (machine : Machine) (count : Nat) :
    exists state, flushed^[count] machine = machine.inState state := by
  induction count with
  | zero => exact ⟨machine.memory.output.state, rfl⟩
  | succ count ih =>
      rcases ih with ⟨state, hstate⟩
      rw [Function.iterate_succ_apply', hstate, flushed, Output.flush_snd]
      exact ⟨_, rfl⟩

theorem flushed_of_unmoved {machine : Machine}
    (hunmoved : forall state, (machine.memory.output.destination.flush state).2 = state)
    (count : Nat) : flushed^[count] machine = machine := by
  have hsame : flushed machine = machine := by
    rw [flushed, Output.flush_snd, hunmoved]
  exact Function.iterate_fixed hsame count

/-!
# Stopping
-/

theorem stopping_is_final (machine : Machine) :
    (machine.status ≠ .running -> forall calls : List Operation,
      (forall call, call ∈ calls -> call.resumes = true) ->
        machine.replay calls = flushed^[calls.countP Operation.flushes] machine ∧
        machine.answers calls = machine.refusals calls ∧
        (exists state, machine.replay calls =
          { machine with
            memory :=
              { machine.memory with output := { machine.memory.output with state := state } } }) ∧
        ((forall state, (machine.memory.output.destination.flush state).2 = state) ->
          machine.replay calls = machine)) ∧
    (machine.status = .running -> machine.interrupt = true ->
      (forall call : Operation,
        call = .run ∨
            (exists limit, 1 ≤ limit ∧ machine.steps < wordMax ∧ call = .runLimited limit) ->
          machine.attemptsOf call = [] ∧
          machine.operate call =
            (.ran machine.idleReport,
              { machine with
                status := .interrupted
                log := machine.log.push (.interrupted machine.pc) }.flushed)) ∧
      machine.runLimited 0 = (machine.idleReport, machine.flushed)) := by
  constructor
  · intro hstopped calls hresume
    rcases replay_of_not_running hstopped hresume with ⟨hreplay, hanswers⟩
    refine ⟨hreplay, hanswers, ?_, ?_⟩
    · rw [hreplay]
      exact exists_inState_of_flushed machine _
    · intro hunmoved
      rw [hreplay]
      exact flushed_of_unmoved hunmoved _
  · intro hrunning hflag
    refine ⟨?_, runLimited_zero machine⟩
    intro call hcall
    rcases hcall with hrun | ⟨limit, hlimit, hroom, hlimited⟩
    · rw [hrun, operate, run_of_interrupt hrunning hflag]
      exact ⟨attemptsOf_run_of_interrupt hflag, rfl⟩
    · rw [hlimited, operate, runLimited_of_interrupt hrunning hflag hroom hlimit]
      exact ⟨attemptsOfRun_of_interrupt _ hflag, rfl⟩

/-- Output that holds text back until it is flushed. -/
def heldBack : Output :=
  ⟨⟨fun state _text => (none, state + 1), fun _state => (none, 0)⟩, 0, ""⟩

/-- A machine that has printed a number and reached its end, and one that is interrupted before its
first step. -/
theorem stopping_is_final_twoWays :
    exists printed warned : Machine,
      printed = (withConsole #[.plain .printNumber] ⟨[]⟩ heldBack).replay [.seedStack [7], .step] ∧
      warned = (withConsole #[.plain .halt] ⟨[]⟩ heldBack).replay [.raiseInterrupt] ∧
      printed.status = .finished ∧ printed.memory.output.state = 1 ∧
      printed.replay [.step, .run, .runLimited 3] = flushed^[2] printed ∧
      printed.answers [.step, .run, .runLimited 3] =
        [.stepped (.error (.notRunning .finished)), .ran (.ok 0), .ran (.ok 0)] ∧
      warned.status = .running ∧ (warned.operate .run).2.status = .interrupted ∧
      (warned.operate .run).2.last = none ∧ warned.runLimited 0 = (.ok 0, warned) := by
  have hprinted := (stopping_is_final ((withConsole #[.plain .printNumber] ⟨[]⟩ heldBack).replay
    [.seedStack [7], .step])).left Status.noConfusion [.step, .run, .runLimited 3] (by decide)
  have hwarned := (stopping_is_final
    ((withConsole #[.plain .halt] ⟨[]⟩ heldBack).replay [.raiseInterrupt])).right rfl rfl
  have hstopped := (hwarned.left .run (Or.inl rfl)).right
  refine ⟨_, _, rfl, rfl, rfl, rfl, hprinted.left, hprinted.right.left, rfl, ?_, ?_,
    hwarned.right⟩
  · rw [hstopped]
    rfl
  · rw [hstopped]
    rfl

/-- A program without instructions is finished, and yet a run of it fails if the output refuses
to be flushed. -/
theorem refused_flush_after_stop :
    exists machine : Machine,
      machine = withConsole #[] ⟨[]⟩ ⟨.steady none (some "flush refused"), 0, ""⟩ ∧
      machine.status = .finished ∧ machine.run.1 = .error (.io "flush refused") ∧
      machine.run.1 ≠ .ok 0 := by
  have hrun : (withConsole #[] ⟨[]⟩ ⟨.steady none (some "flush refused"), 0, ""⟩).run.1 =
      .error (.io "flush refused") := by
    rw [run_of_not_running Status.noConfusion]
    rfl
  refine ⟨_, rfl, rfl, hrun, ?_⟩
  rw [hrun]
  intro hcounted
  cases hcounted

end Machine
end Whitespace
