import Whitespace.Proofs.Steps

/-!
# Output that is flushed in between

Some destinations do not show whether they were flushed on the way: one that is
kept in memory, or one that holds text back and has lost nothing when it hands it
on.  A machine that writes to such a destination goes the same way whether its
output is flushed now and then or only at the end.
-/

namespace Whitespace

/-!
# Seamless destinations
-/

/-- States that differ by flushes alone: requests find them alike, and a flush makes them one. -/
structure Destination.Absorbs (destination : Destination) (alike : Nat -> Nat -> Prop) :
    Prop where
  flushed : forall state, alike (destination.flush state).2 state
  write : forall {first second : Nat} (text : String), alike first second ->
    (destination.write first text).1 = (destination.write second text).1 ∧
      alike (destination.write first text).2 (destination.write second text).2
  flush : forall {first second : Nat}, alike first second ->
    destination.flush first = destination.flush second

/-- A flush in between makes no difference to the destination. -/
def Destination.IsSeamless (destination : Destination) : Prop :=
  exists alike, destination.Absorbs alike

theorem Destination.isSeamless_of_unmoved {destination : Destination}
    (hunmoved : forall state, (destination.flush state).2 = state) : destination.IsSeamless := by
  refine ⟨Eq, hunmoved, ?_, ?_⟩
  · intro first second text hsame
    rw [hsame]
    exact ⟨rfl, rfl⟩
  · intro first second hsame
    rw [hsame]

/-- The destination refuses nothing, and no flush moves it: it is a place in memory. -/
structure Destination.IsMemory (destination : Destination) : Prop where
  write : forall state text, (destination.write state text).1 = none
  flush : forall state, destination.flush state = (none, state)

theorem Destination.isMemory_steady : (steady none none).IsMemory :=
  ⟨fun _state _text => rfl, fun _state => rfl⟩

namespace Machine

variable {machine : Machine}

theorem flush_of_memory (hmemory : machine.memory.output.destination.IsMemory) :
    machine.memory.output.flush.1 = .ok () ∧ machine.flushed = machine := by
  have hstate := hmemory.flush machine.memory.output.state
  constructor
  · apply Output.flush_of_accepted
    rw [Output.flushFault, hstate]
  · rw [flushed, Output.flush_snd, hstate]

theorem finish_of_memory (hmemory : machine.memory.output.destination.IsMemory) (start : Nat)
    (result : Except MachineError Unit) :
    finish start (result, machine) = (result.map fun _ => machine.steps - start, machine) := by
  rcases flush_of_memory hmemory with ⟨haccepted, hsame⟩
  rw [finish, hsame]
  cases result with
  | error error => rfl
  | ok _ =>
      simp only [runResult, haccepted]
      rfl

end Machine

variable {destination : Destination} {alike : Nat -> Nat -> Prop}

def Output.inState (output : Output) (state : Nat) : Output :=
  { output with state := state }

def Memory.inState (memory : Memory) (state : Nat) : Memory :=
  { memory with output := memory.output.inState state }

def Machine.inState (machine : Machine) (state : Nat) : Machine :=
  { machine with memory := machine.memory.inState state }

namespace Output

variable {output : Output} {state : Nat}

theorem write_inState (habsorbs : output.destination.Absorbs alike)
    (halike : alike state output.state) (text : String) :
    exists after, alike after (output.write text).2.state ∧
      (output.inState state).write text =
        ((output.write text).1, (output.write text).2.inState after) := by
  rcases habsorbs.write text halike with ⟨hanswer, hafter⟩
  refine ⟨(output.destination.write state text).2, ?_, ?_⟩
  · rw [write_snd]
    exact hafter
  · have hstate : (output.inState state).destination.write (output.inState state).state text =
        output.destination.write state text := rfl
    unfold write
    rw [hstate]
    cases hfirst : output.destination.write state text with
    | mk answer first =>
        cases hsecond : output.destination.write output.state text with
        | mk other second =>
            rw [hfirst, hsecond] at hanswer
            cases hanswer
            cases answer <;> rfl

theorem flush_inState (habsorbs : output.destination.Absorbs alike)
    (halike : alike state output.state) : (output.inState state).flush = output.flush := by
  have hstate : (output.inState state).destination.flush (output.inState state).state =
      output.destination.flush output.state := habsorbs.flush halike
  unfold flush
  rw [hstate]
  cases output.destination.flush output.state with
  | mk answer after => cases answer <;> rfl

end Output

/-!
# Actions
-/

namespace Action

variable {α β : Type}

/-- On memory with the output in another state that is like its own, the action does the same, up
to the state in which it leaves the output. -/
def Follows (destination : Destination) (alike : Nat -> Nat -> Prop) (action : Action α) : Prop :=
  forall (memory : Memory) (state : Nat), memory.output.destination = destination ->
    alike state memory.output.state ->
      (action memory).2.output.destination = destination ∧
        exists after, alike after (action memory).2.output.state ∧
          action (memory.inState state) =
            ((action memory).1, (action memory).2.inState after)

def IgnoresOutput (action : Action α) : Prop :=
  forall (memory : Memory) (output : Output),
    action { memory with output := output } =
      ((action memory).1, { (action memory).2 with output := output })

theorem output_of_ignores {action : Action α} (hignores : IgnoresOutput action)
    (memory : Memory) : (action memory).2.output = memory.output :=
  congrArg (fun outcome => outcome.2.output) (hignores memory memory.output)

theorem IgnoresOutput.follows {action : Action α} (hignores : IgnoresOutput action) :
    Follows destination alike action := by
  intro memory state hdestination halike
  have houtput := output_of_ignores hignores memory
  refine ⟨(congrArg Output.destination houtput).trans hdestination, state, ?_, ?_⟩
  · rw [houtput]
    exact halike
  · rw [Memory.inState, Memory.inState, houtput]
    exact hignores memory _

theorem follows_pure (value : α) : Follows destination alike (pure value) :=
  IgnoresOutput.follows fun _ _ => rfl

theorem follows_fail (error : MachineError) : Follows destination alike (fail error : Action α) :=
  IgnoresOutput.follows fun _ _ => rfl

theorem follows_lift (result : Except MachineError α) :
    Follows destination alike (lift result) := by
  cases result with
  | error error => exact follows_fail error
  | ok value => exact follows_pure value

theorem follows_bind {action : Action α} {next : α -> Action β}
    (haction : Follows destination alike action)
    (hnext : forall value : α, Follows destination alike (next value)) :
    Follows destination alike (action >>= next) := by
  intro memory state hdestination halike
  rcases haction memory state hdestination halike with ⟨hkept, after, hafter, hsame⟩
  cases hfirst : action memory with
  | mk result between =>
      rw [hfirst] at hkept hafter hsame
      cases result with
      | error error =>
          rw [bind_eq_of_error hfirst, bind_eq_of_error hsame]
          exact ⟨hkept, after, hafter, rfl⟩
      | ok value =>
          rw [bind_eq_of_ok hfirst, bind_eq_of_ok hsame]
          exact hnext value between after hkept hafter

theorem follows_onStack (operation : Stack -> Except MachineError α × Stack) :
    Follows destination alike (onStack operation) :=
  IgnoresOutput.follows fun _ _ => rfl

theorem follows_push (value : Int) : Follows destination alike (push value) :=
  IgnoresOutput.follows fun _ _ => rfl

theorem follows_store (key value : Int) : Follows destination alike (store key value) :=
  IgnoresOutput.follows fun _ _ => rfl

theorem follows_retrieve (key : Int) : Follows destination alike (retrieve key) :=
  IgnoresOutput.follows fun _ _ => rfl

theorem follows_onOutput {request : Output -> Except String Unit × Output}
    (hrequest : forall (output : Output) (state : Nat), output.destination = destination ->
      alike state output.state ->
        (request output).2.destination = destination ∧
          exists after, alike after (request output).2.state ∧
            request (output.inState state) =
              ((request output).1, (request output).2.inState after)) :
    Follows destination alike (onOutput request) := by
  intro memory state hdestination halike
  rcases hrequest memory.output state hdestination halike with ⟨hkept, after, hafter, hsame⟩
  have hstate : (memory.inState state).output = memory.output.inState state := rfl
  rw [memory_onOutput]
  refine ⟨hkept, after, hafter, ?_⟩
  unfold onOutput
  rw [hstate, hsame]
  cases request memory.output with
  | mk answer output => cases answer <;> rfl

theorem follows_write (habsorbs : destination.Absorbs alike) (text : String) :
    Follows destination alike (write text) := by
  apply follows_onOutput
  intro output state hdestination halike
  rw [← hdestination] at habsorbs
  refine ⟨?_, Output.write_inState habsorbs halike text⟩
  rw [Output.write_snd]
  exact hdestination

theorem follows_flush (habsorbs : destination.Absorbs alike) :
    Follows destination alike flush := by
  apply follows_onOutput
  intro output state hdestination halike
  have hkept : output.flush.2.destination = destination := by
    rw [Output.flush_snd]
    exact hdestination
  rw [← hdestination] at habsorbs
  refine ⟨hkept, output.flush.2.state, ?_, Output.flush_inState habsorbs halike⟩
  -- The flushed state is like itself: it is what one more flush leaves.
  have hagain := habsorbs.flushed (output.destination.flush output.state).2
  rw [habsorbs.flush (habsorbs.flushed output.state)] at hagain
  rw [Output.flush_snd]
  exact hagain

theorem ignoresOutput_readLine : IgnoresOutput readLine := by
  intro memory output
  have hinput : { memory with output := output }.input = memory.input := rfl
  unfold readLine
  rw [hinput]
  cases memory.input.takeLine? with
  | none => rfl
  | some taken =>
      rcases taken with ⟨bytes, input⟩
      dsimp only
      cases decodeUtf8? bytes <;> rfl

theorem ignoresOutput_fillLine : IgnoresOutput fillLine := by
  intro memory output
  have hline : { memory with output := output }.line = memory.line := rfl
  unfold fillLine
  rw [ignoresOutput_readLine, hline]
  split
  · cases readLine memory with
    | mk result after => cases result <;> rfl
  · rfl

theorem ignoresOutput_takeChar : IgnoresOutput takeChar := by
  intro memory output
  rcases memory with ⟨stack, heap, line, input, old⟩
  cases line <;> rfl

end Action

/-!
# Instructions
-/

namespace Instruction

open Whitespace.Action

variable (habsorbs : destination.Absorbs alike)
include habsorbs

theorem follows_printChar : Follows destination alike printChar := by
  apply follows_bind (follows_onStack _)
  intro code
  split
  · exact follows_write habsorbs _
  · exact follows_fail _

theorem follows_readChar : Follows destination alike readChar := by
  apply follows_bind (follows_onStack _)
  intro key
  apply follows_bind (follows_flush habsorbs)
  intro _
  apply follows_bind ignoresOutput_fillLine.follows
  intro _
  exact follows_bind ignoresOutput_takeChar.follows fun c => follows_store key c.toNat

theorem follows_readNumber : Follows destination alike readNumber := by
  apply follows_bind (follows_onStack _)
  intro key
  apply follows_bind (follows_flush habsorbs)
  intro _
  apply follows_bind ignoresOutput_readLine.follows
  intro line
  dsimp only
  split
  · exact follows_store _ _
  · exact follows_fail _

omit habsorbs in
theorem follows_callHost (host : Host) (label : Nat) :
    Follows destination alike (callHost host label) := by
  unfold callHost
  split
  · split
    · exact follows_fail _
    · exact follows_pure _
  · apply follows_bind (follows_onStack _)
    intro arguments
    apply follows_bind (follows_lift _)
    intro result
    split
    · exact follows_bind (follows_push _) fun _ => follows_pure _
    · exact follows_fail _

theorem follows_performPlain (op : PlainOp) :
    Follows destination alike (performPlain op) := by
  cases op with
  | dup => exact follows_bind (follows_onStack _) fun _ => follows_pure _
  | swap => exact follows_bind (follows_onStack _) fun _ => follows_pure _
  | pop => exact follows_bind (follows_onStack _) fun _ => follows_pure _
  | arithmetic op =>
      exact follows_bind (follows_onStack _) fun _ => follows_bind (follows_onStack _) fun _ =>
        follows_bind (follows_lift _) fun _ => follows_bind (follows_push _) fun _ =>
          follows_pure _
  | store =>
      exact follows_bind (follows_onStack _) fun _ => follows_bind (follows_onStack _) fun _ =>
        follows_bind (follows_store _ _) fun _ => follows_pure _
  | retrieve =>
      exact follows_bind (follows_onStack _) fun _ => follows_bind (follows_retrieve _) fun _ =>
        follows_bind (follows_push _) fun _ => follows_pure _
  | printChar => exact follows_bind (follows_printChar habsorbs) fun _ => follows_pure _
  | printNumber =>
      exact follows_bind (follows_onStack _) fun _ => follows_bind (follows_write habsorbs _)
        fun _ => follows_pure _
  | readChar => exact follows_bind (follows_readChar habsorbs) fun _ => follows_pure _
  | readNumber => exact follows_bind (follows_readNumber habsorbs) fun _ => follows_pure _
  | ret => exact follows_pure _
  | halt => exact follows_pure _

theorem follows_perform (host : Host) (instruction : Instruction) :
    Follows destination alike (instruction.perform host) := by
  cases instruction with
  | plain op => exact follows_performPlain habsorbs op
  | number op operand =>
      cases op with
      | push => exact follows_bind (follows_push _) fun _ => follows_pure _
      | copy => exact follows_bind (follows_onStack _) fun _ => follows_pure _
      | slide => exact follows_bind (follows_onStack _) fun _ => follows_pure _
  | label op operand =>
      cases op with
      | mark => exact follows_pure _
      | call => exact follows_pure _
      | jump => exact follows_pure _
      | jumpZero => exact follows_bind (follows_onStack _) fun _ => follows_pure _
      | jumpNegative => exact follows_bind (follows_onStack _) fun _ => follows_pure _
      | foreign => exact follows_callHost host operand.value

end Instruction

/-!
# Runs

What one step does from a state of the output that is like the given one, it does
up to such a state; so does a run, and the flush at its end leaves no difference.
-/

namespace Machine

variable {machine : Machine} {state : Nat}

theorem step_inState (habsorbs : machine.memory.output.destination.Absorbs alike)
    (halike : alike state machine.memory.output.state) :
    exists after, alike after machine.step.2.memory.output.state ∧
      (machine.inState state).step = (machine.step.1, machine.step.2.inState after) := by
  by_cases hrunning : machine.status = .running
  · cases hat : machine.program[machine.pc]? with
    | none =>
        have hother : (machine.inState state).step =
            (.error (.notRunning .finished),
              { machine.inState state with status := .finished }) :=
          @step_of_end (machine.inState state) hrunning hat
        rw [hother, step_of_end hrunning hat]
        exact ⟨state, halike, rfl⟩
    | some instruction =>
        rcases Instruction.follows_perform habsorbs machine.host instruction machine.memory state
          rfl halike with ⟨_hkept, after, hafter, hperform⟩
        have hother : (machine.inState state).step =
            (machine.inState state).execute instruction :=
          @step_of_running (machine.inState state) instruction hrunning hat
        rw [hother, step_of_running hrunning hat, memory_execute]
        refine ⟨after, hafter, (execute_withMemory hperform).trans ?_⟩
        rw [← memory_execute]
        rfl
  · have hother : (machine.inState state).step =
        (.error (.notRunning machine.status), machine.inState state) :=
      @step_of_not_running (machine.inState state) hrunning
    rw [hother, step_of_not_running hrunning]
    exact ⟨state, halike, rfl⟩

theorem advance_inState (count : Nat)
    (habsorbs : machine.memory.output.destination.Absorbs alike)
    (halike : alike state machine.memory.output.state) :
    exists after, alike after (advance count machine).2.memory.output.state ∧
      advance count (machine.inState state) =
        ((advance count machine).1, (advance count machine).2.inState after) := by
  induction count generalizing machine state with
  | zero => exact ⟨state, halike, rfl⟩
  | succ count ih =>
      rcases step_inState habsorbs halike with ⟨after, hafter, hother⟩
      have hdestination := destination_step machine
      cases turn machine with
      | stopped hstopped =>
          have hstill : (machine.inState state).status ≠ .running := hstopped
          rw [advance_of_not_running _ hstopped, advance_of_not_running _ hstill]
          exact ⟨state, halike, rfl⟩
      | interrupted hrunning hflag =>
          have hraised : (machine.inState state).interrupt = true := hflag
          rw [advance_of_interrupt count hrunning hflag,
            @advance_of_interrupt count (machine.inState state) hrunning hraised]
          exact ⟨state, halike, rfl⟩
      | failed error next hrunning hflag hstep =>
          rw [hstep] at hafter hother
          rw [advance_of_step_error count hrunning hflag hstep,
            @advance_of_step_error count (machine.inState state) _ _ hrunning hflag hother]
          exact ⟨after, hafter, rfl⟩
      | moved instruction next hflag hstep =>
          rw [hstep] at hafter hother hdestination
          rw [← hdestination] at habsorbs
          rw [advance_of_step_ok count hflag hstep,
            @advance_of_step_ok count (machine.inState state) _ _ hflag hother]
          exact ih habsorbs hafter

theorem finish_inState {result : Except MachineError Unit}
    (hflush : (machine.inState state).memory.output.flush = machine.memory.output.flush)
    (start : Nat) :
    finish start (result, machine.inState state) = finish start (result, machine) := by
  have hresult : runResult start (machine.inState state) result =
      runResult start machine result := by
    cases result with
    | error error => rfl
    | ok _ =>
        simp only [runResult, hflush]
        rfl
  have hflushed : (machine.inState state).flushed = machine.flushed := by
    rw [flushed, hflush]
    rfl
  rw [finish, finish, hresult, hflushed]

theorem finish_advance_flushed (hseamless : machine.memory.output.destination.IsSeamless)
    (start count : Nat) :
    finish start (advance count machine.flushed) = finish start (advance count machine) := by
  rcases hseamless with ⟨alike, habsorbs⟩
  have hflushed : machine.flushed =
      machine.inState (machine.memory.output.destination.flush machine.memory.output.state).2 := by
    rw [flushed, Output.flush_snd]
    rfl
  rcases advance_inState count habsorbs (habsorbs.flushed machine.memory.output.state) with
    ⟨after, hafter, hadvance⟩
  rw [← destination_advance count machine] at habsorbs
  have hend : ((advance count machine).2.inState after).memory.output.flush =
      (advance count machine).2.memory.output.flush := Output.flush_inState habsorbs hafter
  rw [hflushed, hadvance]
  exact finish_inState hend start

end Machine
end Whitespace
