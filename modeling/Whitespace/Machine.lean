import Whitespace.Machine.Execution
import Whitespace.Machine.Labels

/-!
# The machine

A machine holds a program with its labels, the state of control and its memory.
It is a value: a step takes a machine to the next one.
-/

namespace Whitespace

structure Machine where
  program : Program
  labels : LabelTable
  host : Host
  pc : Nat
  status : Status
  steps : Nat
  last : Option Instruction
  calls : List Nat
  memory : Memory
  interrupt : Bool
  log : Array Warning

namespace Machine

def initialStatus (program : Program) : Status :=
  if program.isEmpty then .finished else .running

def withConsole (program : Program) (input : Input) (output : Output) : Machine :=
  let (labels, warnings) := program.resolveLabels
  { program := program
    labels := labels
    host := ⟨Registry.empty, false⟩
    pc := 0
    status := initialStatus program
    steps := 0
    last := none
    calls := []
    memory := ⟨Stack.empty, Heap.empty, [], input, output⟩
    interrupt := false
    log := warnings.toArray }

def start (program : Program) (input : String) : Machine :=
  withConsole program (Input.ofString input) Output.empty

/-!
# Preparation
-/

def withHost (machine : Machine) (host : Host) : Machine :=
  { machine with host := host }

def seedStack (machine : Machine) (values : List Int) : Machine :=
  { machine with
    memory := { machine.memory with stack := machine.memory.stack.pushAll values } }

def seedHeap (machine : Machine) (cells : List (Int × Int)) : Machine :=
  { machine with
    memory := { machine.memory with heap := machine.memory.heap.storeAll cells } }

def feed (machine : Machine) (bytes : List UInt8) : Machine :=
  { machine with
    memory := { machine.memory with input := machine.memory.input.feed bytes } }

def raiseInterrupt (machine : Machine) : Machine :=
  { machine with interrupt := true }

/-- Go back to the start of the program; remaining input and output stay. -/
def reset (machine : Machine) : Machine :=
  { machine with
    pc := 0
    status := initialStatus machine.program
    steps := 0
    last := none
    calls := []
    memory :=
      ⟨Stack.empty, Heap.empty, [], machine.memory.input, machine.memory.output⟩
    interrupt := false }

/-!
# Steps

The program counter moves on before the instruction acts, so a failed step
leaves it behind the instruction that failed.  Only a step that succeeds is
counted and remembered.
-/

def warn (machine : Machine) (warning : Warning) : Machine :=
  { machine with log := machine.log.push warning }

/-- Where a label sends control: behind its mark. -/
def target (machine : Machine) (label : Nat) : Except MachineError Nat :=
  match machine.labels[label]? with
  | some index => .ok (index + 1)
  | none => .error (.undefinedLabel label)

def follow (machine : Machine) : Flow -> Except MachineError Machine
  | .next => .ok machine
  | .jump label => do return { machine with pc := (<- machine.target label) }
  | .call label => do
      return { machine with pc := (<- machine.target label), calls := machine.pc :: machine.calls }
  | .ret =>
      match machine.calls with
      | [] => .ok (machine.warn (.emptyReturn (machine.pc - 1)))
      | address :: calls => .ok { machine with pc := address, calls := calls }
  | .halt => .ok { machine with status := .halted }
  | .unbound label => .ok (machine.warn (.unboundForeign label))

def complete (machine : Machine) (instruction : Instruction) : Machine :=
  { machine with
    steps := machine.steps + 1
    last := some instruction
    status :=
      if machine.status = .running ∧ machine.program.size ≤ machine.pc then .finished
      else machine.status }

def fail (machine : Machine) : Machine :=
  { machine with status := .failed }

def execute (machine : Machine) (instruction : Instruction) :
    Except MachineError Instruction × Machine :=
  match instruction.perform machine.host machine.memory with
  | (.error error, memory) =>
      (.error error, { machine with pc := machine.pc + 1, memory := memory }.fail)
  | (.ok flow, memory) =>
      let moved := { machine with pc := machine.pc + 1, memory := memory }
      match moved.follow flow with
      | .error error => (.error error, moved.fail)
      | .ok followed => (.ok instruction, followed.complete instruction)

def step (machine : Machine) : Except MachineError Instruction × Machine :=
  if machine.status = .running then
    match machine.program[machine.pc]? with
    | some instruction => machine.execute instruction
    | none => (.error (.notRunning .finished), { machine with status := .finished })
  else
    (.error (.notRunning machine.status), machine)

/-!
# Runs

A run stops when the machine does, at an error, at its bound, or before the next
step once the interrupt flag is raised.  At its end output is flushed.
-/

def stopInterrupted (machine : Machine) : Machine :=
  { machine.warn (.interrupted machine.pc) with status := .interrupted }

def advance : Nat -> Machine -> Except MachineError Unit × Machine
  | 0, machine => (.ok (), machine)
  | count + 1, machine =>
      if machine.status = .running then
        if machine.interrupt then (.ok (), machine.stopInterrupted)
        else
          match machine.step with
          | (.ok _, next) => advance count next
          | (.error error, next) => (.error error, next)
      else
        (.ok (), machine)

/-!
# The loop without a bound

The loop of a run without a bound need not come to an end.  It carries along that
its machine was reached by steps, so this is known of it in any case.
-/

structure Advanced (machine : Machine) where
  ending : Except MachineError Unit × Machine
  reached : exists count, advance count machine = ending

instance (machine : Machine) : Nonempty (Advanced machine) :=
  ⟨⟨(.ok (), machine), 0, rfl⟩⟩

def GoesOn (next machine : Machine) : Prop :=
  machine.status = .running ∧ machine.interrupt = false ∧
    exists instruction, machine.step = (.ok instruction, next)

theorem advance_of_goesOn {next machine : Machine} (goes : GoesOn next machine) (count : Nat) :
    advance (count + 1) machine = advance count next := by
  rcases goes with ⟨running, lowered, instruction, stepped⟩
  rw [advance, if_pos running, lowered, stepped]
  rfl

@[inline] def pass (machine : Machine)
    (further : forall next, GoesOn next machine -> Advanced next) : Advanced machine :=
  if running : machine.status = .running then
    if raised : machine.interrupt = true then
      ⟨(.ok (), machine.stopInterrupted), 1, by rw [advance, if_pos running, if_pos raised]⟩
    else
      match stepped : machine.step with
      | (.ok instruction, next) =>
          have goes : GoesOn next machine :=
            ⟨running, Bool.eq_false_iff.mpr raised, instruction, stepped⟩
          let rest := further next goes
          ⟨rest.ending, by
            rcases rest.reached with ⟨count, reached⟩
            exact ⟨count + 1, (advance_of_goesOn goes count).trans reached⟩⟩
      | (.error error, next) =>
          ⟨(.error error, next), 1, by rw [advance, if_pos running, if_neg raised, stepped]⟩
  else
    ⟨(.ok (), machine), 0, rfl⟩

def advanceUntilStopped (machine : Machine) : Advanced machine :=
  WellFounded.partialExtrinsicFix GoesOn pass machine

/-- Make steps until the machine stops or a step fails; a machine that goes on for ever has no
result. -/
def advanceFully (machine : Machine) : Option (Except MachineError Unit × Machine) :=
  let ending := machine.advanceUntilStopped.ending
  if ending.2.status = .running then none else some ending

/-!
# Results
-/

def flushed (machine : Machine) : Machine :=
  { machine with
    memory := { machine.memory with output := machine.memory.output.flush.2 } }

/-- The result of a run: the number of its steps, unless a step or the flush failed. -/
def runResult (start : Nat) (machine : Machine) :
    Except MachineError Unit -> Except MachineError Nat
  | .error error => .error error
  | .ok () =>
      match machine.memory.output.flush.1 with
      | .error fault => .error (.io fault)
      | .ok () => .ok (machine.steps - start)

def finish (start : Nat) : Except MachineError Unit × Machine -> Except MachineError Nat × Machine
  | (result, stopped) => (runResult start stopped result, stopped.flushed)

/-- Run for at most `limit` steps.  Steps are counted in a 64-bit word, and the bound
saturates there. -/
def runLimited (machine : Machine) (limit : Nat) : Except MachineError Nat × Machine :=
  finish machine.steps (advance (min limit (wordMax - machine.steps)) machine)

def run? (machine : Machine) : Option (Except MachineError Nat × Machine) :=
  machine.advanceFully.map (finish machine.steps)

/-- Run without a bound; a run that never ends stands as one of no steps. -/
def run (machine : Machine) : Except MachineError Nat × Machine :=
  machine.run?.getD (.ok 0, machine)

end Machine
end Whitespace
