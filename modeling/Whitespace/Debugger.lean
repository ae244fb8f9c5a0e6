import Std.Data.TreeSet
import Whitespace.Machine.Snapshot
import Whitespace.Program.Listing

/-!
# The debugger

A debugger steps a machine, lets it run in short batches and stops it at
breakpoints.  The instruction it resumes from does not stop it again.
-/

namespace Whitespace

inductive Notice where
  | ready
  | stopped (status : Status)
  | stepped (pc : Nat) (instruction : Instruction)
  | failed (error : MachineError)
  | started
  | ended (status : Status) (steps : Nat)
  | reached (pc : Nat)
  | removed (pc : Nat)
  | placed (pc : Nat)
  | restarted

def Notice.text : Notice -> String
  | ready => "Ready. Press 's' to step, 'r' to run, 'q' to quit."
  | stopped status => s!"VM stopped: {status.name}"
  | stepped pc instruction => s!"PC={Program.indexText pc}: {instruction.text}"
  | failed error => s!"Error: {error.message}"
  | started => "Running..."
  | ended status steps => s!"{status.name} after {steps} steps"
  | reached pc => s!"Breakpoint at PC={pc}"
  | removed pc => s!"Removed breakpoint at PC={pc}"
  | placed pc => s!"Set breakpoint at PC={pc}"
  | restarted => "Reset. Ready."

structure Debugger where
  machine : Machine
  program : Program
  input : String
  breakpoints : Std.TreeSet Nat
  running : Bool
  notice : Notice
  heapScroll : Nat
  resumeAt : Option Nat

structure WindowLine where
  index : Nat
  instruction : Instruction
  current : Bool

namespace Debugger

def stepsPerTick : Nat := 64

def start (program : Program) (input : String) : Debugger where
  machine := Machine.start program input
  program := program
  input := input
  breakpoints := Std.TreeSet.empty
  running := false
  notice := .ready
  heapScroll := 0
  resumeAt := none

def step (debugger : Debugger) : Debugger :=
  if debugger.machine.status = .running then
    match debugger.machine.step with
    | (.ok instruction, machine) =>
        { debugger with
          machine := machine
          notice := .stepped debugger.machine.pc instruction }
    | (.error error, machine) =>
        { debugger with machine := machine, notice := .failed error, running := false }
  else
    { debugger with notice := .stopped debugger.machine.status, running := false }

/-- Start to run from here; a breakpoint here is passed over. -/
def run (debugger : Debugger) : Debugger :=
  { debugger with
    running := true
    resumeAt := some debugger.machine.pc
    notice := .started }

def pause (debugger : Debugger) : Debugger :=
  { debugger with running := false }

def ticks : Nat -> Debugger -> Debugger
  | 0, debugger => debugger
  | count + 1, debugger =>
      if debugger.running = false then debugger
      else if debugger.machine.status ≠ .running then
        { debugger with
          running := false
          notice := .ended debugger.machine.status debugger.machine.steps }
      else
        let pc := debugger.machine.pc
        let resuming := debugger.resumeAt = some pc
        let fresh := { debugger with resumeAt := none }
        if debugger.breakpoints.contains pc ∧ ¬ resuming then
          { fresh with running := false, notice := .reached pc }
        else
          ticks count fresh.step

def tick (debugger : Debugger) : Debugger :=
  debugger.ticks stepsPerTick

def toggleBreakpoint (debugger : Debugger) : Debugger :=
  let pc := debugger.machine.pc
  if debugger.breakpoints.contains pc then
    { debugger with breakpoints := debugger.breakpoints.erase pc, notice := .removed pc }
  else
    { debugger with breakpoints := debugger.breakpoints.insert pc, notice := .placed pc }

def reset (debugger : Debugger) : Debugger :=
  { debugger with
    machine := Machine.start debugger.program debugger.input
    running := false
    notice := .restarted }

def window (debugger : Debugger) (lines : Nat) : List WindowLine :=
  let pc := debugger.machine.pc
  let first := pc - lines / 2
  ((debugger.program.toList.drop first).take lines).zipIdx first |>.map fun entry =>
    ⟨entry.2, entry.1, entry.2 == pc⟩

end Debugger
end Whitespace
