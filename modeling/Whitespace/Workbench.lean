import Whitespace.Assembly
import Whitespace.Error
import Whitespace.Machine.Snapshot
import Whitespace.Program.Listing

/-!
# The workbench

A workbench holds a machine together with the program and the input it was built
from, so that it can be built again.  A program that does not load changes
nothing.
-/

namespace Whitespace

structure Workbench where
  machine : Machine
  program : Program
  input : String

namespace Workbench

def empty : Workbench :=
  ⟨Machine.start #[] "", #[], ""⟩

def readSource (source styleName : String) : Except Error Reading :=
  match Style.builtin styleName with
  | .error error => .error (.style error)
  | .ok style => (Program.decode .lenient (style.remap source)).mapError .decode

def install (bench : Workbench) (program : Program) : Workbench :=
  { bench with machine := Machine.start program bench.input, program := program }

def loadSource (bench : Workbench) (source styleName : String) :
    Except Error (Reading × Workbench) := do
  let reading <- readSource source styleName
  return (reading, bench.install reading.program)

def loadAssembly (bench : Workbench) (source : String) : Except Error (Nat × Workbench) :=
  match assemble source with
  | .error error => .error (.assembly error)
  | .ok assembly => .ok (assembly.program.size, bench.install assembly.program)

def reset (bench : Workbench) : Workbench :=
  { bench with machine := Machine.start bench.program bench.input }

def setInput (bench : Workbench) (input : String) : Workbench :=
  { bench with input := input }.reset

def step (bench : Workbench) : Except MachineError Instruction × Workbench :=
  let (result, machine) := bench.machine.step
  (result, { bench with machine := machine })

def run (bench : Workbench) (limit : Nat) : Except MachineError Nat × Workbench :=
  let (result, machine) := bench.machine.runLimited limit
  (result, { bench with machine := machine })

def disassembly (bench : Workbench) : String :=
  bench.program.disassembly

def assembleText (source styleName : String) : Except Error String :=
  match Style.builtin styleName with
  | .error error => .error (.style error)
  | .ok style =>
      match assemble source with
      | .error error => .error (.assembly error)
      | .ok assembly => .ok (assembly.render style)

end Workbench
end Whitespace
