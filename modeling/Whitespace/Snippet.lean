import Whitespace.Assembly
import Whitespace.Error
import Whitespace.Machine.Snapshot

/-!
# Snippets

A snippet is a program with a description of what its caller wants back.  Every
call starts a fresh machine with the arguments on its stack.
-/

namespace Whitespace

inductive Returns where
  | top
  | stack
  | heap
  | both
  deriving DecidableEq, Repr, Inhabited

inductive Outcome where
  | top (value : Option Int)
  | stack (values : List Int)
  | heap (cells : List (Int × Int))
  | both (values : List Int) (cells : List (Int × Int))
  deriving DecidableEq, Repr

namespace Outcome

def ofSnapshot (snapshot : Snapshot) : Returns -> Outcome
  | .top => top snapshot.top?
  | .stack => stack snapshot.stack
  | .heap => heap snapshot.heap
  | .both => both snapshot.stack snapshot.heap

def top? : Outcome -> Option Int
  | top value => value
  | stack values => values.getLast?
  | heap _ => none
  | both values _ => values.getLast?

end Outcome

structure Snippet where
  program : Program
  returns : Returns := .top
  registry : Registry := Registry.empty
  maxSteps : Option Nat := none
  input : String := ""

namespace Snippet

def ofSource (source : String) (style : Style) : Except Error (Snippet × List Warning) :=
  match Program.decode .lenient (style.remap source) with
  | .ok reading => .ok ({ program := reading.program }, reading.warnings)
  | .error error => .error (.decode error)

def ofDoc (doc : String) : Except Error (Snippet × List Warning) :=
  ofSource doc Style.stl

def ofAssembly (text : String) : Except Error Snippet :=
  match assemble text with
  | .ok assembly => .ok { program := assembly.program }
  | .error error => .error (.assembly error)

def machine (snippet : Snippet) (arguments : List Int) : Machine :=
  ((Machine.start snippet.program snippet.input).withHost ⟨snippet.registry, false⟩).seedStack
    arguments

/-- Run a machine to its end; a machine that its bound stops has failed. -/
def finish (snippet : Snippet) (machine : Machine) : Except MachineError Unit × Machine :=
  match snippet.maxSteps with
  | none =>
      match machine.run with
      | (.error error, stopped) => (.error error, stopped)
      | (.ok _, stopped) => (.ok (), stopped)
  | some limit =>
      match machine.runLimited limit with
      | (.error error, stopped) => (.error error, stopped)
      | (.ok _, stopped) =>
          if stopped.status = .running then (.error (.stepLimit limit), stopped)
          else (.ok (), stopped)

def run (snippet : Snippet) (arguments : List Int) :
    Except MachineError (Snapshot × String) :=
  match snippet.finish (snippet.machine arguments) with
  | (.ok (), stopped) => .ok (stopped.snapshot, stopped.memory.output.text)
  | (.error error, _) => .error error

def warnings (snippet : Snippet) (arguments : List Int) : List Warning :=
  (snippet.finish (snippet.machine arguments)).2.log.toList

def call (snippet : Snippet) (arguments : List Int) : Except MachineError Outcome := do
  let (snapshot, _) <- snippet.run arguments
  return Outcome.ofSnapshot snapshot snippet.returns

end Snippet
end Whitespace
