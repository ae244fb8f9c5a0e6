import Whitespace.Machine.Stack
import Whitespace.Machine.Heap
import Whitespace.Machine.Console
import Whitespace.Text.Lines

/-!
# Memory and actions

The memory of a machine is everything that instructions work on besides control:
the stack, the heap, input and output, and the characters of an input line that
was taken and not yet delivered.

An action works on memory and may fail.  What it did before it failed stays
done: a value that was popped is gone.
-/

namespace Whitespace

structure Memory where
  stack : Stack
  heap : Heap
  line : List Char
  input : Input
  output : Output
  deriving Inhabited

def Action (α : Type) : Type :=
  Memory -> Except MachineError α × Memory

namespace Action

instance : Monad Action where
  pure value := fun memory => (.ok value, memory)
  bind action next := fun memory =>
    match action memory with
    | (.ok value, memory) => next value memory
    | (.error error, memory) => (.error error, memory)

instance : LawfulMonad Action :=
  LawfulMonad.mk' Action
    (by
      intro α action
      funext memory
      change (match action memory with
        | (.ok value, memory) => (.ok value, memory)
        | (.error error, memory) => (.error error, memory)) = action memory
      cases action memory with
      | mk result after => cases result <;> rfl)
    (by
      intro α β value next
      rfl)
    (by
      intro α β γ action next last
      funext memory
      change (match (match action memory with
          | (.ok value, memory) => next value memory
          | (.error error, memory) => (.error error, memory)) with
        | (.ok value, memory) => last value memory
        | (.error error, memory) => (.error error, memory)) =
        match action memory with
        | (.ok value, memory) =>
            match next value memory with
            | (.ok value, memory) => last value memory
            | (.error error, memory) => (.error error, memory)
        | (.error error, memory) => (.error error, memory)
      cases action memory with
      | mk result after => cases result <;> rfl)

def fail {α : Type} (error : MachineError) : Action α :=
  fun memory => (.error error, memory)

def lift {α : Type} : Except MachineError α -> Action α
  | .ok value => pure value
  | .error error => fail error

/-!
# The stack
-/

def push (value : Int) : Action Unit :=
  fun memory => (.ok (), { memory with stack := memory.stack.push value })

def onStack {α : Type} (operation : Stack -> Except MachineError α × Stack) : Action α :=
  fun memory =>
    let (result, stack) := operation memory.stack
    (result, { memory with stack := stack })

def pop : Action Int :=
  onStack Stack.pop

def popMany (count : Nat) : Action (List Int) :=
  onStack (·.popMany count)

/-!
# The heap
-/

def store (key value : Int) : Action Unit :=
  fun memory => (.ok (), { memory with heap := memory.heap.store key value })

def retrieve (key : Int) : Action Int :=
  fun memory => (memory.heap.retrieve key, memory)

/-!
# Input and output
-/

def onOutput (request : Output -> Except String Unit × Output) : Action Unit :=
  fun memory =>
    match request memory.output with
    | (.ok (), output) => (.ok (), { memory with output := output })
    | (.error fault, output) => (.error (.io fault), { memory with output := output })

def write (text : String) : Action Unit :=
  onOutput (·.write text)

def flush : Action Unit :=
  onOutput Output.flush

def readLine : Action (List Char) :=
  fun memory =>
    match memory.input.takeLine? with
    | none => (.error (.input .ended), memory)
    | some (bytes, input) =>
        match decodeUtf8? bytes with
        | none =>
            (.error (.io "stream did not contain valid UTF-8"), { memory with input := input })
        | some chars => (.ok (Text.chomp chars), { memory with input := input })

/-- Take an input line, closed by a line feed, if no characters are left of the last one. -/
def fillLine : Action Unit :=
  fun memory =>
    if memory.line.isEmpty then
      match readLine memory with
      | (.ok chars, memory) => (.ok (), { memory with line := chars ++ ['\n'] })
      | (.error error, memory) => (.error error, memory)
    else
      (.ok (), memory)

def takeChar : Action Char :=
  fun memory =>
    match memory.line with
    | [] => (.ok '\n', memory)
    | c :: rest => (.ok c, { memory with line := rest })

end Action
end Whitespace
