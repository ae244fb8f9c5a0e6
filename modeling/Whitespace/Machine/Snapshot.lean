import Whitespace.Machine
import Whitespace.Json.Writer

/-!
# Snapshots

A snapshot shows the stack, bottom first, and the heap, by key.  It is printed
as text or as JSON, where integers are decimal texts.
-/

namespace Whitespace

structure Snapshot where
  stack : List Int
  heap : List (Int × Int)
  deriving DecidableEq, Repr

namespace Snapshot

def top? (snapshot : Snapshot) : Option Int :=
  snapshot.stack.getLast?

def text (snapshot : Snapshot) : String :=
  "stack: [" ++ String.intercalate ", " (snapshot.stack.map toString) ++ "]\n" ++
    "heap:  " ++ Heap.cellsText snapshot.heap

def json (snapshot : Snapshot) : Json :=
  .object
    [ (some "stack", .array (snapshot.stack.map fun value => .ofString (toString value))),
      (some "heap",
        .object (snapshot.heap.map fun cell =>
          (some (toString cell.1), .ofString (toString cell.2)))) ]

def prettyJson (snapshot : Snapshot) : String :=
  snapshot.json.pretty

def compactJson (snapshot : Snapshot) : String :=
  snapshot.json.compact

end Snapshot

namespace Machine

def snapshot (machine : Machine) : Snapshot :=
  ⟨machine.memory.stack.toList, machine.memory.heap.toList⟩

def callAddresses (machine : Machine) : List Nat :=
  machine.calls.reverse

def callsText (machine : Machine) : String :=
  "[" ++ String.intercalate ", " (machine.callAddresses.map toString) ++ "]"

def dump (machine : Machine) : String :=
  "Vm \x7b state: " ++ machine.status.name ++ s!", pc: {machine.pc}, steps: {machine.steps}" ++
    ", stack: " ++ machine.memory.stack.dump ++ ", heap: " ++ machine.memory.heap.dump ++
    ", call_stack: " ++ machine.callsText ++ " \x7d"

end Machine
end Whitespace
