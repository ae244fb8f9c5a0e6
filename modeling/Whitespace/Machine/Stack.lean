import Whitespace.Machine.Error

/-!
# The operand stack

Items are held top first.  An operation leaves a stack whether it succeeds or
not: what it changed before it failed stays changed.  An operation on too few
items fails and names how many it needed.
-/

namespace Whitespace

structure Stack where
  items : List Int
  deriving DecidableEq, Repr

namespace Stack

instance : Inhabited Stack := ⟨⟨[]⟩⟩

def empty : Stack := ⟨[]⟩

def ofList (values : List Int) : Stack :=
  ⟨values.reverse⟩

def toList (stack : Stack) : List Int :=
  stack.items.reverse

def depth (stack : Stack) : Nat :=
  stack.items.length

def push (stack : Stack) (value : Int) : Stack :=
  ⟨value :: stack.items⟩

/-- Push values in order; the last one ends on top. -/
def pushAll (stack : Stack) (values : List Int) : Stack :=
  ⟨values.reverse ++ stack.items⟩

def pop (stack : Stack) : Except MachineError Int × Stack :=
  match stack.items with
  | [] => (.error (.stackUnderflow 1 0), stack)
  | top :: rest => (.ok top, ⟨rest⟩)

def popMany (stack : Stack) (count : Nat) : Except MachineError (List Int) × Stack :=
  if stack.depth < count then (.error (.stackUnderflow count stack.depth), stack)
  else (.ok (stack.items.take count).reverse, ⟨stack.items.drop count⟩)

def peek (stack : Stack) : Except MachineError Int :=
  match stack.items with
  | [] => .error (.stackUnderflow 1 0)
  | top :: _ => .ok top

def dup (stack : Stack) : Except MachineError Unit × Stack :=
  match stack.peek with
  | .error error => (.error error, stack)
  | .ok top => (.ok (), stack.push top)

def swap (stack : Stack) : Except MachineError Unit × Stack :=
  match stack.items with
  | top :: second :: rest => (.ok (), ⟨second :: top :: rest⟩)
  | _ => (.error (.stackUnderflow 2 stack.depth), stack)

/-!
# Counts and words

Programs count in integers, stacks in words.  A negative integer is no word, nor
is one that exceeds the largest word.
-/

/-- An integer as a word, next to a number of items; words never fall short of counting what a
stack holds. -/
def word? (depth : Nat) (count : Int) : Option Nat :=
  if 0 ≤ count ∧ count.toNat ≤ max wordMax depth then some count.toNat else none

/-- How many items a copy from a given depth needs, as far as a word can say. -/
def copyNeeds (stack : Stack) (index : Int) : Nat :=
  match word? stack.depth index with
  | some offset => min (offset + 1) wordMax
  | none => wordMax

def copy (stack : Stack) (index : Int) : Except MachineError Unit × Stack :=
  match (word? stack.depth index).filter (· < stack.depth) with
  | none => (.error (.stackUnderflow (stack.copyNeeds index) stack.depth), stack)
  | some offset => (.ok (), stack.push (stack.toList.getD (stack.depth - 1 - offset) 0))

def truncate (stack : Stack) (keep : Nat) : Stack :=
  ofList (stack.toList.take keep)

/-- How many of so many items are left when a count of them goes; all of them go if no word holds
the count. -/
def kept (depth : Nat) (count : Int) : Nat :=
  match word? depth count with
  | some count => depth - count
  | none => 0

/-- Remove `count` items from below the top; a negative count removes none. -/
def slide (stack : Stack) (count : Int) : Except MachineError Unit × Stack :=
  match stack.pop with
  | (.error error, stack) => (.error error, stack)
  | (.ok top, stack) =>
      if count < 0 then (.ok (), stack.push top)
      else (.ok (), (stack.truncate (kept stack.depth count)).push top)

/-!
# The items from the bottom
-/

@[simp] theorem toList_push (stack : Stack) (value : Int) :
    (stack.push value).toList = stack.toList ++ [value] := by
  simp [push, toList]

theorem length_toList (stack : Stack) : stack.toList.length = stack.depth := by
  simp [toList, depth]

theorem pop_push (stack : Stack) (value : Int) : (stack.push value).pop = (.ok value, stack) := rfl

def dump (stack : Stack) : String :=
  "Stack \x7b items: [" ++ String.intercalate ", " (stack.toList.map toString) ++ "] \x7d"

end Stack
end Whitespace
