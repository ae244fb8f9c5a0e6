import Std.Data.TreeMap
import Whitespace.Machine.Error

/-!
# The heap

A store of integers under integer keys, in the order of the keys.
-/

namespace Whitespace

structure Heap where
  cells : Std.TreeMap Int Int

namespace Heap

def empty : Heap := ⟨Std.TreeMap.empty⟩

instance : Inhabited Heap := ⟨empty⟩

def get? (heap : Heap) (key : Int) : Option Int :=
  heap.cells[key]?

def store (heap : Heap) (key value : Int) : Heap :=
  ⟨heap.cells.insert key value⟩

/-- Store cells in order; of two with one key the later one stays. -/
def storeAll (heap : Heap) (cells : List (Int × Int)) : Heap :=
  cells.foldl (fun heap cell => heap.store cell.1 cell.2) heap

def retrieve (heap : Heap) (key : Int) : Except MachineError Int :=
  match heap.get? key with
  | some value => .ok value
  | none => .error (.missingKey key)

@[simp] theorem get?_empty (key : Int) : empty.get? key = none := by
  simp [empty, get?]

@[simp] theorem get?_store_self (heap : Heap) (key value : Int) :
    (heap.store key value).get? key = some value := by
  simp [store, get?]

theorem get?_store_of_ne (heap : Heap) {key other : Int} (value : Int) (different : key ≠ other) :
    (heap.store key value).get? other = heap.get? other := by
  simp [store, get?, Std.TreeMap.getElem?_insert, different]

def size (heap : Heap) : Nat :=
  heap.cells.size

def toList (heap : Heap) : List (Int × Int) :=
  heap.cells.toList

def cellsText (cells : List (Int × Int)) : String :=
  "\x7b" ++ String.intercalate ", " (cells.map fun cell => s!"{cell.1}: {cell.2}") ++ "\x7d"

def dump (heap : Heap) : String :=
  cellsText heap.toList

end Heap
end Whitespace
