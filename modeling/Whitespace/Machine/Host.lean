import Std.Data.TreeMap
import Whitespace.Literal
import Whitespace.Machine.Error

/-!
# Host functions

A program reaches functions of its host by label.  A function takes a fixed
number of arguments from the stack; what it returns goes back onto the stack if
it is an integer of some kind.

Host functions are pure here: the answer of a call depends on its arguments alone.
It neither depends on earlier calls nor changes anything of the host, and what is
proved about machines holds for hosts of this kind.
-/

namespace Whitespace

inductive HostValue where
  | number (value : Number)
  | label (value : Label)
  | integer (value : Int)
  | text (value : String)
  | unit
  deriving DecidableEq, Repr

namespace HostValue

def typeName : HostValue -> String
  | number _ => "number"
  | label _ => "label"
  | integer _ => "integer"
  | text _ => "text"
  | unit => "unit"

def stackValue? : HostValue -> Option Int
  | number value => some value.value
  | label value => some value.value
  | integer value => some value
  | text _ => none
  | unit => none

def dump : HostValue -> String
  | number value => s!"Number(Number({value.value}))"
  | label value => s!"Label(Label({value.value}))"
  | integer value => s!"Int({value})"
  | text value => s!"Text({Text.quoteString value})"
  | unit => "Unit"

end HostValue

structure HostFunction where
  name : String
  arity : Nat
  call : List Int -> Except MachineError HostValue

def HostFunction.dump (function : HostFunction) : String :=
  "ForeignFn \x7b name: " ++ Text.quoteString function.name ++ s!", arity: {function.arity}" ++
    " \x7d"

/-!
# Registries
-/

structure Registry where
  bindings : Std.TreeMap Nat HostFunction

namespace Registry

def empty : Registry := ⟨Std.TreeMap.empty⟩

instance : Inhabited Registry := ⟨empty⟩

def get? (registry : Registry) (label : Nat) : Option HostFunction :=
  registry.bindings[label]?

/-- Bind a label; an earlier binding of it is replaced. -/
def register (registry : Registry) (label : Nat) (function : HostFunction) : Registry :=
  ⟨registry.bindings.insert label function⟩

def unregister (registry : Registry) (label : Nat) : Registry :=
  ⟨registry.bindings.erase label⟩

def size (registry : Registry) : Nat :=
  registry.bindings.size

def toList (registry : Registry) : List (Nat × HostFunction) :=
  registry.bindings.toList

end Registry

/-- What a machine knows of its host; a strict host refuses unbound labels. -/
structure Host where
  registry : Registry
  strict : Bool
  deriving Inhabited

end Whitespace
