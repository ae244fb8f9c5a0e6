import Std.Data.TreeMap
import Whitespace.Warning

/-!
# Label resolution

A label stands for the index of the last instruction that marks it.  Every mark
that replaces an earlier one is reported.
-/

namespace Whitespace

abbrev LabelTable := Std.TreeMap Nat Nat

def Instruction.marked? : Instruction -> Option Nat
  | .label .mark operand => some operand.value
  | _ => none

def resolveFrom (table : LabelTable) (index : Nat) :
    List Instruction -> LabelTable × List Warning
  | [] => (table, [])
  | instruction :: rest =>
      match instruction.marked? with
      | none => resolveFrom table (index + 1) rest
      | some label =>
          let (resolved, warnings) := resolveFrom (table.insert label index) (index + 1) rest
          match table[label]? with
          | none => (resolved, warnings)
          | some previous => (resolved, .duplicateMark label previous index :: warnings)

namespace Program

/-- The labels of a program, and the marks that replace earlier ones. -/
def resolveLabels (program : Program) : LabelTable × List Warning :=
  resolveFrom Std.TreeMap.empty 0 program.toList

def labels (program : Program) : LabelTable :=
  program.resolveLabels.1

end Program
end Whitespace
