import Whitespace.Assembly.Line
import Whitespace.Style
import Whitespace.Text.Lines

/-!
# Assembly texts

A text is assembled line by line; the first line with a fault ends it.  With the
program come the symbols of each of its instructions, in letters.
-/

namespace Whitespace

structure Assembly where
  program : Program
  lines : List String
  deriving DecidableEq

namespace Assembly

def ofInstructions (instructions : List Instruction) : Assembly where
  program := instructions.toArray
  lines := instructions.map fun instruction => letters instruction.symbols

def symbols (assembly : Assembly) : List Symbol :=
  assembly.program.symbols

def render (assembly : Assembly) (style : Style) : String :=
  style.render assembly.symbols

end Assembly

def assembleLines (number : Nat) :
    List (List Char) -> Except AssemblyError (List Instruction)
  | [] => .ok []
  | line :: rest =>
      match assembleLine line with
      | .error fault => .error ⟨number, fault⟩
      | .ok instructions => do return instructions ++ (<- assembleLines (number + 1) rest)

def assemble (source : String) : Except AssemblyError Assembly := do
  return .ofInstructions (<- assembleLines 1 (Text.lines source.toList))

end Whitespace
