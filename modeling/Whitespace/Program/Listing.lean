import Whitespace.Program
import Whitespace.Text.Padding

/-!
# Listings

The disassembly of a program is assembly text again, one instruction a line
under two comment lines.  The listing shows index, text and symbols side by side.
-/

namespace Whitespace
namespace Program

def disassembly (program : Program) : String :=
  "# Whitespace disassembly\n" ++
    s!"# {program.size} instructions\n" ++
      String.join (program.toList.map fun instruction => instruction.text ++ "\n")

def indexText (index : Nat) : String :=
  Text.padLeft 4 '0' (toString index)

def listingLine (index : Nat) (instruction : Instruction) : String :=
  indexText index ++ ": " ++ Text.padRight 16 ' ' instruction.text ++
    " # " ++ letters instruction.symbols ++ "\n"

def listing (program : Program) : String :=
  String.join (program.toList.zipIdx.map fun entry => listingLine entry.2 entry.1)

end Program
end Whitespace
