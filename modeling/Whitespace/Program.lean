import Whitespace.Literal
import Whitespace.Opcode

/-!
# Instructions and programs

An instruction is an opcode with the operand its family asks for.  A program is
a sequence of instructions.  Both are written as words of symbols: the path of
the opcode, then the digits of the operand and a line feed that ends them.
-/

namespace Whitespace

inductive Instruction where
  | plain (op : PlainOp)
  | number (op : NumberOp) (operand : Number)
  | label (op : LabelOp) (operand : Label)
  deriving DecidableEq, Repr

namespace Instruction

def opcode : Instruction -> Opcode
  | plain op => .plain op
  | number op _ => .number op
  | label op _ => .label op

def operandValue? : Instruction -> Option Int
  | plain _ => none
  | number _ operand => some operand.value
  | label _ operand => some operand.value

/-- The digits of the operand, closed by a line feed; nothing without operand. -/
def operandSymbols : Instruction -> List Symbol
  | plain _ => []
  | number _ operand => operand.symbols ++ [Symbol.lineFeed]
  | label _ operand => operand.symbols ++ [Symbol.lineFeed]

def symbols (instruction : Instruction) : List Symbol :=
  instruction.opcode.path ++ instruction.operandSymbols

def text : Instruction -> String
  | plain op => (Opcode.plain op).mnemonic
  | number op operand => (Opcode.number op).mnemonic ++ " " ++ toString operand.value
  | label op operand => (Opcode.label op).mnemonic ++ " " ++ toString operand.value

def dump : Instruction -> String
  | plain op => (Opcode.plain op).name
  | number op operand => s!"{(Opcode.number op).name}(Number({operand.value}))"
  | label op operand => s!"{(Opcode.label op).name}(Label({operand.value}))"

/-- Two instructions agree when opcode and operand value do, whatever the digits. -/
def agrees (left right : Instruction) : Bool :=
  left.opcode == right.opcode && left.operandValue? == right.operandValue?

end Instruction

abbrev Program := Array Instruction

namespace Program

def symbols (program : Program) : List Symbol :=
  program.toList.flatMap Instruction.symbols

def hasEnd (program : Program) : Bool :=
  program.toList.contains (.plain .halt)

def agrees (left right : Program) : Bool :=
  left.size == right.size &&
    (left.toList.zip right.toList).all fun pair => pair.1.agrees pair.2

end Program
end Whitespace
