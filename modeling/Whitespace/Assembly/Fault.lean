import Whitespace.Program
import Whitespace.Assembly.PushSequence

/-!
# Faults in assembly text

A fault says what is wrong with one line; an error adds the number of the line,
counted from one.
-/

namespace Whitespace

inductive LiteralFault where
  | digits (error : LiteralError)
  | expectedDigits
  | notInteger (radix : Nat)
  | unterminatedChar
  | unknownEscape (char : Char)
  | notSingleChar
  deriving DecidableEq, Repr

def LiteralFault.message : LiteralFault -> String
  | digits error => error.message
  | expectedDigits => "expected digits"
  | notInteger radix => s!"not a base-{radix} integer"
  | unterminatedChar => "unterminated character literal"
  | unknownEscape char => s!"unknown escape \\{char}"
  | notSingleChar => "expected a single character"

inductive AssemblyFault where
  | unknownMnemonic (word : String)
  | missingArgument (op : Opcode)
  | unexpectedArgument (op : Opcode) (argument : String)
  | invalidLiteral (literal : String) (fault : LiteralFault)
  | outOfRange (value : Int)
  | sequence (error : SequenceError)
  deriving DecidableEq, Repr

structure AssemblyError where
  line : Nat
  fault : AssemblyFault
  deriving DecidableEq, Repr

def AssemblyError.message (error : AssemblyError) : String :=
  let line := error.line
  match error.fault with
  | .unknownMnemonic word => s!"unknown mnemonic on line {line}: {word}"
  | .missingArgument op => s!"{op.mnemonic} on line {line} requires an argument"
  | .unexpectedArgument op argument =>
      s!"{op.mnemonic} on line {line} takes no argument, found `{argument}`"
  | .invalidLiteral literal fault =>
      s!"invalid literal `{literal}` on line {line}: {fault.message}"
  | .outOfRange value => s!"value out of range on line {line}: {value}"
  | .sequence error => s!"macro error on line {line}: {error.message}"

end Whitespace
