import Whitespace.Program
import Whitespace.Program.CodeTree

/-!
# Reading programs from symbols

Opcode paths form a prefix code, so a word of symbols is read one symbol at a
time: the code tree is walked down to an opcode, then the digits of a literal are
collected up to the line feed that ends them.

Lenient reading drops an instruction that the end of the word cuts off; strict
reading refuses it, and also refuses empty labels and programs that never end.
-/

namespace Whitespace

inductive Mode where
  | lenient
  | strict
  deriving DecidableEq, Repr, Inhabited

/-- Why a word of symbols is no program; offsets count symbols from the start. -/
inductive DecodeError where
  | unknownOpcode (offset : Nat) (path : List Symbol)
  | cutOpcode (offset : Nat) (path : List Symbol)
  | cutLiteral (offset : Nat) (op : Opcode)
  | emptyLabel (offset : Nat) (op : Opcode)
  | badLiteral (offset : Nat) (op : Opcode) (error : LiteralError)
  | missingEnd
  deriving DecidableEq, Repr

def DecodeError.message : DecodeError -> String
  | unknownOpcode offset path => s!"no opcode for path {letters path} at symbol {offset}"
  | cutOpcode offset path =>
      s!"input ends inside opcode {letters path} starting at symbol {offset}"
  | cutLiteral offset op =>
      s!"input ends inside the literal of {op.mnemonic} at symbol {offset}"
  | emptyLabel offset op => s!"empty label for {op.mnemonic} at symbol {offset}"
  | badLiteral offset op error =>
      s!"bad literal for {op.mnemonic} at symbol {offset}: {error.message}"
  | missingEnd => "program never ends (no END instruction)"

/-- An instruction that the end of the word cuts off, with the offset of its start. -/
inductive Remnant where
  | opcode (offset : Nat) (path : List Symbol)
  | literal (offset : Nat) (op : Opcode)
  deriving DecidableEq, Repr

structure Reading where
  program : Program
  dropped : Option Remnant

/-!
# The scanner

Between two symbols the scanner stands at a node of the code tree or inside the
digits of a literal.  It remembers where the instruction started and what it has
seen of the path; digits are held newest first.
-/

inductive Scan where
  | walking (start node : Nat) (seen : List Symbol)
  | capturing (start : Nat) (op : LiteralOp) (digits : List Symbol)
  deriving DecidableEq, Repr

namespace Scan

def before (start : Nat) : Scan :=
  walking start CodeTree.root []

def remnant : Scan -> Option Remnant
  | walking start node seen => if node = CodeTree.root then none else some (.opcode start seen)
  | capturing start op _ => some (.literal start op.opcode)

/-- The end of the word: a remnant is dropped or, in strict mode, refused. -/
def finish (mode : Mode) (scan : Scan) :
    Except DecodeError (List Instruction × Option Remnant) :=
  match mode, scan.remnant with
  | .strict, some (.opcode offset seen) => .error (.cutOpcode offset seen)
  | .strict, some (.literal offset op) => .error (.cutLiteral offset op)
  | _, remnant => .ok ([], remnant)

def emit (instruction : Instruction) :
    Except DecodeError (List Instruction × Option Remnant) ->
      Except DecodeError (List Instruction × Option Remnant)
  | .ok (rest, remnant) => .ok (instruction :: rest, remnant)
  | .error error => .error error

def complete (mode : Mode) (start : Nat) (digits : List Symbol) :
    LiteralOp -> Except DecodeError Instruction
  | .number op =>
      match Number.ofSymbols digits with
      | .error error => .error (.badLiteral start (.number op) error)
      | .ok operand => .ok (.number op operand)
  | .label op =>
      if mode = .strict ∧ digits = [] then
        .error (.emptyLabel start (.label op))
      else
        match Label.ofSymbols digits with
        | .error error => .error (.badLiteral start (.label op) error)
        | .ok operand => .ok (.label op operand)

/-- Read the rest of a word, of which `offset` symbols came before. -/
def run (mode : Mode) :
    Scan -> Nat -> List Symbol -> Except DecodeError (List Instruction × Option Remnant)
  | scan, _, [] => scan.finish mode
  | walking start node seen, offset, symbol :: rest =>
      match Opcode.tree.slot node symbol with
      | .empty => .error (.unknownOpcode start (seen ++ [symbol]))
      | .branch next => run mode (walking start next (seen ++ [symbol])) (offset + 1) rest
      | .leaf (.plain op) => emit (.plain op) (run mode (before (offset + 1)) (offset + 1) rest)
      | .leaf (.number op) => run mode (capturing start (.number op) []) (offset + 1) rest
      | .leaf (.label op) => run mode (capturing start (.label op) []) (offset + 1) rest
  | capturing start op digits, offset, symbol :: rest =>
      if symbol = .lineFeed then
        match complete mode start digits.reverse op with
        | .error error => .error error
        | .ok instruction => emit instruction (run mode (before (offset + 1)) (offset + 1) rest)
      else
        run mode (capturing start op (symbol :: digits)) (offset + 1) rest

end Scan

/-!
# Programs
-/

def Program.decode (mode : Mode) (word : List Symbol) : Except DecodeError Reading :=
  match Scan.run mode (.before 0) 0 word with
  | .error error => .error error
  | .ok (instructions, dropped) =>
      let program : Program := instructions.toArray
      if mode = .strict ∧ program.hasEnd = false then
        .error .missingEnd
      else
        .ok ⟨program, dropped⟩

end Whitespace
