import Whitespace.Symbol

/-!
# Opcodes

Opcodes come in three families: plain ones without an operand, those that take
a number and those that take a label.  Each has a path, a word of symbols that
selects it; the paths form a prefix code.  Mnemonics name opcodes in assembly
text, in either case and with a few aliases.
-/

namespace Whitespace

inductive ArithmeticOp where
  | add
  | sub
  | mul
  | div
  | mod
  deriving DecidableEq, Repr

inductive PlainOp where
  | dup
  | swap
  | pop
  | arithmetic (op : ArithmeticOp)
  | store
  | retrieve
  | printChar
  | printNumber
  | readChar
  | readNumber
  | ret
  | halt
  deriving DecidableEq, Repr

inductive NumberOp where
  | push
  | copy
  | slide
  deriving DecidableEq, Repr

inductive LabelOp where
  | mark
  | call
  | jump
  | jumpZero
  | jumpNegative
  | foreign
  deriving DecidableEq, Repr

inductive Opcode where
  | plain (op : PlainOp)
  | number (op : NumberOp)
  | label (op : LabelOp)
  deriving DecidableEq, Repr

inductive LiteralOp where
  | number (op : NumberOp)
  | label (op : LabelOp)
  deriving DecidableEq, Repr

def LiteralOp.opcode : LiteralOp -> Opcode
  | number op => .number op
  | label op => .label op

namespace Opcode

/-- All opcodes, group by group: stack, arithmetic, heap, input and output, flow. -/
def catalog : List Opcode :=
  [ .number .push, .plain .dup, .number .copy, .plain .swap, .plain .pop, .number .slide,
    .plain (.arithmetic .add), .plain (.arithmetic .sub), .plain (.arithmetic .mul),
    .plain (.arithmetic .div), .plain (.arithmetic .mod),
    .plain .store, .plain .retrieve,
    .plain .printChar, .plain .printNumber, .plain .readChar, .plain .readNumber,
    .label .mark, .label .call, .label .jump, .label .jumpZero, .label .jumpNegative,
    .plain .ret, .plain .halt, .label .foreign ]

/-!
# Paths

The first symbol or two select the group: space for the stack, tab space for
arithmetic, tab tab for the heap, tab line feed for input and output, and line
feed for flow control.
-/

open Whitespace.Symbol in
def path : Opcode -> List Symbol
  | number .push => [space, space]
  | plain .dup => [space, lineFeed, space]
  | number .copy => [space, tab, space]
  | plain .swap => [space, lineFeed, tab]
  | plain .pop => [space, lineFeed, lineFeed]
  | number .slide => [space, tab, lineFeed]
  | plain (.arithmetic .add) => [tab, space, space, space]
  | plain (.arithmetic .sub) => [tab, space, space, tab]
  | plain (.arithmetic .mul) => [tab, space, space, lineFeed]
  | plain (.arithmetic .div) => [tab, space, tab, space]
  | plain (.arithmetic .mod) => [tab, space, tab, tab]
  | plain .store => [tab, tab, space]
  | plain .retrieve => [tab, tab, tab]
  | plain .printChar => [tab, lineFeed, space, space]
  | plain .printNumber => [tab, lineFeed, space, tab]
  | plain .readChar => [tab, lineFeed, tab, space]
  | plain .readNumber => [tab, lineFeed, tab, tab]
  | label .mark => [lineFeed, space, space]
  | label .call => [lineFeed, space, tab]
  | label .jump => [lineFeed, space, lineFeed]
  | label .jumpZero => [lineFeed, tab, space]
  | label .jumpNegative => [lineFeed, tab, tab]
  | plain .ret => [lineFeed, tab, lineFeed]
  | plain .halt => [lineFeed, lineFeed, lineFeed]
  | label .foreign => [lineFeed, lineFeed, space]

theorem mem_catalog (op : Opcode) : op ∈ catalog := by
  cases op with
  | plain op =>
      cases op with
      | arithmetic op => cases op <;> decide
      | _ => decide
  | number op => cases op <;> decide
  | label op => cases op <;> decide

/-!
# Names
-/

def mnemonic : Opcode -> String
  | number .push => "PUSH"
  | plain .dup => "DUP"
  | number .copy => "COPY"
  | plain .swap => "SWAP"
  | plain .pop => "POP"
  | number .slide => "SLIDE"
  | plain (.arithmetic .add) => "ADD"
  | plain (.arithmetic .sub) => "SUB"
  | plain (.arithmetic .mul) => "MUL"
  | plain (.arithmetic .div) => "DIV"
  | plain (.arithmetic .mod) => "MOD"
  | plain .store => "STORE"
  | plain .retrieve => "RETRIEVE"
  | plain .printChar => "PCHR"
  | plain .printNumber => "PNUM"
  | plain .readChar => "RCHR"
  | plain .readNumber => "RNUM"
  | label .mark => "MARK"
  | label .call => "CALL"
  | label .jump => "JUMP"
  | label .jumpZero => "JZ"
  | label .jumpNegative => "JN"
  | plain .ret => "RET"
  | plain .halt => "END"
  | label .foreign => "FFI"

/-- Further mnemonics that are read but never written. -/
def aliases : List (String × Opcode) :=
  [ ("DROP", plain .pop), ("SKIP", number .slide), ("LOAD", plain .retrieve),
    ("JMP", label .jump), ("JS", label .jumpNegative), ("RETURN", plain .ret),
    ("HALT", plain .halt), ("HLT", plain .halt), ("PYFN", label .foreign) ]

def mnemonics : List (String × Opcode) :=
  catalog.map (fun op => (op.mnemonic, op)) ++ aliases

def ofMnemonic? (word : List Char) : Option Opcode :=
  mnemonics.lookup (String.ofList (word.map Char.toUpper))

def name : Opcode -> String
  | number .push => "Push"
  | plain .dup => "Dup"
  | number .copy => "Copy"
  | plain .swap => "Swap"
  | plain .pop => "Pop"
  | number .slide => "Slide"
  | plain (.arithmetic .add) => "Add"
  | plain (.arithmetic .sub) => "Sub"
  | plain (.arithmetic .mul) => "Mul"
  | plain (.arithmetic .div) => "Div"
  | plain (.arithmetic .mod) => "Mod"
  | plain .store => "Store"
  | plain .retrieve => "Retrieve"
  | plain .printChar => "PrintChar"
  | plain .printNumber => "PrintNumber"
  | plain .readChar => "ReadChar"
  | plain .readNumber => "ReadNumber"
  | label .mark => "Mark"
  | label .call => "Call"
  | label .jump => "Jump"
  | label .jumpZero => "JumpZero"
  | label .jumpNegative => "JumpNegative"
  | plain .ret => "Return"
  | plain .halt => "End"
  | label .foreign => "Foreign"

end Opcode
end Whitespace
