import Whitespace.Assembly.Argument

/-!
# Assembly lines

A line holds at most one statement: a mnemonic and its argument.  A comment runs
from `#` or `;` to the end of the line, unless that character stands inside
quotes; inside quotes a backslash takes the next character with it.
-/

namespace Whitespace

/-!
# Comments
-/

inductive Quoting where
  | outside
  | inside (quote : Char)
  | escaped (quote : Char)
  deriving DecidableEq, Repr

def uncommented : Quoting -> List Char -> List Char
  | _, [] => []
  | .escaped quote, c :: rest => c :: uncommented (.inside quote) rest
  | .inside quote, c :: rest =>
      if c = '\\' then c :: uncommented (.escaped quote) rest
      else if c = quote then c :: uncommented .outside rest
      else c :: uncommented (.inside quote) rest
  | .outside, c :: rest =>
      if c = '"' ∨ c = '\'' then c :: uncommented (.inside c) rest
      else if c = '#' ∨ c = ';' then []
      else c :: uncommented .outside rest

/-!
# Statements
-/

structure Statement where
  word : List Char
  argument : Option (List Char)
  deriving DecidableEq, Repr

namespace Statement

def ofLine? (line : List Char) : Option Statement :=
  match Text.trim (uncommented .outside line) with
  | [] => none
  | text =>
      let (word, rest) := Text.splitWord text
      match Text.trim rest with
      | [] => some ⟨word, none⟩
      | argument => some ⟨word, some argument⟩

def instruction (statement : Statement) : Except AssemblyFault Instruction :=
  match Opcode.ofMnemonic? statement.word, statement.argument with
  | none, _ => .error (.unknownMnemonic (String.ofList statement.word))
  | some (.plain op), none => .ok (.plain op)
  | some (.plain op), some argument =>
      .error (.unexpectedArgument (.plain op) (String.ofList argument))
  | some (.number op), none => .error (.missingArgument (.number op))
  | some (.number op), some argument => .number op <$> Argument.number argument
  | some (.label op), none => .error (.missingArgument (.label op))
  | some (.label op), some argument => .label op <$> Argument.label argument

end Statement

/-!
# Instructions of a line
-/

def plainLine (line : List Char) : Except AssemblyFault (List Instruction) :=
  match Statement.ofLine? line with
  | none => .ok []
  | some statement => do return [<- statement.instruction]

def expandedLines : List String -> Except AssemblyFault (List Instruction)
  | [] => .ok []
  | line :: rest => do return (<- plainLine line.toList) ++ (<- expandedLines rest)

def assembleLine (line : List Char) : Except AssemblyFault (List Instruction) :=
  match Statement.ofLine? line with
  | none => .ok []
  | some statement =>
      if PushSequence.isName statement.word then
        match PushSequence.expand statement.argument with
        | .error error => .error (.sequence error)
        | .ok lines => expandedLines lines
      else do
        return [<- statement.instruction]

end Whitespace
