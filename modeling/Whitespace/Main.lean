import Whitespace.CommandLine

/-!
# The program

The command line on real files and on the standard streams.  A machine is fed
one line of standard input whenever its next instruction needs one.
-/

namespace Whitespace
namespace Terminal

partial def readLineBytes (stream : IO.FS.Stream) (taken : List UInt8) : IO (List UInt8) := do
  let bytes <- stream.read 1
  match bytes.toList with
  | [] => return taken.reverse
  | byte :: _ =>
      if byte = 10 then return (byte :: taken).reverse
      else readLineBytes stream (byte :: taken)

def needsLine (machine : Machine) : Bool :=
  match machine.program[machine.pc]? with
  | some (.plain .readChar) => machine.memory.line.isEmpty
  | some (.plain .readNumber) => true
  | _ => false

def printOutput (machine : Machine) : IO Machine := do
  let stdout <- IO.getStdout
  stdout.putStr machine.memory.output.text
  return { machine with
    memory := { machine.memory with output := { machine.memory.output with text := "" } } }

/-- Run step by step, with at most `remaining` steps if there is a bound. -/
partial def runOnStreams (start : Nat) (remaining : Option Nat) (machine : Machine) :
    IO (Except MachineError Nat × Machine) := do
  if machine.status ≠ .running ∨ remaining = some 0 then
    return (.ok (machine.steps - start), machine)
  else
    let machine <-
      if needsLine machine ∧ machine.memory.input.bytes.isEmpty then do
        (<- IO.getStdout).flush
        pure (machine.feed (<- readLineBytes (<- IO.getStdin) []))
      else
        pure machine
    let (result, stepped) := machine.runLimited 1
    let printed <- printOutput stepped
    match result with
    | .error error => return (.error error, printed)
    | .ok _ => runOnStreams start (remaining.map (· - 1)) printed

def fileError : IO.Error -> FileError
  | .noFileOrDirectory .. => .notFound
  | .inappropriateType .. => .isDirectory
  | error => .other (toString error)

instance : MonadFiles IO where
  isFile path := do
    try
      discard (IO.FS.readBinFile path)
      return true
    catch _ => return false
  readBytes path := do
    try
      return .ok (<- IO.FS.readBinFile path).toList
    catch error => return .error (fileError error)
  writeText path text := do
    try
      IO.FS.writeFile path text
      return .ok ()
    catch error => return .error (fileError error)

instance : MonadConsole IO where
  print text := do (<- IO.getStdout).putStr text
  printError text := do (<- IO.getStderr).putStr text
  drive machine limit := do
    let result <- runOnStreams machine.steps limit machine
    (<- IO.getStdout).flush
    return result

end Terminal
end Whitespace

def main (arguments : List String) : IO UInt32 :=
  Whitespace.CommandLine.execute arguments
