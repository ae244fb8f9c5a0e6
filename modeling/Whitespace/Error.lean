import Whitespace.Program.Decoding
import Whitespace.Assembly.Fault
import Whitespace.Style
import Whitespace.Machine.Error
import Whitespace.Files

/-!
# Errors

Everything that can go wrong between a source text and a finished run, with the
part of the work it comes from named in front of the message.
-/

namespace Whitespace

structure SourceError where
  path : String
  error : FileError
  deriving DecidableEq, Repr

def SourceError.message (error : SourceError) : String :=
  s!"I/O error: {error.path}: {error.error.message}"

inductive ConfigError where
  | unreadable (path : String) (error : FileError)
  | malformed
  deriving DecidableEq, Repr

def ConfigError.message : ConfigError -> String
  | unreadable path error => s!"{path}: {error.message}"
  | malformed => "invalid settings"

inductive Error where
  | decode (error : DecodeError)
  | machine (error : MachineError)
  | assembly (error : AssemblyError)
  | style (error : StyleError)
  | source (error : SourceError)
  | config (error : ConfigError)
  deriving DecidableEq, Repr

def Error.message : Error -> String
  | decode error => "syntax error: " ++ error.message
  | machine error => "runtime error: " ++ error.message
  | assembly error => "assembler error: " ++ error.message
  | style error => "style error: " ++ error.message
  | source error => "source error: " ++ error.message
  | config error => "config error: " ++ error.message

end Whitespace
