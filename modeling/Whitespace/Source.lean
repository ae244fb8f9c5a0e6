import Whitespace.Error

/-!
# Source files

Source text in a style, read from and written to files.  A program may also be
given in place of a path to it.
-/

namespace Whitespace

variable {m : Type -> Type} [Monad m] [MonadFiles m]

def loadSource (path : String) (style : Style) : m (Except SourceError (List Symbol)) := do
  match (<- readText path) with
  | .ok text => return .ok (style.remap text)
  | .error error => return .error ⟨path, error⟩

def saveSource (path : String) (word : List Symbol) (style : Style) :
    m (Except SourceError Unit) := do
  match (<- writeText path (style.render word)) with
  | .ok () => return .ok ()
  | .error error => return .error ⟨path, error⟩

/-- The text of a file, or the argument itself if it is no path of a file. -/
def readProgramText (argument : String) : m (Except SourceError String) := do
  if (<- isFile argument) then
    match (<- readText argument) with
    | .ok text => return .ok text
    | .error error => return .error ⟨argument, error⟩
  else
    return .ok argument

end Whitespace
