import Std.Data.TreeMap
import Whitespace.Machine.Console
import Whitespace.Text.Lossy

/-!
# Files

Programs, styles and settings may live in files.  Access to them is an interface
with one pure model, a directory of files held as a value.
-/

namespace Whitespace

inductive FileError where
  | notFound
  | isDirectory
  | notText
  | other (text : String)
  deriving DecidableEq, Repr

def FileError.message : FileError -> String
  | notFound => "No such file or directory (os error 2)"
  | isDirectory => "Is a directory (os error 21)"
  | notText => "stream did not contain valid UTF-8"
  | other text => text

class MonadFiles (m : Type -> Type) where
  isFile : String -> m Bool
  readBytes : String -> m (Except FileError (List UInt8))
  writeText : String -> String -> m (Except FileError Unit)

export MonadFiles (isFile readBytes writeText)

def readText {m : Type -> Type} [Monad m] [MonadFiles m] (path : String) :
    m (Except FileError String) := do
  match (<- readBytes path) with
  | .error error => return .error error
  | .ok bytes =>
      match decodeUtf8? bytes with
      | some chars => return .ok (String.ofList chars)
      | none => return .error .notText

/-!
# Directories

A directory has a path that ends with a slash, and files directly under it.
-/

structure Directory where
  path : String
  files : Std.TreeMap String (List UInt8)

namespace Directory

/-- The name of the file that a path stands for; the empty name is the directory itself. -/
def name? (directory : Directory) (path : String) : Option String :=
  if directory.path.toList.isPrefixOf path.toList then
    some (String.ofList (path.toList.drop directory.path.length))
  else
    none

def read (directory : Directory) (path : String) : Except FileError (List UInt8) :=
  match directory.name? path with
  | none => .error .notFound
  | some name =>
      if name.isEmpty then .error .isDirectory
      else
        match directory.files[name]? with
        | some bytes => .ok bytes
        | none => .error .notFound

/-- Write a file; there are no directories below this one. -/
def write (directory : Directory) (path text : String) : Except FileError Directory :=
  match directory.name? path with
  | none => .error .notFound
  | some name =>
      if name.isEmpty then .error .isDirectory
      else if name.contains '/' then .error .notFound
      else .ok { directory with files := directory.files.insert name text.toUTF8.toList }

def texts (directory : Directory) : List (String × String) :=
  directory.files.toList.map fun file => (file.1, Text.decodeLossy file.2)

end Directory

class HasDirectory (σ : Type) where
  directory : σ -> Directory
  setDirectory : σ -> Directory -> σ

instance : HasDirectory Directory where
  directory state := state
  setDirectory _ directory := directory

instance {σ : Type} [HasDirectory σ] : MonadFiles (StateM σ) where
  isFile path := do
    return match (HasDirectory.directory (<- get)).read path with
      | .ok _ => true
      | .error _ => false
  readBytes path := do return (HasDirectory.directory (<- get)).read path
  writeText path text := do
    let state <- get
    match (HasDirectory.directory state).write path text with
    | .ok directory => set (HasDirectory.setDirectory state directory); return .ok ()
    | .error error => return .error error

end Whitespace
