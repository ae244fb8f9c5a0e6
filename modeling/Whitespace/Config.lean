import Whitespace.Error
import Whitespace.Style.Description
import Whitespace.Json.Writer

/-!
# Settings

Settings are a JSON object; every field may be left out.  An array gives the
fields in order.  Unknown and repeated fields are refused.
-/

namespace Whitespace

structure Config where
  style : Option String := none
  styleFile : Option String := none
  strict : Bool := false
  strictForeign : Bool := false
  maxSteps : Option Nat := none
  trace : Bool := false
  deriving DecidableEq, Repr

namespace Config

def fieldNames : List String :=
  ["style", "style_file", "strict", "strict_foreign", "max_steps", "trace"]

/-!
# Reading
-/

def optionalText? : Json -> Option (Option String)
  | .null => some none
  | .text (some content) => some (some content)
  | _ => none

def flag? : Json -> Option Bool
  | .bool value => some value
  | _ => none

def optionalCount? : Json -> Option (Option Nat)
  | .null => some none
  | value =>
      match value.natural? with
      | some count => if count ≤ wordMax then some (some count) else none
      | none => none

def set? (config : Config) (name : String) (value : Json) : Option Config :=
  match name with
  | "style" => do return { config with style := (<- optionalText? value) }
  | "style_file" => do return { config with styleFile := (<- optionalText? value) }
  | "strict" => do return { config with strict := (<- flag? value) }
  | "strict_foreign" => do return { config with strictForeign := (<- flag? value) }
  | "max_steps" => do return { config with maxSteps := (<- optionalCount? value) }
  | "trace" => do return { config with trace := (<- flag? value) }
  | _ => none

/-- Set fields in order; `seen` are the names that were set before. -/
def setAll? (config : Config) (seen : List String) :
    List (Option String × Json) -> Option Config
  | [] => some config
  | (none, _) :: _ => none
  | (some name, value) :: rest =>
      if name ∈ seen then none
      else do (<- config.set? name value).setAll? (name :: seen) rest

def ofJson? : Json -> Option Config
  | .object fields => setAll? {} [] fields
  | .array items =>
      if items.length ≤ fieldNames.length then
        setAll? {} [] ((fieldNames.map some).zip items)
      else
        none
  | _ => none

def parse (text : String) : Except Error Config :=
  match (Json.parse? text).bind ofJson? with
  | some config => .ok config
  | none => .error (.config .malformed)

/-!
# Writing
-/

def textJson : Option String -> Json
  | some content => .ofString content
  | none => .null

def countJson : Option Nat -> Json
  | some count => .ofNat count
  | none => .null

def json (config : Config) : Json :=
  .object
    [ (some "style", textJson config.style),
      (some "style_file", textJson config.styleFile),
      (some "strict", .bool config.strict),
      (some "strict_foreign", .bool config.strictForeign),
      (some "max_steps", countJson config.maxSteps),
      (some "trace", .bool config.trace) ]

/-!
# Use
-/

def mode (config : Config) : Mode :=
  if config.strict then .strict else .lenient

variable {m : Type -> Type} [Monad m] [MonadFiles m]

def load (path : String) : m (Except Error Config) := do
  match (<- readText path) with
  | .ok text => return parse text
  | .error error => return .error (.config (.unreadable path error))

/-- The style that settings name: a described one, else a built-in one, else the default. -/
def resolveStyle (config : Config) : m (Except Error Style) := do
  match config.styleFile with
  | some path =>
      match (<- readText path) with
      | .ok text => return (Style.ofDescription text).mapError .style
      | .error error => return .error (.config (.unreadable path error))
  | none =>
      match config.style with
      | some name => return (Style.builtin name).mapError .style
      | none => return .ok Style.origin

end Config
end Whitespace
