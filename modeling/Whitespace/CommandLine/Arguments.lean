import Whitespace.Config

/-!
# Command-line arguments

A command is followed by its options and its one positional argument in any
order.  An option that takes a value is written with the value behind an equals
sign or as the next argument; each option is given at most once.  Two dashes
alone end the options.
-/

namespace Whitespace
namespace CommandLine

structure CommonOptions where
  style : Option String := none
  styleFile : Option String := none
  strict : Bool := false
  config : Option String := none
  trace : Bool := false
  assembly : Bool := false
  deriving DecidableEq, Repr

inductive Command where
  | greeting
  | version
  | help
  | run (program : String) (maxSteps : Option Nat) (strictForeign json : Bool)
      (options : CommonOptions)
  | assemble (source : String) (output : Option String) (options : CommonOptions)
  | list (program : String) (options : CommonOptions)
  | debug (program : String) (options : CommonOptions)
  | selfTest
  deriving DecidableEq, Repr

/-!
# Options
-/

inductive ValueKind where
  | flag
  | text
  | path
  | count
  deriving DecidableEq, Repr

structure OptionSpec where
  name : String
  kind : ValueKind
  short : Option Char := none
  deriving DecidableEq, Repr

def commonSpecs : List OptionSpec :=
  [ ⟨"style", .text, none⟩, ⟨"style-file", .path, none⟩, ⟨"strict", .flag, none⟩,
    ⟨"config", .path, none⟩, ⟨"trace", .flag, none⟩, ⟨"asm", .flag, none⟩ ]

def runSpecs : List OptionSpec :=
  [⟨"max-steps", .count, none⟩, ⟨"strict-foreign", .flag, none⟩, ⟨"json", .flag, none⟩] ++
    commonSpecs

def assembleSpecs : List OptionSpec :=
  ⟨"output", .path, some 'o'⟩ :: commonSpecs

/-- A count in decimal digits, with a plus sign or without, that fits a 64-bit word. -/
def count? (text : String) : Option Nat :=
  let digits := match text.toList with
    | '+' :: digits => digits
    | digits => digits
  if digits.isEmpty ∨ ¬ digits.all Char.isDigit then none
  else (Text.readNatural? 10 digits).filter (· ≤ wordMax)

def ValueKind.accepts : ValueKind -> String -> Bool
  | flag, _ => false
  | text, _ => true
  | path, value => !value.isEmpty
  | count, value => (count? value).isSome

structure Given where
  options : List (String × String) := []
  positionals : List String := []

namespace Given

def has (given : Given) (name : String) : Bool :=
  (given.options.lookup name).isSome

def value? (given : Given) (name : String) : Option String :=
  given.options.lookup name

def addOption? (given : Given) (spec : OptionSpec) (value : String) : Option Given :=
  if given.has spec.name ∨ ¬ spec.kind.accepts value then none
  else some { given with options := (spec.name, value) :: given.options }

def addFlag? (given : Given) (spec : OptionSpec) : Option Given :=
  if given.has spec.name then none
  else some { given with options := (spec.name, "") :: given.options }

end Given

inductive Shape where
  | separator
  | long (name : List Char) (value : Option (List Char))
  | short (name : Char) (rest : List Char)
  | positional
  deriving DecidableEq, Repr

def shapeOf (argument : List Char) : Shape :=
  match argument with
  | ['-', '-'] => .separator
  | '-' :: '-' :: rest =>
      let name := rest.takeWhile (· != '=')
      match rest.dropWhile (· != '=') with
      | [] => .long name none
      | _ :: value => .long name (some value)
  | '-' :: name :: rest => .short name rest
  | _ => .positional

def isValue (argument : String) : Bool :=
  shapeOf argument.toList == .positional

inductive Item where
  | positional (text : String)
  | flag (spec : OptionSpec)
  | option (spec : OptionSpec) (value : String)
  | help
  | wrong

def items (specs : List OptionSpec) : List String -> List Item
  | [] => []
  | argument :: rest =>
      match shapeOf argument.toList with
      | .separator => rest.map .positional
      | .positional => .positional argument :: items specs rest
      | .long name value =>
          if name = "help".toList ∧ value = none then [.help]
          else
            match specs.find? (·.name.toList == name) with
            | none => [.wrong]
            | some spec =>
                match spec.kind, value with
                | .flag, none => .flag spec :: items specs rest
                | .flag, some _ => [.wrong]
                | _, some value => .option spec (String.ofList value) :: items specs rest
                | _, none =>
                    match rest with
                    | [] => [.wrong]
                    | value :: rest =>
                        if isValue value then .option spec value :: items specs rest
                        else [.wrong]
      | .short name attached =>
          if name = 'h' then [.help]
          else
            match specs.find? (·.short == some name) with
            | none => [.wrong]
            | some spec =>
                match attached with
                | '=' :: value => .option spec (String.ofList value) :: items specs rest
                | first :: value =>
                    .option spec (String.ofList (first :: value)) :: items specs rest
                | [] =>
                    match rest with
                    | [] => [.wrong]
                    | value :: rest =>
                        if isValue value then .option spec value :: items specs rest
                        else [.wrong]

inductive Parsed where
  | given (given : Given)
  | help
  | wrong

/-- Take in items from left to right, among them at most `limit` positional arguments. -/
def Given.collect (limit : Nat) (given : Given) : List Item -> Parsed
  | [] => .given given
  | .help :: _ => .help
  | .wrong :: _ => .wrong
  | .positional text :: rest =>
      if given.positionals.length < limit then
        Given.collect limit { given with positionals := given.positionals ++ [text] } rest
      else
        .wrong
  | .flag spec :: rest =>
      match given.addFlag? spec with
      | some given => given.collect limit rest
      | none => .wrong
  | .option spec value :: rest =>
      match given.addOption? spec value with
      | some given => given.collect limit rest
      | none => .wrong

def parseArguments (specs : List OptionSpec) (limit : Nat) (arguments : List String) : Parsed :=
  Given.collect limit {} (items specs arguments)

/-!
# Commands
-/

def Given.common (given : Given) : CommonOptions where
  style := given.value? "style"
  styleFile := given.value? "style-file"
  strict := given.has "strict"
  config := given.value? "config"
  trace := given.has "trace"
  assembly := given.has "asm"

def parseWith (specs : List OptionSpec) (arguments : List String)
    (build : String -> Given -> Command) : Option Command :=
  match parseArguments specs 1 arguments with
  | .help => some .help
  | .wrong => none
  | .given given =>
      match given.positionals with
      | [positional] => some (build positional given)
      | _ => none

def Command.named? (name : String) (arguments : List String) : Option Command :=
  match name with
  | "run" =>
      parseWith runSpecs arguments fun program given =>
        .run program ((given.value? "max-steps").bind count?) (given.has "strict-foreign")
          (given.has "json") given.common
  | "asm" =>
      parseWith assembleSpecs arguments fun source given =>
        .assemble source (given.value? "output") given.common
  | "ir" => parseWith commonSpecs arguments fun program given => .list program given.common
  | "debug" => parseWith commonSpecs arguments fun program given => .debug program given.common
  | "test" =>
      match parseArguments [] 0 arguments with
      | .help => some .help
      | .wrong => none
      | .given _ => some .selfTest
  | "help" =>
      match arguments with
      | [] => some .help
      | [topic] =>
          if ["run", "asm", "ir", "debug", "test", "help"].contains topic then some .help
          else none
      | _ => none
  | _ => none

/-- The command that arguments ask for; none if they are not understood.  What follows a request
for the version or for help is not looked at, and neither is what is attached to its letter. -/
def Command.parse? (arguments : List String) : Option Command :=
  match arguments with
  | [] => some .greeting
  | first :: rest =>
      match shapeOf first.toList with
      | .separator => if rest.isEmpty then some .greeting else none
      | .long name none =>
          if name = "version".toList then some .version
          else if name = "help".toList then some .help
          else none
      | .long _ (some _) => none
      | .short name _ =>
          if name = 'V' then some .version else if name = 'h' then some .help else none
      | .positional => Command.named? first rest

end CommandLine
end Whitespace
