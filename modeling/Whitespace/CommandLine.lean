import Whitespace.CommandLine.Arguments
import Whitespace.CommandLine.SelfTest
import Whitespace.Source

/-!
# The command line

Commands work on files and on a console.  Both are interfaces; the pure model is
a desk, which holds a directory, the standard input and what was printed.
-/

namespace Whitespace

class MonadConsole (m : Type -> Type) extends MonadFiles m where
  print : String -> m Unit
  printError : String -> m Unit
  drive : Machine -> Option Nat -> m (Except MachineError Nat × Machine)

export MonadConsole (print printError drive)

def Machine.runWithin (machine : Machine) : Option Nat -> Except MachineError Nat × Machine
  | some limit => machine.runLimited limit
  | none => machine.run

/-!
# Desks
-/

structure Desk where
  directory : Directory
  input : List UInt8
  output : String := ""
  errors : String := ""

instance : HasDirectory Desk where
  directory desk := desk.directory
  setDirectory desk directory := { desk with directory := directory }

instance : MonadConsole (StateM Desk) where
  print text := modify fun desk => { desk with output := desk.output ++ text }
  printError text := modify fun desk => { desk with errors := desk.errors ++ text }
  drive machine limit := do
    let desk <- get
    let (result, stopped) := (machine.feed desk.input).runWithin limit
    set
      { desk with
        input := stopped.memory.input.bytes
        output := desk.output ++ stopped.memory.output.text }
    return (result, stopped)

namespace CommandLine

/-!
# Reports
-/

def failureText (context message : String) : String :=
  s!"❌ {context}: {message}\n"

/-- Where a run stopped with an error: the counter and the last completed instruction. -/
def errorContext (machine : Machine) : String :=
  let last := match machine.last with
    | some instruction => instruction.text
    | none => ""
  s!"Runtime error at pc={machine.pc} ({last})"

def resultText (machine : Machine) (steps : Nat) (maxSteps : Option Nat) : String :=
  let bound := match machine.status, maxSteps with
    | .running, some limit =>
        s!"\n⚠️  Reached max steps limit ({limit}). Use --max-steps to increase.\n"
    | _, _ => ""
  s!"\n━━━ Result ━━━\nSteps: {steps}\nState: {machine.status.name}\n" ++
    machine.snapshot.text ++ "\n" ++ bound

def greeting : String :=
  "wspace v0.1.0\nA Whitespace language toolkit\n\nUse --help for available commands\n"

def versionText : String :=
  "wspace 0.1.0\n"

def helpText : String :=
  "Tokenizer, virtual machine and assembler for the Whitespace language\n\n" ++
    "Usage: wspace [COMMAND]\n\n" ++
    "Commands:\n" ++
    "  run    Run a source or assembler file\n" ++
    "  asm    Assemble to symbol text in a style\n" ++
    "  ir     Dump the mnemonic form of a program\n" ++
    "  debug  Interactive debugger\n" ++
    "  test   Built-in self-test\n" ++
    "  help   Print this message\n"

def usageText : String :=
  "error: invalid arguments\n\nUsage: wspace [COMMAND]\n\nFor more information, try '--help'.\n"

/-!
# Loading
-/

variable {m : Type -> Type} [Monad m] [MonadConsole m]

def failWith (context message : String) : m UInt32 := do
  printError (failureText context message)
  return 1

def loadConfig (options : CommonOptions) : m (Except Error Config) := do
  let loaded : Except Error Config <- match options.config with
    | some path => Config.load path
    | none => pure (.ok {})
  return loaded.map fun config =>
    { config with
      style := options.style.or config.style
      styleFile := options.styleFile.or config.styleFile
      strict := config.strict || options.strict
      trace := config.trace || options.trace }

def isAssembly (argument : String) (options : CommonOptions) : Bool :=
  options.assembly || argument.endsWith ".wsa" || argument.endsWith ".asm"

def loadProgram (argument : String) (options : CommonOptions) (config : Config) :
    m (Except Error Program) := do
  match (<- readProgramText argument) with
  | .error error => return .error (.source error)
  | .ok text =>
      if isAssembly argument options then
        match Whitespace.assemble text with
        | .error error => return .error (.assembly error)
        | .ok assembly =>
            printError s!"📝 Assembled {assembly.program.size} instructions\n"
            return .ok assembly.program
      else
        match (<- config.resolveStyle) with
        | .error error => return .error error
        | .ok style =>
            match Program.decode config.mode (style.remap text) with
            | .error error => return .error (.decode error)
            | .ok reading =>
                printError
                  s!"📂 Loaded {reading.program.size} instructions ({style.name} style)\n"
                return .ok reading.program

/-!
# Commands
-/

def machineFor (program : Program) (config : Config) : Machine :=
  (Machine.start program "").withHost ⟨Registry.empty, config.strictForeign⟩

def runLoaded (program : Program) (json : Bool) (config : Config) : m UInt32 := do
  match (<- drive (machineFor program config) config.maxSteps) with
  | (.error error, stopped) => failWith (errorContext stopped) error.message
  | (.ok steps, stopped) =>
      if json then print (stopped.snapshot.prettyJson ++ "\n")
      else printError (resultText stopped steps config.maxSteps)
      return 0

def runProgram (argument : String) (json : Bool) (options : CommonOptions)
    (config : Config) : m UInt32 := do
  match (<- loadProgram argument options config) with
  | .error error => failWith "Failed to load program" error.message
  | .ok program => runLoaded program json config

def assembleFile (source : String) (output : Option String) (config : Config) : m UInt32 := do
  match (<- config.resolveStyle) with
  | .error error => failWith "Invalid style" error.message
  | .ok style =>
      match (<- readProgramText source) with
      | .error error => failWith "Failed to read source" error.message
      | .ok text =>
          match Whitespace.assemble text with
          | .error error => failWith "Assembly error" error.message
          | .ok assembly =>
              printError s!"✓ Assembled {assembly.program.size} instructions\n"
              match output with
              | none => print (assembly.render style); return 0
              | some path =>
                  match (<- saveSource path assembly.symbols style) with
                  | .error error => failWith "Failed to save" error.message
                  | .ok () =>
                      printError s!"✓ Saved to {path} ({style.name} style)\n"
                      return 0

def listProgram (argument : String) (options : CommonOptions) (config : Config) :
    m UInt32 := do
  match (<- loadProgram argument options config) with
  | .error error => failWith "Failed to load program" error.message
  | .ok program => print program.disassembly; return 0

def debugProgram (argument : String) (options : CommonOptions) (config : Config) :
    m UInt32 := do
  match (<- loadProgram argument options config) with
  | .error error => failWith "Failed to load program" error.message
  | .ok program =>
      if program.isEmpty then failWith "Nothing to debug" "program is empty"
      else failWith "Debugger error" "no terminal"

def withConfig (options : CommonOptions) (action : Config -> m UInt32) : m UInt32 := do
  match (<- loadConfig options) with
  | .error error => failWith "Failed to load config" error.message
  | .ok config => action config

def perform : Command -> m UInt32
  | .greeting => do print greeting; return 0
  | .version => do print versionText; return 0
  | .help => do print helpText; return 0
  | .run program maxSteps strictForeign json options =>
      withConfig options fun config =>
        runProgram program json options
          { config with
            maxSteps := maxSteps.or config.maxSteps
            strictForeign := config.strictForeign || strictForeign }
  | .assemble source output options => withConfig options (assembleFile source output)
  | .list program options => withConfig options (listProgram program options)
  | .debug program options => withConfig options (debugProgram program options)
  | .selfTest => do
      let (text, passed) := SelfTest.report SelfTest.checks
      print text
      return if passed then 0 else 1

/-- Do what arguments ask for; arguments that are not understood give the exit code two. -/
def execute (arguments : List String) : m UInt32 := do
  match Command.parse? arguments with
  | some command => perform command
  | none => printError usageText; return 2

end CommandLine
end Whitespace
