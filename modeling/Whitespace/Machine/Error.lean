import Whitespace.Text.Quoted

/-!
# Execution errors

The status of a machine, and the reasons for which a step can fail.
-/

namespace Whitespace

inductive Status where
  | running
  | halted
  | finished
  | interrupted
  | failed
  deriving DecidableEq, Repr, Inhabited

def Status.name : Status -> String
  | running => "Running"
  | halted => "Halted"
  | finished => "Finished"
  | interrupted => "Interrupted"
  | failed => "Error"

def wordMax : Nat := Nat.pow 2 64 - 1

inductive InputFault where
  | ended
  | notNumber (text : String)
  | other (text : String)
  deriving DecidableEq, Repr

def InputFault.message : InputFault -> String
  | ended => "end of input"
  | notNumber text => s!"not a number: {Text.quoteString text}"
  | other text => text

inductive MachineError where
  | stackUnderflow (needed depth : Nat)
  | missingKey (key : Int)
  | undefinedLabel (label : Nat)
  | wrongType (function found : String)
  | input (fault : InputFault)
  | divisionByZero
  | invalidCharacter (code : Int)
  | notRunning (status : Status)
  | io (text : String)
  | stepLimit (limit : Nat)
  deriving DecidableEq, Repr

def MachineError.message : MachineError -> String
  | stackUnderflow needed depth =>
      s!"stack underflow: needed {needed} item(s), stack has {depth}"
  | missingKey key => s!"heap key {key} is not set"
  | undefinedLabel label => s!"label {label} is not defined"
  | wrongType function found =>
      s!"host function `{function}` returned {found}, expected a number or label"
  | input fault => s!"input error: {fault.message}"
  | divisionByZero => "division by zero"
  | invalidCharacter code => s!"{code} is not a valid character code"
  | notRunning status => s!"VM not running: {status.name}"
  | io text => s!"I/O error: {text}"
  | stepLimit limit => s!"step limit of {limit} reached before the program stopped"

end Whitespace
