import Whitespace.Program.Decoding

/-!
# Warnings

Reading, label resolution and execution go on after these conditions and report
them.  The text of a warning is its message followed by its fields.
-/

namespace Whitespace

inductive Warning where
  | dropped (remnant : Remnant)
  | duplicateMark (label previous index : Nat)
  | interrupted (pc : Nat)
  | emptyReturn (pc : Nat)
  | unboundForeign (label : Nat)
  deriving DecidableEq, Repr

def Warning.text : Warning -> String
  | dropped (.opcode offset path) =>
      s!"dropping incomplete opcode at end of input offset={offset} path={letters path}"
  | dropped (.literal offset op) =>
      s!"dropping unterminated literal at end of input offset={offset} opcode={op.mnemonic}"
  | duplicateMark label previous index =>
      s!"duplicate mark, later one wins label={label} previous={previous} index={index}"
  | interrupted pc => s!"interrupted pc={pc}"
  | emptyReturn pc => s!"return with empty call stack ignored pc={pc}"
  | unboundForeign label => s!"no host function bound, FFI ignored label={label}"

def Reading.warnings (reading : Reading) : List Warning :=
  reading.dropped.toList.map Warning.dropped

end Whitespace
