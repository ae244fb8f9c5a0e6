import Whitespace.Program
import Whitespace.Machine.Arithmetic
import Whitespace.Machine.Host
import Whitespace.Machine.Memory
import Whitespace.Text.Blank
import Whitespace.Text.Integer

/-!
# What instructions do

An instruction acts on memory and says where control goes next.  It knows
nothing of the program around it: labels are named, not resolved.
-/

namespace Whitespace

inductive Flow where
  | next
  | jump (label : Nat)
  | call (label : Nat)
  | ret
  | halt
  | unbound (label : Nat)
  deriving DecidableEq, Repr

def charOfCode? (code : Int) : Option Char :=
  if 0 ≤ code ∧ code.toNat.isValidChar then some (Char.ofNat code.toNat) else none

namespace Instruction

def printChar : Action Unit := do
  let code <- Action.pop
  match charOfCode? code with
  | some c => Action.write c.toString
  | none => Action.fail (.invalidCharacter code)

def readChar : Action Unit := do
  let key <- Action.pop
  Action.flush
  Action.fillLine
  let c <- Action.takeChar
  Action.store key c.toNat

def readNumber : Action Unit := do
  let key <- Action.pop
  Action.flush
  let text := Text.trim (<- Action.readLine)
  match Text.readInteger? text with
  | some value => Action.store key value
  | none => Action.fail (.input (.notNumber (String.ofList text)))

def callHost (host : Host) (label : Nat) : Action Flow :=
  match host.registry.get? label with
  | none => if host.strict then Action.fail (.undefinedLabel label) else pure (.unbound label)
  | some function => do
      let arguments <- Action.popMany function.arity
      let result <- Action.lift (function.call arguments)
      match result.stackValue? with
      | some value => Action.push value; return .next
      | none => Action.fail (.wrongType function.name result.typeName)

def performPlain : PlainOp -> Action Flow
  | .dup => do Action.onStack Stack.dup; return .next
  | .swap => do Action.onStack Stack.swap; return .next
  | .pop => do let _ <- Action.pop; return .next
  | .arithmetic op => do
      let right <- Action.pop
      let left <- Action.pop
      Action.push (<- Action.lift (op.apply left right))
      return .next
  | .store => do
      let value <- Action.pop
      let key <- Action.pop
      Action.store key value
      return .next
  | .retrieve => do
      let key <- Action.pop
      Action.push (<- Action.retrieve key)
      return .next
  | .printChar => do printChar; return .next
  | .printNumber => do
      let value <- Action.pop
      Action.write (toString value)
      return .next
  | .readChar => do readChar; return .next
  | .readNumber => do readNumber; return .next
  | .ret => return .ret
  | .halt => return .halt

def performNumber : NumberOp -> Int -> Action Flow
  | .push, value => do Action.push value; return .next
  | .copy, index => do Action.onStack (·.copy index); return .next
  | .slide, count => do Action.onStack (·.slide count); return .next

def performLabel (host : Host) : LabelOp -> Nat -> Action Flow
  | .mark, _ => return .next
  | .call, target => return .call target
  | .jump, target => return .jump target
  | .jumpZero, target => do
      let value <- Action.pop
      return if value = 0 then .jump target else .next
  | .jumpNegative, target => do
      let value <- Action.pop
      return if value < 0 then .jump target else .next
  | .foreign, target => callHost host target

def perform (host : Host) : Instruction -> Action Flow
  | plain op => performPlain op
  | number op operand => performNumber op operand.value
  | label op operand => performLabel host op operand.value

end Instruction
end Whitespace
