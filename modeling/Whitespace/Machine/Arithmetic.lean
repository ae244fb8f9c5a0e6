import Whitespace.Opcode
import Whitespace.Machine.Error

/-!
# Arithmetic

Division rounds toward minus infinity, so a remainder takes the sign of the
divisor.
-/

namespace Whitespace

def floorDivMod (left right : Int) : Except MachineError (Int × Int) :=
  if right = 0 then .error .divisionByZero
  else
    let quotient := left.tdiv right
    let remainder := left.tmod right
    -- Rounded toward zero, the quotient is one too large where the signs differ.
    if remainder ≠ 0 ∧ ¬ (remainder < 0 ↔ right < 0) then
      .ok (quotient - 1, remainder + right)
    else
      .ok (quotient, remainder)

/-- Apply an operator; the left operand is the one that was pushed first. -/
def ArithmeticOp.apply : ArithmeticOp -> Int -> Int -> Except MachineError Int
  | add, left, right => .ok (left + right)
  | sub, left, right => .ok (left - right)
  | mul, left, right => .ok (left * right)
  | div, left, right => Prod.fst <$> floorDivMod left right
  | mod, left, right => Prod.snd <$> floorDivMod left right

end Whitespace
