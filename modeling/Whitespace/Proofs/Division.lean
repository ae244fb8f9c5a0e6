import Mathlib.Data.Rat.Floor
import Whitespace.Proofs.Reading
import Whitespace.Proofs.Steps

/-!
# Division

A quotient and a remainder belong to a division if together they give back the
dividend and the remainder lies between zero and the divisor.  There is one such
pair unless the divisor is zero, and its quotient is the ratio rounded down.  The
pair is found from the quotient that is rounded toward zero, and division on a
machine leaves its two parts.
-/

namespace Whitespace

/-!
# Quotients and remainders
-/

/-- The remainder is smaller than the divisor and, unless it is zero, on the same side of zero. -/
structure IsFloorDivision (left right quotient remainder : Int) : Prop where
  sum : left = quotient * right + remainder
  small : remainder.natAbs < right.natAbs
  sign : remainder = 0 ∨ remainder.sign = right.sign

namespace IsFloorDivision

variable {left right quotient remainder : Int}

theorem of_between (hsum : left = quotient * right + remainder)
    (hbetween : 0 ≤ remainder ∧ remainder < right ∨ right < remainder ∧ remainder ≤ 0) :
    IsFloorDivision left right quotient remainder := by
  refine ⟨hsum, by omega, ?_⟩
  rcases Int.lt_trichotomy remainder 0 with hnegative | hzero | hpositive
  · right
    have hright : right < 0 := by omega
    rw [Int.sign_eq_neg_one_of_neg hnegative, Int.sign_eq_neg_one_of_neg hright]
  · left
    exact hzero
  · right
    have hright : 0 < right := by omega
    rw [Int.sign_eq_one_of_pos hpositive, Int.sign_eq_one_of_pos hright]

theorem between (hdivision : IsFloorDivision left right quotient remainder) :
    0 ≤ remainder ∧ remainder < right ∨ right < remainder ∧ remainder ≤ 0 := by
  have hsmall := hdivision.small
  rcases hdivision.sign with hzero | hsign
  · omega
  · rcases Int.lt_trichotomy right 0 with hnegative | hzero | hpositive
    · rw [Int.sign_eq_neg_one_of_neg hnegative, Int.sign_eq_neg_one_iff_neg] at hsign
      omega
    · omega
    · rw [Int.sign_eq_one_of_pos hpositive, Int.sign_eq_one_iff_pos] at hsign
      omega

theorem divisor_ne_zero (hdivision : IsFloorDivision left right quotient remainder) :
    right ≠ 0 := by
  have hbetween := hdivision.between
  omega

/-- Two remainders on one side of zero differ by less than the divisor, so by no multiple of it. -/
theorem unique {other rest : Int} (hdivision : IsFloorDivision left right quotient remainder)
    (hother : IsFloorDivision left right other rest) : other = quotient ∧ rest = remainder := by
  have hmultiple : rest - remainder = (quotient - other) * right := by
    have hsame := hdivision.sum.symm.trans hother.sum
    rw [Int.sub_mul]
    omega
  have hclose : (rest - remainder).natAbs < right.natAbs := by
    have hbetween := hdivision.between
    have hbetweenOther := hother.between
    omega
  have hrest : rest - remainder = 0 :=
    Int.eq_zero_of_dvd_of_natAbs_lt_natAbs ⟨_, hmultiple.trans (Int.mul_comm _ _)⟩ hclose
  have hquotient : quotient - other = 0 := by
    rw [hrest] at hmultiple
    exact (Int.mul_eq_zero.mp hmultiple.symm).resolve_right hdivision.divisor_ne_zero
  omega

/-- The ratio exceeds the quotient by the remainder's share of the divisor, which is below one. -/
theorem eq_floor (hdivision : IsFloorDivision left right quotient remainder) :
    quotient = ⌊(left : ℚ) / right⌋ := by
  have hright : (right : ℚ) ≠ 0 := Int.cast_ne_zero.mpr hdivision.divisor_ne_zero
  have hratio : (left : ℚ) / right = quotient + (remainder : ℚ) / right := by
    rw [hdivision.sum, Int.cast_add, Int.cast_mul, add_div, mul_div_cancel_right₀ _ hright]
  have hshare : 0 ≤ (remainder : ℚ) / right ∧ (remainder : ℚ) / right < 1 := by
    rcases hdivision.between with ⟨hlow, hhigh⟩ | ⟨hlow, hhigh⟩
    · have hpositive : (0 : ℚ) < right := Int.cast_pos.mpr (Int.lt_of_le_of_lt hlow hhigh)
      refine ⟨div_nonneg (Int.cast_nonneg hlow) hpositive.le, ?_⟩
      exact (div_lt_one hpositive).mpr (Int.cast_lt.mpr hhigh)
    · have hnegative : (right : ℚ) < 0 :=
        Int.cast_lt_zero.mpr (Int.lt_of_lt_of_le hlow hhigh)
      refine ⟨div_nonneg_of_nonpos (Int.cast_nonpos.mpr hhigh) hnegative.le, ?_⟩
      exact (div_lt_one_of_neg hnegative).mpr (Int.cast_lt.mpr hlow)
  symm
  rw [Int.floor_eq_iff, hratio]
  constructor
  · exact le_add_of_nonneg_right hshare.left
  · exact (add_lt_add_iff_left _).mpr hshare.right

end IsFloorDivision

/-!
# From truncation to the floor
-/

theorem floorDivMod_eq_error_iff {left right : Int} {error : MachineError} :
    floorDivMod left right = .error error ↔ right = 0 ∧ error = .divisionByZero := by
  unfold floorDivMod
  split
  · next hzero =>
      rw [Except.error.injEq]
      exact ⟨fun herror => ⟨hzero, herror.symm⟩, fun hboth => hboth.right.symm⟩
  · next hright =>
      constructor
      · intro hfails
        dsimp only at hfails
        split at hfails <;> cases hfails
      · intro hboth
        exact absurd hboth.left hright

theorem isFloorDivision_of_floorDivMod {left right quotient remainder : Int}
    (hresult : floorDivMod left right = .ok (quotient, remainder)) :
    IsFloorDivision left right quotient remainder := by
  unfold floorDivMod at hresult
  split at hresult
  · cases hresult
  · next hright =>
      have hsum := Int.tdiv_mul_add_tmod left right
      have hsmall : (left.tmod right).natAbs < right.natAbs := by
        rw [Int.natAbs_tmod]
        exact Nat.mod_lt _ (Int.natAbs_pos.mpr hright)
      dsimp only at hresult
      split at hresult
      · -- The remainder is on the far side of zero, and one divisor more brings it back.
        cases hresult
        refine .of_between ?_ (by omega)
        rw [Int.sub_mul]
        omega
      · cases hresult
        exact .of_between hsum.symm (by omega)

theorem exists_floorDivMod {left right : Int} (hright : right ≠ 0) :
    exists quotient remainder, floorDivMod left right = .ok (quotient, remainder) := by
  cases hresult : floorDivMod left right with
  | error error => exact absurd (floorDivMod_eq_error_iff.mp hresult).left hright
  | ok result => exact ⟨result.1, result.2, rfl⟩

/-!
# Division on a machine

The operand that was pushed first lies below the other one.
-/

namespace Machine

variable {machine : Machine} {op : ArithmeticOp} {below : Stack} {left right : Int}

theorem step_arithmetic (hrunning : machine.status = .running)
    (hat : machine.program[machine.pc]? = some (.plain (.arithmetic op)))
    (hstack : machine.memory.stack = (below.push left).push right) :
    (forall value, op.apply left right = .ok value ->
      machine.step.1 = .ok (.plain (.arithmetic op)) ∧
        machine.step.2.memory = { machine.memory with stack := below.push value }) ∧
    (forall error, op.apply left right = .error error -> machine.step.1 = .error error) := by
  have hright : Action.pop machine.memory =
      (.ok right, { machine.memory with stack := below.push left }) :=
    Action.pop_of_cons (congrArg Stack.items hstack)
  have hleft : Action.pop { machine.memory with stack := below.push left } =
      (.ok left, { machine.memory with stack := below }) := rfl
  have hperform : (Instruction.plain (.arithmetic op)).perform machine.host machine.memory =
      (do Action.push (<- Action.lift (op.apply left right)); return Flow.next : Action Flow)
        { machine.memory with stack := below } := by
    show (Action.pop >>= _) machine.memory = _
    rw [Action.bind_eq_of_ok hright, Action.bind_eq_of_ok hleft]
  rw [step_of_running hrunning hat]
  constructor
  · intro value hvalue
    rw [hvalue] at hperform
    rw [execute_of_done hperform rfl]
    exact ⟨rfl, rfl⟩
  · intro error herror
    rw [herror] at hperform
    rw [execute_of_refused hperform]

theorem step_division {part : Int × Int -> Int}
    (hop : op.apply left right = part <$> floorDivMod left right)
    (hrunning : machine.status = .running)
    (hat : machine.program[machine.pc]? = some (.plain (.arithmetic op)))
    (hstack : machine.memory.stack = (below.push left).push right) :
    (machine.step.1 = .error .divisionByZero ↔ right = 0) ∧
    forall quotient remainder, IsFloorDivision left right quotient remainder ->
      machine.step.1 = .ok (.plain (.arithmetic op)) ∧
        machine.step.2.memory =
          { machine.memory with stack := below.push (part (quotient, remainder)) } := by
  rcases step_arithmetic hrunning hat hstack with ⟨hok, herror⟩
  have hdivides : forall quotient remainder, IsFloorDivision left right quotient remainder ->
      machine.step.1 = .ok (.plain (.arithmetic op)) ∧
        machine.step.2.memory =
          { machine.memory with stack := below.push (part (quotient, remainder)) } := by
    intro quotient remainder hdivision
    rcases exists_floorDivMod hdivision.divisor_ne_zero with ⟨other, rest, hresult⟩
    rcases hdivision.unique (isFloorDivision_of_floorDivMod hresult) with ⟨hother, hrest⟩
    rw [hother, hrest] at hresult
    apply hok
    rw [hop, hresult]
    rfl
  refine ⟨⟨?_, ?_⟩, hdivides⟩
  · intro hfails
    apply Decidable.byContradiction
    intro hright
    rcases exists_floorDivMod hright with ⟨quotient, remainder, hresult⟩
    rw [(hdivides _ _ (isFloorDivision_of_floorDivMod hresult)).left] at hfails
    cases hfails
  · intro hzero
    apply herror
    rw [hop, floorDivMod_eq_error_iff.mpr ⟨hzero, rfl⟩]
    rfl

/-- Division fails by zero only.  Otherwise it finds the one quotient and remainder, and a machine
leaves the one or the other in the place of its operands. -/
theorem division_rounds_down (left right : Int) :
    (floorDivMod left right = .error .divisionByZero ↔ right = 0) ∧
    (right ≠ 0 ->
      exists quotient remainder,
        floorDivMod left right = .ok (quotient, remainder) ∧
        IsFloorDivision left right quotient remainder ∧
        (forall other rest, IsFloorDivision left right other rest ->
          other = quotient ∧ rest = remainder) ∧
        quotient = ⌊(left : ℚ) / right⌋) ∧
    forall (machine : Machine) (below : Stack), machine.status = .running ->
      machine.memory.stack = (below.push left).push right ->
      (machine.program[machine.pc]? = some (.plain (.arithmetic .div)) ->
        (machine.step.1 = .error .divisionByZero ↔ right = 0) ∧
        forall quotient remainder, IsFloorDivision left right quotient remainder ->
          machine.step.1 = .ok (.plain (.arithmetic .div)) ∧
            machine.step.2.memory = { machine.memory with stack := below.push quotient }) ∧
      (machine.program[machine.pc]? = some (.plain (.arithmetic .mod)) ->
        (machine.step.1 = .error .divisionByZero ↔ right = 0) ∧
        forall quotient remainder, IsFloorDivision left right quotient remainder ->
          machine.step.1 = .ok (.plain (.arithmetic .mod)) ∧
            machine.step.2.memory = { machine.memory with stack := below.push remainder }) := by
  refine ⟨?_, ?_, ?_⟩
  · rw [floorDivMod_eq_error_iff]
    exact and_iff_left rfl
  · intro hright
    rcases exists_floorDivMod hright with ⟨quotient, remainder, hresult⟩
    have hdivision := isFloorDivision_of_floorDivMod hresult
    exact ⟨quotient, remainder, hresult, hdivision, fun _ _ => hdivision.unique,
      hdivision.eq_floor⟩
  · intro machine below hrunning hstack
    exact ⟨fun hat => step_division rfl hrunning hat hstack,
      fun hat => step_division rfl hrunning hat hstack⟩

def divider (op : ArithmeticOp) : Machine :=
  (start #[.plain (.arithmetic op)] "").seedStack [5, -7, 2]

theorem division_rounds_down_seven :
    floorDivMod (-7) 2 = .ok (-4, 1) ∧ IsFloorDivision (-7) 2 (-4) 1 ∧
      (-4 : Int) = ⌊((-7 : Int) : ℚ) / (2 : Int)⌋ ∧
      (divider .div).step.2.memory.stack = .ofList [5, -4] ∧
      (divider .mod).step.2.memory.stack = .ofList [5, 1] := by
  rcases division_rounds_down (-7) 2 with ⟨_hfails, hresult, hmachine⟩
  rcases hresult (by decide) with ⟨quotient, remainder, hfound, hdivision, _hunique, hfloor⟩
  cases hfound
  have hdiv := (hmachine (divider .div) (.ofList [5]) rfl rfl).left rfl
  have hmod := (hmachine (divider .mod) (.ofList [5]) rfl rfl).right rfl
  refine ⟨rfl, hdivision, hfloor, ?_, ?_⟩
  · rw [(hdiv.right _ _ hdivision).right]
    rfl
  · rw [(hmod.right _ _ hdivision).right]
    rfl

end Machine
end Whitespace
