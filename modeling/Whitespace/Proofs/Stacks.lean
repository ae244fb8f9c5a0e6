import Whitespace.Machine.Stack

/-!
# What operations on the stack come to

Counts are turned into words on the way, with a case of its own for those that
are none.  Here the cases are brought together again: a copy reaches for the item
that lies so deep, and a slide drops so many items from beneath the top.
-/

namespace Whitespace

/-!
# Stacks on which an operation fails

An operation looks for the items that it needs before it touches the stack.
-/

namespace Stack

def IsClean {α : Type} (operation : Stack -> Except MachineError α × Stack) : Prop :=
  forall (stack after : Stack) (error : MachineError),
    operation stack = (.error error, after) -> after = stack

theorem isClean_pop : IsClean pop := by
  intro stack after error hfails
  unfold pop at hfails
  split at hfails
  · cases hfails
    rfl
  · cases hfails

theorem isClean_popMany (count : Nat) : IsClean (·.popMany count) := by
  intro stack after error hfails
  simp only [popMany] at hfails
  split at hfails
  · cases hfails
    rfl
  · cases hfails

theorem isClean_dup : IsClean dup := by
  intro stack after error hfails
  unfold dup at hfails
  split at hfails
  · cases hfails
    rfl
  · cases hfails

theorem isClean_swap : IsClean swap := by
  intro stack after error hfails
  unfold swap at hfails
  split at hfails
  · cases hfails
  · cases hfails
    rfl

theorem isClean_copy (index : Int) : IsClean (·.copy index) := by
  intro stack after error hfails
  simp only [copy] at hfails
  split at hfails
  · cases hfails
    rfl
  · cases hfails

/-- A slide has taken the top off before it looks at its count; from there on it cannot fail. -/
theorem isClean_slide (count : Int) : IsClean (·.slide count) := by
  intro stack after error hfails
  simp only [slide] at hfails
  split at hfails
  · next hpop =>
      cases hfails
      exact isClean_pop stack _ _ hpop
  · split at hfails
    · cases hfails
    · cases hfails

/-!
# Words
-/

variable {depth : Nat} {count : Int}

theorem word?_of_le (hnonneg : 0 ≤ count) (hinside : count.toNat ≤ depth) :
    word? depth count = some count.toNat := by
  rw [word?, if_pos]
  exact ⟨hnonneg, Nat.le_trans hinside (Nat.le_max_right wordMax depth)⟩

theorem eq_of_word? {word : Nat} (hword : word? depth count = some word) :
    0 ≤ count ∧ word = count.toNat := by
  unfold word? at hword
  split at hword
  · next hfits =>
      cases hword
      exact ⟨hfits.left, rfl⟩
  · cases hword

theorem lt_of_word?_none (hnonneg : 0 ≤ count) (hnone : word? depth count = none) :
    depth < count.toNat := by
  apply Nat.lt_of_not_le
  intro hinside
  rw [word?_of_le hnonneg hinside] at hnone
  cases hnone

theorem kept_eq (hnonneg : 0 ≤ count) : kept depth count = depth - count.toNat := by
  unfold kept
  split
  · next word hword => rw [(eq_of_word? hword).right]
  · next hnone =>
      have hbeyond := lt_of_word?_none hnonneg hnone
      omega

/-!
# Slides
-/

theorem truncate_eq (items : List Int) (keep : Nat) :
    truncate ⟨items⟩ keep = ⟨items.drop (items.length - keep)⟩ := by
  rw [truncate, ofList, toList, List.take_reverse, List.reverse_reverse]

/-- Negative counts, counts that a word holds and larger ones alike: as many items as the count
says go from beneath the top, as far as there are any. -/
theorem slide_cons (top : Int) (rest : List Int) (count : Int) :
    slide ⟨top :: rest⟩ count = (.ok (), ⟨top :: rest.drop count.toNat⟩) := by
  rw [slide, pop]
  by_cases hnegative : count < 0
  · have hnone : count.toNat = 0 := Int.toNat_of_nonpos (Int.le_of_lt hnegative)
    simp only [if_pos hnegative, hnone, List.drop_zero, push]
  · have hkept : kept (depth ⟨rest⟩) count = rest.length - count.toNat :=
      kept_eq (Int.not_lt.mp hnegative)
    have hdrop : rest.drop (rest.length - (rest.length - count.toNat)) =
        rest.drop count.toNat := by
      rw [List.drop_eq_drop_iff]
      omega
    simp only [if_neg hnegative, truncate_eq, hkept, hdrop, push]

/-!
# Copies
-/

theorem getElem?_toList {stack : Stack} {offset : Nat} (hinside : offset < stack.depth) :
    stack.toList[stack.depth - 1 - offset]? = stack.items[offset]? := by
  have hlength : stack.depth - 1 - offset < stack.items.length := by
    unfold Stack.depth at hinside ⊢
    omega
  have hsame : stack.items.length - 1 - (stack.depth - 1 - offset) = offset := by
    unfold Stack.depth at hinside ⊢
    omega
  rw [toList, List.getElem?_reverse hlength, hsame]

theorem copy_of_inside {stack : Stack} {index : Int} {value : Int} (hnonneg : 0 ≤ index)
    (hitem : stack.items[index.toNat]? = some value) :
    stack.copy index = (.ok (), stack.push value) := by
  have hinside : index.toNat < stack.depth := (List.getElem?_eq_some_iff.mp hitem).1
  have hvalue : stack.toList.getD (stack.depth - 1 - index.toNat) 0 = value := by
    rw [List.getD_eq_getElem?_getD, getElem?_toList hinside, hitem]
    rfl
  rw [copy, word?_of_le hnonneg (Nat.le_of_lt hinside)]
  simp only [Option.filter_some, hinside, decide_true, if_true, hvalue]

theorem copy_of_outside {stack : Stack} {index : Int}
    (houtside : ¬ (0 ≤ index ∧ index < stack.depth)) :
    stack.copy index = (.error (.stackUnderflow (stack.copyNeeds index) stack.depth), stack) := by
  rw [copy]
  split
  · rfl
  · next offset hfound =>
      rcases Option.filter_eq_some_iff.mp hfound with ⟨hword, hinside⟩
      rcases eq_of_word? hword with ⟨hnonneg, hoffset⟩
      have hless : offset < stack.depth := of_decide_eq_true hinside
      omega

end Stack
end Whitespace
