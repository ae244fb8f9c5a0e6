import Whitespace.Proofs.Failures

/-!
# Slides and copies by any count

A slide and a copy take their count from the program, so it can be negative and
it can be larger than any word.  A slide is so many rounds of a swap and a pop,
cut off where only the top is left; a copy reaches an item that is there or
fails.  No operation on the stack leaves traces when it fails.
-/

namespace Whitespace

namespace Stack

variable {α β : Type}

def andThen (first : Stack -> Except MachineError α × Stack)
    (second : Stack -> Except MachineError β × Stack) (stack : Stack) :
    Except MachineError β × Stack :=
  match first stack with
  | (.ok _, between) => second between
  | (.error error, between) => (.error error, between)

theorem andThen_of_ok {first : Stack -> Except MachineError α × Stack}
    {second : Stack -> Except MachineError β × Stack} {stack between : Stack} {value : α}
    (hfirst : first stack = (.ok value, between)) :
    andThen first second stack = second between := by
  rw [andThen, hfirst]

/-!
# Rounds of swapping and popping
-/

/-- Swap the two topmost items, then pop: the item beneath the top is gone. -/
def nip : Stack -> Except MachineError Int × Stack :=
  andThen swap pop

def nips : Nat -> Stack -> Except MachineError Unit × Stack
  | 0, stack => (.ok (), stack)
  | count + 1, stack => andThen nip (nips count) stack

theorem nips_of_le {count : Nat} {top : Int} {below : List Int} (hcount : count ≤ below.length) :
    nips count ⟨top :: below⟩ = (.ok (), ⟨top :: below.drop count⟩) := by
  induction count generalizing below with
  | zero => rfl
  | succ count ih =>
      cases below with
      | nil => cases hcount
      | cons second rest =>
          have hround : nip ⟨top :: second :: rest⟩ = (.ok second, ⟨top :: rest⟩) := rfl
          have hrest : count ≤ rest.length := Nat.le_of_succ_le_succ hcount
          rw [nips, andThen_of_ok hround, List.drop_succ_cons]
          exact ih hrest

/-!
# Slides

The items are held top first, so what lies beneath the top is the reverse of what
a listing from the bottom shows before its last item.
-/

variable {stack : Stack} {below : List Int} {top : Int}

theorem eq_of_toList (hlist : stack.toList = below ++ [top]) :
    stack = ⟨top :: below.reverse⟩ := by
  rcases stack with ⟨items⟩
  have hitems : items = (below ++ [top]).reverse := by
    rw [← hlist, toList, List.reverse_reverse]
  rw [hitems, List.reverse_append]
  rfl

theorem depth_of_toList (hlist : stack.toList = below ++ [top]) :
    stack.depth - 1 = below.length := by
  rw [← length_toList, hlist, List.length_append]
  rfl

theorem slide_of_negative (hlist : stack.toList = below ++ [top]) {count : Int}
    (hnegative : count < 0) : stack.slide count = (.ok (), stack) := by
  have hnone : count.toNat = 0 := Int.toNat_of_nonpos (Int.le_of_lt hnegative)
  rw [eq_of_toList hlist, slide_cons, hnone, List.drop_zero]

theorem slide_eq_nips (hlist : stack.toList = below ++ [top]) (count : Int) :
    stack.slide count = nips (min count.toNat (stack.depth - 1)) stack := by
  have hlength : below.reverse.length = stack.depth - 1 := by
    rw [depth_of_toList hlist, List.length_reverse]
  have hrounds : min count.toNat (stack.depth - 1) ≤ below.reverse.length := by
    rw [hlength]
    exact Nat.min_le_right _ _
  have hdrop : below.reverse.drop (min count.toNat (stack.depth - 1)) =
      below.reverse.drop count.toNat := by
    rw [List.drop_eq_drop_iff, hlength, Nat.min_assoc, Nat.min_self]
  rw [eq_of_toList hlist] at hrounds hdrop ⊢
  rw [nips_of_le hrounds, hdrop, slide_cons]

theorem slide_eq_ofList (hlist : stack.toList = below ++ [top]) (count : Int) :
    stack.slide count =
      (.ok (), ofList (below.take (stack.depth - 1 - count.toNat) ++ [top])) := by
  have hkept : below.reverse.drop count.toNat =
      (below.take (stack.depth - 1 - count.toNat)).reverse := by
    rw [depth_of_toList hlist, List.drop_reverse]
  have hafter : ofList (below.take (stack.depth - 1 - count.toNat) ++ [top]) =
      ⟨top :: below.reverse.drop count.toNat⟩ := by
    rw [ofList, List.reverse_append, hkept]
    rfl
  rw [hafter, eq_of_toList hlist, slide_cons]

/-- Two slides remove what one slide by the sum of their counts does; on an empty stack all of
them fail alike. -/
theorem slide_slide (stack : Stack) {first second : Int} (hfirst : 0 ≤ first)
    (hsecond : 0 ≤ second) :
    andThen (·.slide first) (·.slide second) stack = stack.slide (first + second) := by
  rcases stack with ⟨items⟩
  cases items with
  | nil => rfl
  | cons top rest =>
      rw [andThen_of_ok (slide_cons top rest first), slide_cons, slide_cons, List.drop_drop,
        Int.toNat_add hfirst hsecond]

/-!
# Copies
-/

theorem exists_copy_of_inside {index : Int} (hnonneg : 0 ≤ index)
    (hinside : index < stack.depth) :
    exists value, stack.toList[stack.depth - 1 - index.toNat]? = some value ∧
      stack.copy index = (.ok (), stack.push value) := by
  have hindex : index.toNat < stack.depth := by omega
  have hitem : stack.items[index.toNat]? = some (stack.items.get ⟨index.toNat, hindex⟩) :=
    List.getElem?_eq_getElem hindex
  exact ⟨_, (getElem?_toList hindex).trans hitem, copy_of_inside hnonneg hitem⟩

theorem exists_copy_iff (index : Int) :
    (exists copied, stack.copy index = (.ok (), copied)) ↔
      0 ≤ index ∧ index < stack.depth := by
  constructor
  · intro hcopied
    rcases hcopied with ⟨copied, hcopy⟩
    apply Decidable.byContradiction
    intro houtside
    rw [copy_of_outside houtside] at hcopy
    cases hcopy
  · intro hinside
    rcases exists_copy_of_inside hinside.left hinside.right with ⟨value, _hitem, hcopy⟩
    exact ⟨_, hcopy⟩

/-!
# Operations that fail
-/

def giving (operation : Stack -> Except MachineError α × Stack) (next : α -> β)
    (stack : Stack) : Except MachineError β × Stack :=
  ((operation stack).1.map next, (operation stack).2)

theorem IsClean.giving {operation : Stack -> Except MachineError α × Stack}
    (hclean : IsClean operation) (next : α -> β) : IsClean (giving operation next) := by
  intro stack after error hfails
  cases hoperation : operation stack with
  | mk result between =>
      rw [Stack.giving, hoperation] at hfails
      cases result with
      | ok value => cases hfails
      | error other =>
          cases hfails
          exact hclean stack _ _ hoperation

end Stack

inductive StackOp where
  | push (value : Int)
  | pop
  | popMany (count : Nat)
  | peek
  | dup
  | swap
  | copy (index : Int)
  | slide (count : Int)
  deriving DecidableEq, Repr

namespace StackOp

open Whitespace.Stack

def act : StackOp -> Stack -> Except MachineError (List Int) × Stack
  | push value, stack => (.ok [], stack.push value)
  | pop, stack => giving Stack.pop (fun value => [value]) stack
  | popMany count, stack => stack.popMany count
  | peek, stack => (stack.peek.map fun value => [value], stack)
  | dup, stack => giving Stack.dup (fun _ => []) stack
  | swap, stack => giving Stack.swap (fun _ => []) stack
  | copy index, stack => giving (·.copy index) (fun _ => []) stack
  | slide count, stack => giving (·.slide count) (fun _ => []) stack

theorem isClean_act (op : StackOp) : IsClean op.act := by
  cases op with
  | push value =>
      intro stack after error hfails
      cases hfails
  | pop => exact isClean_pop.giving _
  | popMany count => exact isClean_popMany count
  | peek =>
      intro stack after error hfails
      exact (congrArg Prod.snd hfails).symm
  | dup => exact isClean_dup.giving _
  | swap => exact isClean_swap.giving _
  | copy index => exact (isClean_copy index).giving _
  | slide count => exact (isClean_slide count).giving _

end StackOp

/-- The operation that an instruction is, if it works on the stack alone. -/
def Instruction.stackOp? : Instruction -> Option StackOp
  | .plain .dup => some .dup
  | .plain .swap => some .swap
  | .plain .pop => some .pop
  | .number .push operand => some (.push operand.value)
  | .number .copy operand => some (.copy operand.value)
  | .number .slide operand => some (.slide operand.value)
  | _ => none

theorem Instruction.perform_of_stackOp? {instruction : Instruction} {op : StackOp}
    (hop : instruction.stackOp? = some op) (host : Host) :
    instruction.perform host = do let _ <- Action.onStack op.act; return .next := by
  -- What an operation gives is of no interest to the instruction.
  have hquiet : forall {α : Type} (operation : Stack -> Except MachineError α × Stack)
      (taken : α -> List Int),
      (do let _ <- Action.onStack operation; return Flow.next) =
        (do let _ <- Action.onStack (Stack.giving operation taken); return Flow.next) := by
    intro α operation taken
    funext memory
    simp only [bind, Action.onStack, Stack.giving]
    cases operation memory.stack with
    | mk result stack => cases result <;> rfl
  unfold stackOp? at hop
  split at hop
  · cases hop
    exact hquiet Stack.dup fun _ => []
  · cases hop
    exact hquiet Stack.swap fun _ => []
  · cases hop
    exact hquiet Stack.pop fun value => [value]
  · cases hop
    rfl
  · cases hop
    exact hquiet (·.copy _) fun _ => []
  · cases hop
    exact hquiet (·.slide _) fun _ => []
  · cases hop

theorem Machine.memory_of_failing_stackOp {machine : Machine} {instruction : Instruction}
    {op : StackOp} {error : MachineError} (hrunning : machine.status = .running)
    (hat : machine.program[machine.pc]? = some instruction)
    (hop : instruction.stackOp? = some op) (hfails : machine.step.1 = .error error) :
    machine.step.2.memory = machine.memory := by
  rcases (step_of_failing hrunning hat hfails).right with
    ⟨refusal, hperform⟩ | ⟨other, operand, hlabel, _htransfers, _hmemory⟩
  · rw [Instruction.perform_of_stackOp? hop] at hperform
    cases hstack : op.act machine.memory.stack with
    | mk result stack =>
        have hwork : Action.onStack op.act machine.memory =
            (result, { machine.memory with stack := stack }) := by
          rw [Action.onStack, hstack]
        cases result with
        | ok taken =>
            rw [Action.bind_eq_of_ok hwork] at hperform
            cases hperform
        | error other =>
            rw [Action.bind_eq_of_error hwork, op.isClean_act _ _ _ hstack] at hperform
            exact (congrArg Prod.snd hperform).symm
  · rw [hlabel] at hop
    cases hop

namespace Stack

/-!
# Counts of any size
-/

theorem counts_of_any_size (stack : Stack) :
    (forall (below : List Int) (top : Int), stack.toList = below ++ [top] -> forall count : Int,
      (count < 0 -> stack.slide count = (.ok (), stack)) ∧
      (0 ≤ count ->
        stack.slide count = nips (min count.toNat (stack.depth - 1)) stack ∧
        stack.slide count =
          (.ok (), ofList (below.take (stack.depth - 1 - count.toNat) ++ [top])))) ∧
    (forall first second : Int, 0 ≤ first -> 0 ≤ second ->
      andThen (·.slide first) (·.slide second) stack = stack.slide (first + second)) ∧
    (forall index : Int,
      ((exists copied, stack.copy index = (.ok (), copied)) ↔
        0 ≤ index ∧ index < stack.depth) ∧
      forall copied, stack.copy index = (.ok (), copied) ->
        exists value, stack.toList[stack.depth - 1 - index.toNat]? = some value ∧
          copied.toList = stack.toList ++ [value] ∧ copied.pop = (.ok value, stack)) ∧
    (forall (op : StackOp) (after : Stack) (error : MachineError),
      op.act stack = (.error error, after) -> after = stack) ∧
    (forall (machine : Machine) (instruction : Instruction) (op : StackOp) (error : MachineError),
      machine.status = .running -> machine.program[machine.pc]? = some instruction ->
      instruction.stackOp? = some op -> machine.step.1 = .error error ->
      machine.memory.stack = stack -> machine.step.2.memory.stack = stack) := by
  refine ⟨?_, ?_, ?_, ?_, ?_⟩
  · intro below top hlist count
    refine ⟨slide_of_negative hlist, ?_⟩
    intro _hnonneg
    exact ⟨slide_eq_nips hlist count, slide_eq_ofList hlist count⟩
  · intro first second hfirst hsecond
    exact slide_slide stack hfirst hsecond
  · intro index
    refine ⟨exists_copy_iff index, ?_⟩
    intro copied hcopied
    rcases (exists_copy_iff index).mp ⟨copied, hcopied⟩ with ⟨hnonneg, hinside⟩
    rcases exists_copy_of_inside hnonneg hinside with ⟨value, hitem, hcopy⟩
    rw [hcopy] at hcopied
    cases hcopied
    exact ⟨value, hitem, toList_push stack value, pop_push stack value⟩
  · intro op after error hfails
    exact op.isClean_act stack after error hfails
  · intro machine instruction op error hrunning hat hop hfails hstack
    rw [Machine.memory_of_failing_stackOp hrunning hat hop hfails, hstack]

/-- A slide by a count that no word holds, two slides in a row, a copy of the deepest item, and a
swap and a copy that fail. -/
theorem counts_of_any_size_four :
    exists (stack : Stack) (machine : Machine),
      stack = ofList [1, 2, 3, 4] ∧
      machine = Machine.withConsole #[.plain .swap] ⟨[]⟩ Output.empty ∧
      stack.slide (-1) = (.ok (), stack) ∧
      stack.slide 18446744073709551616 = nips 3 stack ∧
      stack.slide 18446744073709551616 = (.ok (), ofList [4]) ∧
      andThen (·.slide 1) (·.slide 1) stack = stack.slide (1 + 1) ∧
      stack.copy 3 = (.ok (), ofList [1, 2, 3, 4, 1]) ∧
      (ofList [1, 2, 3, 4, 1]).pop = (.ok 1, stack) ∧
      ((StackOp.copy 4).act stack).2 = stack ∧
      machine.step.1 = .error (.stackUnderflow 2 0) ∧ machine.step.2.memory.stack = empty := by
  have hslides := (counts_of_any_size (ofList [1, 2, 3, 4])).left [1, 2, 3] 4 rfl
  have hsum := (counts_of_any_size (ofList [1, 2, 3, 4])).right.left 1 1 (by decide) (by decide)
  have hcopies := (counts_of_any_size (ofList [1, 2, 3, 4])).right.right.left 3
  have hcopied : (ofList [1, 2, 3, 4]).copy 3 = (.ok (), ofList [1, 2, 3, 4, 1]) := rfl
  rcases hcopies.right (ofList [1, 2, 3, 4, 1]) hcopied with ⟨value, hvalue, _hlist, hpop⟩
  cases hvalue
  have hacts := (counts_of_any_size (ofList [1, 2, 3, 4])).right.right.right.left (.copy 4) _ _ rfl
  have hsteps := (counts_of_any_size empty).right.right.right.right
    (Machine.withConsole #[.plain .swap] ⟨[]⟩ Output.empty) (.plain .swap) .swap _ rfl rfl rfl rfl
    rfl
  rcases (hslides 18446744073709551616).right (by decide) with ⟨hrounds, hcollapsed⟩
  exact ⟨_, _, rfl, rfl, (hslides (-1)).left (by decide), hrounds, hcollapsed, hsum, hcopied, hpop,
    hacts, rfl, hsteps⟩

end Stack
end Whitespace
