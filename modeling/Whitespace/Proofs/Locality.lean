import Whitespace.Machine.Snapshot
import Whitespace.Proofs.Endings
import Whitespace.Proofs.Stacks

/-!
# Items beneath the stack

Instructions reach for the items of the stack from its top.  What lies beneath
the items that a run uses makes no difference to it and is still there at its
end.  The only exception is a slide that asks for more items than there are: it
keeps just the top, and would eat into what lies beneath.
-/

namespace Whitespace

/-!
# Stacks

Items are held top first, so a list beneath is joined in reverse at the end.
-/

namespace Stack

/-- The stack with further items beneath it, given from the bottom. -/
def upon (stack : Stack) (beneath : List Int) : Stack :=
  ⟨stack.items ++ beneath.reverse⟩

theorem toList_upon (stack : Stack) (beneath : List Int) :
    (stack.upon beneath).toList = beneath ++ stack.toList := by
  simp [upon, toList]

variable {α : Type}

def IsLocalAt (operation : Stack -> Except MachineError α × Stack) (stack : Stack) : Prop :=
  forall (value : α) (after : Stack) (beneath : List Int), operation stack = (.ok value, after) ->
    operation (stack.upon beneath) = (.ok value, after.upon beneath)

theorem isLocalAt_pop (stack : Stack) : IsLocalAt pop stack := by
  intro value after beneath hpop
  rcases stack with ⟨items⟩
  cases items with
  | nil => cases hpop
  | cons top items =>
      cases hpop
      rfl

theorem isLocalAt_popMany (count : Nat) (stack : Stack) : IsLocalAt (·.popMany count) stack := by
  intro values after beneath hpop
  simp only [popMany] at hpop ⊢
  split at hpop
  · cases hpop
  · next henough =>
      have hdepth : count ≤ stack.items.length := Nat.le_of_not_lt henough
      have hdeeper : ¬ (stack.upon beneath).depth < count := by
        simp only [upon, depth, List.length_append]
        omega
      cases hpop
      rw [if_neg hdeeper]
      simp only [upon, List.take_append_of_le_length hdepth,
        List.drop_append_of_le_length hdepth]

theorem isLocalAt_dup (stack : Stack) : IsLocalAt dup stack := by
  intro value after beneath hdup
  rcases stack with ⟨items⟩
  cases items with
  | nil => cases hdup
  | cons top items =>
      cases hdup
      rfl

theorem isLocalAt_swap (stack : Stack) : IsLocalAt swap stack := by
  intro value after beneath hswap
  rcases stack with ⟨items⟩
  match items, hswap with
  | top :: second :: items, hswap =>
      cases hswap
      rfl

theorem isLocalAt_copy (index : Int) (stack : Stack) : IsLocalAt (·.copy index) stack := by
  intro value after beneath hcopy
  by_cases hinside : 0 ≤ index ∧ index < stack.depth
  · have hindex : index.toNat < stack.items.length := by
      have hdepth := hinside.right
      unfold depth at hdepth
      omega
    have hitem : stack.items[index.toNat]? = some (stack.items.get ⟨index.toNat, hindex⟩) :=
      List.getElem?_eq_getElem hindex
    have hsame : (stack.upon beneath).items[index.toNat]? =
        some (stack.items.get ⟨index.toNat, hindex⟩) := by
      rw [upon, List.getElem?_append_left hindex, hitem]
    dsimp only at hcopy ⊢
    rw [copy_of_inside hinside.left hitem] at hcopy
    cases hcopy
    rw [copy_of_inside hinside.left hsame]
    rfl
  · dsimp only at hcopy
    rw [copy_of_outside hinside] at hcopy
    cases hcopy

theorem isLocalAt_slide {count : Int} {stack : Stack} (hshallow : count < stack.depth) :
    IsLocalAt (·.slide count) stack := by
  intro value after beneath hslide
  rcases stack with ⟨items⟩
  cases items with
  | nil => cases hslide
  | cons top items =>
      have hremoved : count.toNat ≤ items.length := by
        simp only [depth, List.length_cons] at hshallow
        omega
      dsimp only at hslide ⊢
      rw [slide_cons] at hslide
      cases hslide
      rw [upon, List.cons_append, slide_cons, List.drop_append_of_le_length hremoved]
      rfl

end Stack

/-!
# Actions
-/

def Memory.upon (memory : Memory) (beneath : List Int) : Memory :=
  { memory with stack := memory.stack.upon beneath }

namespace Action

variable {α β : Type}

def IsLocalAt (action : Action α) (memory : Memory) : Prop :=
  forall (after : Memory) (value : α) (beneath : List Int),
    action memory = (.ok value, after) ->
      action (memory.upon beneath) = (.ok value, after.upon beneath)

def IsLocal (action : Action α) : Prop :=
  forall memory : Memory, IsLocalAt action memory

theorem isLocal_pure (value : α) : IsLocal (pure value) := by
  intro memory after other beneath hpure
  cases hpure
  rfl

theorem isLocal_fail (error : MachineError) : IsLocal (fail error : Action α) := by
  intro memory after value beneath hfail
  cases hfail

theorem isLocal_lift (result : Except MachineError α) : IsLocal (lift result) := by
  cases result with
  | error error => exact isLocal_fail error
  | ok value => exact isLocal_pure value

theorem isLocalAt_bind {action : Action α} {next : α -> Action β} {memory : Memory}
    (haction : IsLocalAt action memory) (hnext : forall value : α, IsLocal (next value)) :
    IsLocalAt (action >>= next) memory := by
  intro after value beneath hbind
  cases hfirst : action memory with
  | mk result between =>
      cases result with
      | error error =>
          rw [bind_eq_of_error hfirst] at hbind
          cases hbind
      | ok first =>
          rw [bind_eq_of_ok hfirst] at hbind
          rw [bind_eq_of_ok (haction between first beneath hfirst)]
          exact hnext first between after value beneath hbind

theorem isLocal_bind {action : Action α} {next : α -> Action β} (haction : IsLocal action)
    (hnext : forall value : α, IsLocal (next value)) : IsLocal (action >>= next) :=
  fun memory => isLocalAt_bind (haction memory) hnext

theorem isLocal_of_apart {action : Action α}
    (hapart : forall (memory : Memory) (beneath : List Int),
      action (memory.upon beneath) = ((action memory).1, (action memory).2.upon beneath)) :
    IsLocal action := by
  intro memory after value beneath haction
  rw [hapart, haction]

theorem isLocal_push (value : Int) : IsLocal (push value) := by
  intro memory after _unit beneath hpush
  cases hpush
  rfl

theorem isLocalAt_onStack {operation : Stack -> Except MachineError α × Stack} {memory : Memory}
    (hoperation : Stack.IsLocalAt operation memory.stack) :
    IsLocalAt (onStack operation) memory := by
  intro after value beneath honStack
  cases hstack : operation memory.stack with
  | mk result stack =>
      simp only [onStack, hstack] at honStack
      cases honStack
      have hupon := hoperation value stack beneath hstack
      simp only [onStack, Memory.upon, hupon]

theorem isLocal_onStack {operation : Stack -> Except MachineError α × Stack}
    (hoperation : forall stack : Stack, Stack.IsLocalAt operation stack) :
    IsLocal (onStack operation) :=
  fun memory => isLocalAt_onStack (hoperation memory.stack)

theorem isLocal_pop : IsLocal pop :=
  isLocal_onStack Stack.isLocalAt_pop

theorem isLocal_popMany (count : Nat) : IsLocal (popMany count) :=
  isLocal_onStack (Stack.isLocalAt_popMany count)

theorem isLocal_store (key value : Int) : IsLocal (store key value) :=
  isLocal_of_apart fun _ _ => rfl

theorem isLocal_retrieve (key : Int) : IsLocal (retrieve key) :=
  isLocal_of_apart fun _ _ => rfl

theorem isLocal_onOutput (request : Output -> Except String Unit × Output) :
    IsLocal (onOutput request) := by
  apply isLocal_of_apart
  intro memory beneath
  simp only [onOutput, Memory.upon]
  cases request memory.output with
  | mk answer output => cases answer <;> rfl

theorem isLocal_write (text : String) : IsLocal (write text) :=
  isLocal_onOutput _

theorem isLocal_flush : IsLocal flush :=
  isLocal_onOutput _

theorem readLine_upon (memory : Memory) (beneath : List Int) :
    readLine (memory.upon beneath) = ((readLine memory).1, (readLine memory).2.upon beneath) := by
  have hinput : (memory.upon beneath).input = memory.input := rfl
  unfold readLine
  rw [hinput]
  cases memory.input.takeLine? with
  | none => rfl
  | some taken =>
      rcases taken with ⟨bytes, input⟩
      dsimp only
      cases decodeUtf8? bytes with
      | none => rfl
      | some chars => rfl

theorem isLocal_readLine : IsLocal readLine :=
  isLocal_of_apart readLine_upon

theorem isLocal_fillLine : IsLocal fillLine := by
  apply isLocal_of_apart
  intro memory beneath
  have hline : (memory.upon beneath).line = memory.line := rfl
  unfold fillLine
  rw [readLine_upon, hline]
  split
  · cases readLine memory with
    | mk result after => cases result <;> rfl
  · rfl

theorem isLocal_takeChar : IsLocal takeChar := by
  apply isLocal_of_apart
  intro memory beneath
  have hline : (memory.upon beneath).line = memory.line := rfl
  unfold takeChar
  rw [hline]
  cases memory.line with
  | nil => rfl
  | cons c rest => rfl

end Action

/-!
# Instructions
-/

namespace Instruction

open Whitespace.Action

/-- The instruction is a slide that asks for as many items as there are, or for more. -/
def Collapses (stack : Stack) : Instruction -> Prop
  | .number .slide operand => (stack.depth : Int) ≤ operand.value
  | _ => False

instance (stack : Stack) : (instruction : Instruction) -> Decidable (instruction.Collapses stack)
  | .number .slide operand => inferInstanceAs (Decidable ((stack.depth : Int) ≤ operand.value))
  | .number .push _ => isFalse id
  | .number .copy _ => isFalse id
  | .plain _ => isFalse id
  | .label _ _ => isFalse id

theorem isLocal_printChar : IsLocal printChar := by
  apply isLocal_bind isLocal_pop
  intro code
  split
  · exact isLocal_write _
  · exact isLocal_fail _

theorem isLocal_readChar : IsLocal readChar := by
  apply isLocal_bind isLocal_pop
  intro key
  apply isLocal_bind isLocal_flush
  intro _
  apply isLocal_bind isLocal_fillLine
  intro _
  exact isLocal_bind isLocal_takeChar fun c => isLocal_store key c.toNat

theorem isLocal_readNumber : IsLocal readNumber := by
  apply isLocal_bind isLocal_pop
  intro key
  apply isLocal_bind isLocal_flush
  intro _
  apply isLocal_bind isLocal_readLine
  intro line
  dsimp only
  split
  · exact isLocal_store _ _
  · exact isLocal_fail _

theorem isLocal_callHost (host : Host) (label : Nat) : IsLocal (callHost host label) := by
  unfold callHost
  split
  · split
    · exact isLocal_fail _
    · exact isLocal_pure _
  · apply isLocal_bind (isLocal_popMany _)
    intro arguments
    apply isLocal_bind (isLocal_lift _)
    intro result
    split
    · exact isLocal_bind (isLocal_push _) fun _ => isLocal_pure _
    · exact isLocal_fail _

theorem isLocal_performPlain (op : PlainOp) : IsLocal (performPlain op) := by
  cases op with
  | dup => exact isLocal_bind (isLocal_onStack Stack.isLocalAt_dup) fun _ => isLocal_pure _
  | swap => exact isLocal_bind (isLocal_onStack Stack.isLocalAt_swap) fun _ => isLocal_pure _
  | pop => exact isLocal_bind isLocal_pop fun _ => isLocal_pure _
  | arithmetic op =>
      exact isLocal_bind isLocal_pop fun _ => isLocal_bind isLocal_pop fun _ =>
        isLocal_bind (isLocal_lift _) fun _ => isLocal_bind (isLocal_push _) fun _ =>
          isLocal_pure _
  | store =>
      exact isLocal_bind isLocal_pop fun _ => isLocal_bind isLocal_pop fun _ =>
        isLocal_bind (isLocal_store _ _) fun _ => isLocal_pure _
  | retrieve =>
      exact isLocal_bind isLocal_pop fun _ => isLocal_bind (isLocal_retrieve _) fun _ =>
        isLocal_bind (isLocal_push _) fun _ => isLocal_pure _
  | printChar => exact isLocal_bind isLocal_printChar fun _ => isLocal_pure _
  | printNumber =>
      exact isLocal_bind isLocal_pop fun _ => isLocal_bind (isLocal_write _) fun _ =>
        isLocal_pure _
  | readChar => exact isLocal_bind isLocal_readChar fun _ => isLocal_pure _
  | readNumber => exact isLocal_bind isLocal_readNumber fun _ => isLocal_pure _
  | ret => exact isLocal_pure _
  | halt => exact isLocal_pure _

theorem isLocal_performLabel (host : Host) (op : LabelOp) (label : Nat) :
    IsLocal (performLabel host op label) := by
  cases op with
  | mark => exact isLocal_pure _
  | call => exact isLocal_pure _
  | jump => exact isLocal_pure _
  | jumpZero => exact isLocal_bind isLocal_pop fun _ => isLocal_pure _
  | jumpNegative => exact isLocal_bind isLocal_pop fun _ => isLocal_pure _
  | foreign => exact isLocal_callHost host label

theorem isLocalAt_perform (host : Host) {instruction : Instruction} {memory : Memory}
    (hkeeps : ¬ instruction.Collapses memory.stack) :
    IsLocalAt (instruction.perform host) memory := by
  cases instruction with
  | plain op => exact isLocal_performPlain op memory
  | number op operand =>
      cases op with
      | push => exact isLocal_bind (isLocal_push _) (fun _ => isLocal_pure _) memory
      | copy =>
          exact isLocal_bind (isLocal_onStack (Stack.isLocalAt_copy operand.value))
            (fun _ => isLocal_pure _) memory
      | slide =>
          have hshallow : operand.value < memory.stack.depth := Int.lt_of_not_ge hkeeps
          exact isLocalAt_bind (isLocalAt_onStack (Stack.isLocalAt_slide hshallow))
            fun _ => isLocal_pure _
  | label op operand => exact isLocal_performLabel host op operand.value memory

end Instruction

/-!
# Runs
-/

namespace Machine

def upon (machine : Machine) (beneath : List Int) : Machine :=
  { machine with memory := machine.memory.upon beneath }

theorem step_upon {machine next : Machine} {instruction : Instruction} (beneath : List Int)
    (hkeeps : ¬ instruction.Collapses machine.memory.stack)
    (hstep : machine.step = (.ok instruction, next)) :
    (machine.upon beneath).step = (.ok instruction, next.upon beneath) := by
  rcases running_of_step_ok hstep with ⟨hrunning, hat⟩
  rw [step_of_running hrunning hat] at hstep
  have hmemory := memory_execute machine instruction
  have hrunningUpon : (machine.upon beneath).status = .running := hrunning
  rw [step_of_running hrunningUpon hat]
  cases hperform : instruction.perform machine.host machine.memory with
  | mk result after =>
      cases result with
      | error error =>
          rw [execute_of_refused hperform] at hstep
          cases hstep
      | ok flow =>
          have hupon := Instruction.isLocalAt_perform machine.host hkeeps _ _ beneath hperform
          have hsame : instruction.perform machine.host (machine.memory.upon beneath) =
              ((instruction.perform machine.host machine.memory).1, after.upon beneath) := by
            rw [hupon, hperform]
          have hexecute := execute_withMemory hsame
          have hafter : next.memory = after := by
            rw [hstep, hperform] at hmemory
            exact hmemory
          rw [hstep, ← hafter] at hexecute
          exact hexecute

def KeepsStack : Machine -> List Instruction -> Prop
  | _, [] => True
  | machine, instruction :: rest =>
      ¬ instruction.Collapses machine.memory.stack ∧ KeepsStack machine.step.2 rest

theorem executes_upon {machine last : Machine} {executed : List Instruction}
    (beneath : List Int) (hexecutes : Executes machine executed last)
    (hkeeps : KeepsStack machine executed) :
    Executes (machine.upon beneath) executed (last.upon beneath) := by
  induction hexecutes with
  | nil machine => exact .nil _
  | cons hstep _hrest ih =>
      rcases hkeeps with ⟨hfirst, hlater⟩
      rw [hstep] at hlater
      exact .cons (step_upon beneath hfirst hstep) (ih hlater)

theorem stack_locality {machine last : Machine} {executed : List Instruction}
    (beneath : List Int) (hexecutes : Executes machine executed last)
    (hkeeps : KeepsStack machine executed) :
    exists other : Machine, Executes (machine.upon beneath) executed other ∧
      other.pc = last.pc ∧ other.memory.heap = last.memory.heap ∧
      other.callAddresses = last.callAddresses ∧ other.status = last.status ∧
      other.memory.output = last.memory.output ∧ other.memory.line = last.memory.line ∧
      other.memory.input = last.memory.input ∧
      other.memory.stack.toList = beneath ++ last.memory.stack.toList := by
  refine ⟨_, executes_upon beneath hexecutes hkeeps, rfl, rfl, rfl, rfl, rfl, rfl, rfl, ?_⟩
  exact Stack.toList_upon last.memory.stack beneath

/-- A machine with three items on its stack when it comes to a slide that removes two. -/
def wholeSlide : Machine :=
  (withConsole
    #[.number .push ⟨[false, true]⟩, .number .push ⟨[false, true, false]⟩,
      .number .slide ⟨[false, true, false]⟩]
    (Input.ofString "") Output.empty).seedStack [5]

theorem stack_locality_wholeSlide :
    exists last other : Machine,
      Executes wholeSlide wholeSlide.program.toList last ∧
      KeepsStack wholeSlide wholeSlide.program.toList ∧
      last.memory.stack.toList = [2] ∧
      Executes (wholeSlide.upon [8, 9]) wholeSlide.program.toList other ∧
      other.memory.stack.toList = [8, 9] ++ last.memory.stack.toList := by
  have hexecutes : Executes wholeSlide wholeSlide.program.toList _ :=
    .cons rfl (.cons rfl (.cons rfl (.nil _)))
  have hkeeps : KeepsStack wholeSlide wholeSlide.program.toList :=
    ⟨id, id, by decide, trivial⟩
  rcases stack_locality [8, 9] hexecutes hkeeps with
    ⟨other, hother, _hpc, _hheap, _hcalls, _hstatus, _houtput, _hline, _hinput, hstack⟩
  exact ⟨_, other, hexecutes, hkeeps, rfl, hother, hstack⟩

end Machine
end Whitespace
