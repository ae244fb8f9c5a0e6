import Whitespace.Proofs.Histories
import Whitespace.Proofs.Reading
import Whitespace.Proofs.Stacks

/-!
# What a failing step leaves behind

An instruction takes what it needs before it changes anything else: values off
the stack, then perhaps a line of input.  So a step that fails has at most spent
some of these, and left the rest of the machine as it was.
-/

namespace Whitespace

/-!
# Spent memory
-/

namespace Memory

/-- Memory of which at most a number of items on top of the stack and, if lines may be read, at
most one line of input are gone, and that is the same otherwise. -/
structure Spent (items : Nat) (reads : Bool) (before after : Memory) : Prop where
  rest : after = { before with stack := after.stack, input := after.input }
  stack : exists count, count ≤ items ∧ after.stack.items = before.stack.items.drop count
  input : after.input = before.input ∨
    reads = true ∧ exists line, before.input.takeLine? = some (line, after.input)

theorem spent_refl (items : Nat) (reads : Bool) (memory : Memory) :
    Spent items reads memory memory where
  rest := rfl
  stack := ⟨0, Nat.zero_le items, rfl⟩
  input := Or.inl rfl

theorem Spent.after_pop {items : Nat} {reads : Bool} {memory after : Memory} {value : Int}
    {rest : List Int} (hstack : memory.stack.items = value :: rest)
    (hspent : Spent items reads { memory with stack := ⟨rest⟩ } after) :
    Spent (items + 1) reads memory after where
  rest := hspent.rest
  stack := by
    rcases hspent.stack with ⟨count, hcount, hitems⟩
    refine ⟨count + 1, Nat.succ_le_succ hcount, ?_⟩
    rw [hstack, List.drop_succ_cons]
    exact hitems
  input := hspent.input

theorem Spent.after_line {items : Nat} {memory after : Memory} {line : List UInt8}
    {input : Input} (htaken : memory.input.takeLine? = some (line, input))
    (hspent : Spent items false { memory with input := input } after) :
    Spent items true memory after where
  rest := hspent.rest
  stack := hspent.stack
  input := by
    rcases hspent.input with hsame | ⟨hreads, _htaken⟩
    · refine Or.inr ⟨rfl, line, ?_⟩
      rw [htaken, hsame]
    · cases hreads

def Accepts (memory : Memory) : Prop :=
  memory.output.destination.IsMemory

end Memory

/-!
# Actions that fail

The first actions of an instruction only take; the last ones cannot fail.
-/

namespace Action

variable {α β : Type}

def Confines (action : Action α) (items : Nat) (reads : Bool) : Prop :=
  forall (memory after : Memory) (error : MachineError), memory.Accepts ->
    action memory = (.error error, after) -> memory.Spent items reads after

def Succeeds (action : Action α) : Prop :=
  forall (memory after : Memory) (error : MachineError), action memory ≠ (.error error, after)

theorem succeeds_pure (value : α) : Succeeds (pure value) := by
  intro memory after error hpure
  cases hpure

theorem succeeds_push (value : Int) : Succeeds (push value) := by
  intro memory after error hpush
  cases hpush

theorem succeeds_store (key value : Int) : Succeeds (store key value) := by
  intro memory after error hstore
  cases hstore

theorem succeeds_takeChar : Succeeds takeChar := by
  intro memory after error htake
  unfold takeChar at htake
  split at htake
  · cases htake
  · cases htake

theorem succeeds_bind {action : Action α} {next : α -> Action β} (haction : Succeeds action)
    (hnext : forall value : α, Succeeds (next value)) : Succeeds (action >>= next) := by
  intro memory after error hbind
  cases hfirst : action memory with
  | mk result between =>
      cases result with
      | error error => exact haction memory between error hfirst
      | ok value =>
          rw [bind_eq_of_ok hfirst] at hbind
          exact hnext value between after error hbind

variable {items : Nat} {reads : Bool}

theorem confines_of_succeeds {action : Action α} (haction : Succeeds action) :
    Confines action items reads := by
  intro memory after error _haccepts hfails
  exact absurd hfails (haction memory after error)

theorem confines_bind_of_keeps {action : Action α} {next : α -> Action β}
    (haction : Keeps action id) (hnext : forall value : α, Confines (next value) items reads) :
    Confines (action >>= next) items reads := by
  intro memory after error haccepts hfails
  cases hfirst : action memory with
  | mk result between =>
      have hsame : between = memory := by
        have hkept := haction memory
        rw [hfirst] at hkept
        exact hkept
      cases result with
      | error error =>
          rw [bind_eq_of_error hfirst] at hfails
          cases hfails
          rw [hsame]
          exact Memory.spent_refl items reads memory
      | ok value =>
          rw [bind_eq_of_ok hfirst, hsame] at hfails
          exact hnext value memory after error haccepts hfails

theorem confines_of_keeps {action : Action α} (haction : Keeps action id) :
    Confines action items reads := by
  have hbind : Confines (action >>= pure) items reads :=
    confines_bind_of_keeps haction fun value => confines_of_succeeds (succeeds_pure value)
  rw [bind_pure] at hbind
  exact hbind

theorem confines_bind_of_succeeds {action : Action α} {next : α -> Action β}
    (haction : Confines action items reads) (hnext : forall value : α, Succeeds (next value)) :
    Confines (action >>= next) items reads := by
  intro memory after error haccepts hfails
  cases hfirst : action memory with
  | mk result between =>
      cases result with
      | error error =>
          rw [bind_eq_of_error hfirst] at hfails
          cases hfails
          exact haction memory _ _ haccepts hfirst
      | ok value =>
          rw [bind_eq_of_ok hfirst] at hfails
          exact absurd hfails (hnext value between after error)

theorem confines_pop_bind {next : Int -> Action β}
    (hnext : forall value : Int, Confines (next value) items reads) :
    Confines (pop >>= next) (items + 1) reads := by
  intro memory after error haccepts hfails
  cases hstack : memory.stack.items with
  | nil =>
      rw [bind_eq_of_error (pop_of_nil hstack)] at hfails
      cases hfails
      exact Memory.spent_refl _ _ memory
  | cons value rest =>
      rw [bind_eq_of_ok (pop_of_cons hstack)] at hfails
      exact (hnext value { memory with stack := ⟨rest⟩ } after error haccepts hfails).after_pop
        hstack

theorem confines_readLine_bind {next : List Char -> Action β}
    (hnext : forall line : List Char, Confines (next line) items false) :
    Confines (readLine >>= next) items true := by
  intro memory after error haccepts hfails
  cases htaken : memory.input.takeLine? with
  | none =>
      have hread : readLine memory = (.error (.input .ended), memory) := by
        simp only [readLine, htaken]
      rw [bind_eq_of_error hread] at hfails
      cases hfails
      exact Memory.spent_refl _ _ memory
  | some taken =>
      rcases taken with ⟨bytes, input⟩
      cases hdecoded : decodeUtf8? bytes with
      | none =>
          have hread : readLine memory =
              (.error (.io "stream did not contain valid UTF-8"),
                { memory with input := input }) := by
            simp only [readLine, htaken, hdecoded]
          rw [bind_eq_of_error hread] at hfails
          cases hfails
          exact (Memory.spent_refl _ _ _).after_line htaken
      | some chars =>
          have hread : readLine memory =
              (.ok (Text.chomp chars), { memory with input := input }) := by
            simp only [readLine, htaken, hdecoded]
          rw [bind_eq_of_ok hread] at hfails
          exact (hnext _ { memory with input := input } after error haccepts hfails).after_line
            htaken

theorem confines_readLine : Confines readLine items true := by
  have hbind : Confines (readLine >>= pure) items true :=
    confines_readLine_bind fun line => confines_of_succeeds (succeeds_pure line)
  rw [bind_pure] at hbind
  exact hbind

theorem confines_fillLine : Confines fillLine items true := by
  intro memory after error haccepts hfails
  cases hline : memory.line with
  | cons c chars =>
      rw [fillLine_of_line hline] at hfails
      cases hfails
  | nil =>
      cases hread : readLine memory with
      | mk result between =>
          cases result with
          | ok chars =>
              rw [fillLine_of_ok hline hread] at hfails
              cases hfails
          | error error =>
              rw [fillLine_of_error hline hread] at hfails
              cases hfails
              exact confines_readLine memory _ _ haccepts hread

theorem confines_onStack {operation : Stack -> Except MachineError α × Stack}
    (hclean : Stack.IsClean operation) : Confines (onStack operation) items reads := by
  intro memory after error _haccepts hfails
  cases hstack : operation memory.stack with
  | mk result stack =>
      simp only [onStack, hstack] at hfails
      cases hfails
      rw [hclean memory.stack stack error hstack]
      exact Memory.spent_refl items reads memory

theorem confines_write (text : String) : Confines (write text) items reads := by
  intro memory after error haccepts hfails
  have hwritten : (memory.output.write text).1 = .ok () := by
    have hanswer := haccepts.write memory.output.state text
    unfold Output.write
    split
    · rfl
    · next hrefused =>
        rw [hrefused] at hanswer
        cases hanswer
  rw [write, onOutput_of_ok hwritten] at hfails
  cases hfails

theorem confines_flush_bind {next : Unit -> Action β}
    (hnext : forall value : Unit, Confines (next value) items reads) :
    Confines (flush >>= next) items reads := by
  intro memory after error haccepts hfails
  have hstate := haccepts.flush memory.output.state
  have hsame : memory.output.flush.2 = memory.output := by
    rw [Output.flush_snd, hstate]
  have haccepted : memory.output.flushFault = none := by
    rw [Output.flushFault, hstate]
  rw [bind_eq_of_ok (flush_of_accepted haccepted), hsame] at hfails
  exact hnext () memory after error haccepts hfails

end Action

/-!
# Instructions that fail

No instruction but a foreign call takes more than two items.  A jump that leads
nowhere has taken at most the value that it tested.
-/

namespace Instruction

open Whitespace.Action

variable {items : Nat} {reads : Bool}

theorem succeeds_push_next (value : Int) : Succeeds (do push value; return Flow.next) :=
  succeeds_bind (succeeds_push value) fun _ => succeeds_pure _

theorem succeeds_store_next (key value : Int) : Succeeds (do store key value; return Flow.next) :=
  succeeds_bind (succeeds_store key value) fun _ => succeeds_pure _

theorem confines_printChar : Confines printChar (items + 1) reads := by
  unfold printChar
  apply confines_pop_bind
  intro code
  split
  · exact confines_write _
  · exact confines_of_keeps (keeps_fail _ _)

theorem confines_readChar : Confines readChar (items + 1) true := by
  unfold readChar
  apply confines_pop_bind
  intro key
  apply confines_flush_bind
  intro _
  apply confines_bind_of_succeeds confines_fillLine
  intro _
  exact succeeds_bind succeeds_takeChar fun c => succeeds_store key _

theorem confines_readNumber : Confines readNumber (items + 1) true := by
  unfold readNumber
  apply confines_pop_bind
  intro key
  apply confines_flush_bind
  intro _
  apply confines_readLine_bind
  intro line
  dsimp only
  split
  · exact confines_of_succeeds (succeeds_store key _)
  · exact confines_of_keeps (keeps_fail _ _)

theorem confines_performPlain (op : PlainOp) : Confines (performPlain op) 2 true := by
  cases op with
  | dup =>
      exact confines_bind_of_succeeds (confines_onStack Stack.isClean_dup) fun _ =>
        succeeds_pure _
  | swap =>
      exact confines_bind_of_succeeds (confines_onStack Stack.isClean_swap) fun _ =>
        succeeds_pure _
  | pop => exact confines_pop_bind fun _ => confines_of_succeeds (succeeds_pure _)
  | arithmetic op =>
      exact confines_pop_bind fun right => confines_pop_bind fun left =>
        confines_bind_of_keeps (keeps_lift _ _) fun value =>
          confines_of_succeeds (succeeds_push_next value)
  | store =>
      exact confines_pop_bind fun value => confines_pop_bind fun key =>
        confines_of_succeeds (succeeds_store_next key value)
  | retrieve =>
      exact confines_pop_bind fun key => confines_bind_of_keeps (keeps_retrieve key) fun value =>
        confines_of_succeeds (succeeds_push_next value)
  | printChar => exact confines_bind_of_succeeds confines_printChar fun _ => succeeds_pure _
  | printNumber =>
      exact confines_pop_bind fun value =>
        confines_bind_of_succeeds (confines_write _) fun _ => succeeds_pure _
  | readChar => exact confines_bind_of_succeeds confines_readChar fun _ => succeeds_pure _
  | readNumber => exact confines_bind_of_succeeds confines_readNumber fun _ => succeeds_pure _
  | ret => exact confines_of_succeeds (succeeds_pure _)
  | halt => exact confines_of_succeeds (succeeds_pure _)

theorem confines_performNumber (op : NumberOp) (value : Int) :
    Confines (performNumber op value) items reads := by
  cases op with
  | push => exact confines_of_succeeds (succeeds_push_next value)
  | copy =>
      exact confines_bind_of_succeeds (confines_onStack (Stack.isClean_copy _)) fun _ =>
        succeeds_pure _
  | slide =>
      exact confines_bind_of_succeeds (confines_onStack (Stack.isClean_slide _)) fun _ =>
        succeeds_pure _

theorem confines_performLabel (host : Host) {op : LabelOp} (target : Nat)
    (hordinary : op ≠ .foreign) : Confines (performLabel host op target) (items + 1) reads := by
  cases op with
  | mark => exact confines_of_succeeds (succeeds_pure _)
  | call => exact confines_of_succeeds (succeeds_pure _)
  | jump => exact confines_of_succeeds (succeeds_pure _)
  | jumpZero => exact confines_pop_bind fun _ => confines_of_succeeds (succeeds_pure _)
  | jumpNegative => exact confines_pop_bind fun _ => confines_of_succeeds (succeeds_pure _)
  | foreign => exact absurd rfl hordinary

def IsOrdinary (instruction : Instruction) : Prop :=
  forall operand, instruction ≠ .label .foreign operand

theorem confines_perform (host : Host) {instruction : Instruction}
    (hordinary : instruction.IsOrdinary) : Confines (instruction.perform host) 2 true := by
  cases instruction with
  | plain op => exact confines_performPlain op
  | number op operand => exact confines_performNumber op operand.value
  | label op operand =>
      apply confines_performLabel host operand.value
      intro hforeign
      exact hordinary operand (by rw [hforeign])

theorem spent_of_transfers (host : Host) {op : LabelOp} (target : Nat)
    (htransfers : op.transfers = true) (memory : Memory) :
    memory.Spent (items + 1) reads (performLabel host op target memory).2 := by
  have htested : forall flow : Int -> Flow,
      memory.Spent (items + 1) reads ((do return flow (<- pop) : Action Flow) memory).2 := by
    intro flow
    cases hstack : memory.stack.items with
    | nil =>
        rw [bind_eq_of_error (pop_of_nil hstack)]
        exact Memory.spent_refl _ _ memory
    | cons value rest =>
        rw [bind_eq_of_ok (pop_of_cons hstack)]
        exact (Memory.spent_refl items reads _).after_pop hstack
  cases op with
  | mark => cases htransfers
  | call => exact Memory.spent_refl _ _ memory
  | jump => exact Memory.spent_refl _ _ memory
  | jumpZero => exact htested _
  | jumpNegative => exact htested _
  | foreign => cases htransfers

/-!
# Foreign calls that fail

A foreign call takes all arguments of the host function or none of them.
-/

end Instruction

namespace Action

theorem popMany_of_short {count : Nat} {memory : Memory} (hshort : memory.stack.depth < count) :
    popMany count memory = (.error (.stackUnderflow count memory.stack.depth), memory) := by
  simp only [popMany, onStack, Stack.popMany, if_pos hshort]

theorem popMany_of_enough {count : Nat} {memory : Memory}
    (henough : ¬ memory.stack.depth < count) :
    popMany count memory =
      (.ok (memory.stack.items.take count).reverse,
        { memory with stack := ⟨memory.stack.items.drop count⟩ }) := by
  simp only [popMany, onStack, Stack.popMany, if_neg henough]

end Action

/-- The host function that a foreign call runs: the one bound to its label, if the stack holds
its arguments. -/
def Host.reached? (host : Host) (memory : Memory) (label : Nat) : Option HostFunction :=
  (host.registry.get? label).filter fun function => function.arity ≤ memory.stack.depth

namespace Instruction

open Whitespace.Action

theorem memory_of_callHost_error {host : Host} {memory after : Memory} {label : Nat}
    {error : MachineError} (hfails : callHost host label memory = (.error error, after)) :
    after =
      { memory with
        stack := ⟨memory.stack.items.drop
          ((host.reached? memory label).elim 0 HostFunction.arity)⟩ } := by
  cases hbound : host.registry.get? label with
  | none =>
      simp only [callHost, hbound] at hfails
      simp only [Host.reached?, hbound]
      split at hfails
      · cases hfails
        rfl
      · cases hfails
  | some function =>
      simp only [callHost, hbound] at hfails
      simp only [Host.reached?, hbound, Option.filter_some, decide_eq_true_eq]
      by_cases hshort : memory.stack.depth < function.arity
      · rw [if_neg (Nat.not_le_of_lt hshort)]
        rw [bind_eq_of_error (popMany_of_short hshort)] at hfails
        cases hfails
        rfl
      · rw [if_pos (Nat.le_of_not_lt hshort)]
        rw [bind_eq_of_ok (popMany_of_enough hshort)] at hfails
        cases hcall : function.call (memory.stack.items.take function.arity).reverse with
        | error refusal =>
            rw [hcall] at hfails
            cases hfails
            rfl
        | ok result =>
            rw [hcall, lift, pure_bind] at hfails
            -- the call has been made; only a result that is no integer can still be refused
            cases hvalue : result.stackValue? with
            | some value =>
                simp only [hvalue] at hfails
                exact absurd hfails (succeeds_push_next value _ after error)
            | none =>
                simp only [hvalue] at hfails
                cases hfails
                rfl

end Instruction

/-!
# Machines that fail
-/

namespace Machine

theorem transfers_of_follow_error {machine : Machine} {instruction : Instruction} {flow : Flow}
    {error : MachineError} (hfits : Flow.Fits instruction flow)
    (hfollow : machine.follow flow = .error error) :
    exists op operand, instruction = .label op operand ∧ op.transfers = true := by
  cases flow with
  | next => cases hfollow
  | jump label =>
      rcases hfits with ⟨op, operand, hinstruction, htransfers, _hvalue⟩
      exact ⟨op, operand, hinstruction, htransfers⟩
  | call label =>
      rcases hfits with ⟨operand, hinstruction, _hvalue⟩
      exact ⟨.call, operand, hinstruction, rfl⟩
  | ret =>
      simp only [follow] at hfollow
      split at hfollow
      · cases hfollow
      · cases hfollow
  | halt => cases hfollow
  | unbound label => cases hfollow

/-- A step that fails has moved control behind the instruction, and the rest of what it did was
done to memory by the instruction. -/
theorem step_of_failing {machine : Machine} {instruction : Instruction} {error : MachineError}
    (hrunning : machine.status = .running)
    (hat : machine.program[machine.pc]? = some instruction)
    (hfails : machine.step.1 = .error error) :
    machine.step.2 =
        { machine with
          pc := machine.pc + 1
          status := .failed
          memory := machine.step.2.memory } ∧
      ((exists refusal, instruction.perform machine.host machine.memory =
          (.error refusal, machine.step.2.memory)) ∨
        exists op operand, instruction = .label op operand ∧ op.transfers = true ∧
          machine.step.2.memory = (instruction.perform machine.host machine.memory).2) := by
  rw [step_of_running hrunning hat] at hfails ⊢
  have hexecution := execution machine instruction
  generalize machine.execute instruction = outcome at hexecution hfails
  cases hexecution with
  | refused refusal memory hperform => exact ⟨rfl, Or.inl ⟨refusal, hperform⟩⟩
  | astray flow memory refusal hperform hfollow =>
      have hfits := Instruction.fits_of_perform machine.host instruction _ _ _ hperform
      rcases transfers_of_follow_error hfits hfollow with ⟨op, operand, hinstruction, htransfers⟩
      refine ⟨rfl, Or.inr ⟨op, operand, hinstruction, htransfers, ?_⟩⟩
      rw [hperform]
      rfl
  | done flow memory followed hperform hfollow => cases hfails

theorem spent_of_failing {machine : Machine} {instruction : Instruction} {error : MachineError}
    (haccepts : machine.memory.Accepts) (hrunning : machine.status = .running)
    (hat : machine.program[machine.pc]? = some instruction) (hordinary : instruction.IsOrdinary)
    (hfails : machine.step.1 = .error error) :
    machine.memory.Spent 2 true machine.step.2.memory := by
  rcases (step_of_failing hrunning hat hfails).right with
    ⟨refusal, hperform⟩ | ⟨op, operand, hinstruction, htransfers, hmemory⟩
  · exact Instruction.confines_perform machine.host hordinary _ _ refusal haccepts hperform
  · rw [hmemory, hinstruction]
    exact Instruction.spent_of_transfers machine.host operand.value htransfers machine.memory

theorem callHost_of_failing {machine : Machine} {operand : Label} {error : MachineError}
    (hrunning : machine.status = .running)
    (hat : machine.program[machine.pc]? = some (.label .foreign operand))
    (hfails : machine.step.1 = .error error) :
    exists refusal, Instruction.callHost machine.host operand.value machine.memory =
      (.error refusal, machine.step.2.memory) := by
  rcases (step_of_failing hrunning hat hfails).right with
    hrefused | ⟨op, other, hinstruction, htransfers, _hmemory⟩
  · exact hrefused
  · cases hinstruction
    cases htransfers

/-- What a failing step of an instruction changes at most. -/
structure Confined (instruction : Instruction) (machine after : Machine) : Prop where
  control : after =
    { machine with pc := machine.pc + 1, status := .failed, memory := after.memory }
  memory : after.memory =
    { machine.memory with stack := after.memory.stack, input := after.memory.input }
  stack : after.memory.stack.toList <+: machine.memory.stack.toList
  items : instruction.IsOrdinary -> machine.memory.stack.depth ≤ after.memory.stack.depth + 2
  called : forall (operand : Label) (function : HostFunction),
    instruction = .label .foreign operand ->
      machine.host.reached? machine.memory operand.value = some function ->
        machine.memory.stack.depth = after.memory.stack.depth + function.arity
  uncalled : forall operand : Label, instruction = .label .foreign operand ->
    machine.host.reached? machine.memory operand.value = none ->
      after.memory.stack = machine.memory.stack
  input : after.memory.input = machine.memory.input ∨
    exists line, machine.memory.input.takeLine? = some (line, after.memory.input)

theorem toList_prefix_of_drop {before after : Stack} {count : Nat}
    (hitems : after.items = before.items.drop count) : after.toList <+: before.toList := by
  rw [Stack.toList, hitems, Stack.toList, List.reverse_prefix]
  exact List.drop_suffix count before.items

theorem confined_of_ordinary {machine : Machine} {instruction : Instruction}
    {error : MachineError} (haccepts : machine.memory.Accepts)
    (hrunning : machine.status = .running)
    (hat : machine.program[machine.pc]? = some instruction) (hordinary : instruction.IsOrdinary)
    (hfails : machine.step.1 = .error error) : Confined instruction machine machine.step.2 := by
  have hspent := spent_of_failing haccepts hrunning hat hordinary hfails
  rcases hspent.stack with ⟨count, hcount, hitems⟩
  constructor
  case control => exact (step_of_failing hrunning hat hfails).left
  case memory => exact hspent.rest
  case stack => exact toList_prefix_of_drop hitems
  case items =>
    intro _hordinary
    rw [Stack.depth, Stack.depth, hitems, List.length_drop]
    omega
  case called =>
    intro operand function hforeign
    exact absurd hforeign (hordinary operand)
  case uncalled =>
    intro operand hforeign
    exact absurd hforeign (hordinary operand)
  case input =>
    rcases hspent.input with hsame | ⟨_hreads, htaken⟩
    · exact Or.inl hsame
    · exact Or.inr htaken

theorem confined_of_foreign {machine : Machine} {operand : Label} {error : MachineError}
    (hrunning : machine.status = .running)
    (hat : machine.program[machine.pc]? = some (.label .foreign operand))
    (hfails : machine.step.1 = .error error) :
    Confined (.label .foreign operand) machine machine.step.2 := by
  rcases callHost_of_failing hrunning hat hfails with ⟨refusal, hcall⟩
  have hmemory := Instruction.memory_of_callHost_error hcall
  constructor
  case control => exact (step_of_failing hrunning hat hfails).left
  case memory => rw [hmemory]
  case stack =>
    rw [hmemory]
    exact toList_prefix_of_drop rfl
  case items =>
    intro hordinary
    exact absurd rfl (hordinary operand)
  case called =>
    intro other function hother hreached
    cases hother
    have harity : function.arity ≤ machine.memory.stack.depth :=
      of_decide_eq_true (Option.filter_eq_some_iff.mp hreached).right
    rw [hmemory, hreached]
    simp only [Stack.depth, Option.elim_some, List.length_drop] at harity ⊢
    exact (Nat.sub_add_cancel harity).symm
  case uncalled =>
    intro other hother hreached
    cases hother
    rw [hmemory, hreached]
    rfl
  case input =>
    rw [hmemory]
    exact Or.inl rfl

theorem failing_step_confined (program : Program) (input : Input) (output : Output)
    (operations : List Operation) (machine : Machine) (error : MachineError)
    (hmemory : output.destination.IsMemory)
    (hmachine : machine = (withConsole program input output).replay operations)
    (hrunning : machine.status = .running) (hfails : machine.step.1 = .error error) :
    exists instruction, program[machine.pc]? = some instruction ∧
      Confined instruction machine machine.step.2 := by
  have hcoherent : Coherent program machine := by
    rw [hmachine]
    exact (coherent_withConsole program input output).replay operations
  have haccepts : machine.memory.Accepts := by
    rw [hmachine, Memory.Accepts, destination_replay]
    exact hmemory
  rcases hcoherent.exists_instruction hrunning with ⟨instruction, hat⟩
  refine ⟨instruction, by rw [← hcoherent.program_eq, hat], ?_⟩
  by_cases hforeign : exists operand, instruction = .label .foreign operand
  · rcases hforeign with ⟨operand, hinstruction⟩
    rw [hinstruction] at hat ⊢
    exact confined_of_foreign hrunning hat hfails
  · exact confined_of_ordinary haccepts hrunning hat
      (fun operand hinstruction => hforeign ⟨operand, hinstruction⟩) hfails

/-- A machine about to read a number from a line that holds none. -/
def misread : Machine :=
  (withConsole #[.number .push (Number.ofInt 1), .plain .dup, .plain .readNumber]
    (Input.ofString "x\n1\n") Output.empty).replay [.step, .step]

theorem failing_step_confined_misread :
    misread.status = .running ∧ misread.step.1 = .error (.input (.notNumber "x")) ∧
      misread.step.2.memory.stack.depth < misread.memory.stack.depth ∧
      misread.step.2.memory.input ≠ misread.memory.input ∧
      exists instruction, misread.program[misread.pc]? = some instruction ∧
        Confined instruction misread misread.step.2 := by
  have hfails : misread.step.1 = .error (.input (.notNumber "x")) := by decide +kernel
  refine ⟨rfl, hfails, by decide +kernel, by decide +kernel, ?_⟩
  exact failing_step_confined _ _ Output.empty [.step, .step] misread _
    Destination.isMemory_steady rfl rfl hfails

end Machine
end Whitespace
