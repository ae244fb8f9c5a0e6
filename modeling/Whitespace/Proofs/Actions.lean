import Whitespace.Machine.Execution

/-!
# Actions and the flows of instructions

What holds of every action of a sequence holds of the sequence.  Two facts about
instructions follow: which flows each of them can name, and which parts of memory
each of them leaves alone.
-/

namespace Whitespace

/-!
# Laws of actions

Two kinds of facts pass through a sequence of actions: a property of the value
that the last one gives, and a part of memory that none of them touches.
-/

namespace Action

variable {α β γ : Type}

def Yields (action : Action α) (property : α -> Prop) : Prop :=
  forall (memory after : Memory) (value : α), action memory = (.ok value, after) -> property value

/-- The action leaves a view of memory as it was, whether it succeeds or not. -/
def Keeps (action : Action α) (view : Memory -> γ) : Prop :=
  forall memory : Memory, view (action memory).2 = view memory

theorem bind_eq_of_ok {action : Action α} {next : α -> Action β} {memory after : Memory}
    {value : α} (haction : action memory = (.ok value, after)) :
    (action >>= next) memory = next value after := by
  simp only [bind, haction]

theorem bind_eq_of_error {action : Action α} {next : α -> Action β} {memory after : Memory}
    {error : MachineError} (haction : action memory = (.error error, after)) :
    (action >>= next) memory = (.error error, after) := by
  simp only [bind, haction]

theorem yields_pure {property : α -> Prop} {value : α} (hvalue : property value) :
    Yields (pure value) property := by
  intro memory after other hpure
  cases hpure
  exact hvalue

theorem yields_fail {property : α -> Prop} (error : MachineError) :
    Yields (fail error) property := by
  intro memory after value hfail
  cases hfail

theorem yields_bind {property : β -> Prop} {action : Action α} {next : α -> Action β}
    (hnext : forall value : α, Yields (next value) property) :
    Yields (action >>= next) property := by
  intro memory after value hbind
  cases haction : action memory with
  | mk result between =>
      cases result with
      | error error =>
          rw [bind_eq_of_error haction] at hbind
          cases hbind
      | ok first =>
          rw [bind_eq_of_ok haction] at hbind
          exact hnext first between after value hbind

theorem keeps_pure (view : Memory -> γ) (value : α) : Keeps (pure value) view := by
  intro memory
  rfl

theorem keeps_fail (view : Memory -> γ) (error : MachineError) :
    Keeps (fail error : Action α) view := by
  intro memory
  rfl

theorem keeps_lift (view : Memory -> γ) (result : Except MachineError α) :
    Keeps (lift result) view := by
  cases result with
  | error error => exact keeps_fail view error
  | ok value => exact keeps_pure view value

theorem keeps_bind {view : Memory -> γ} {action : Action α} {next : α -> Action β}
    (haction : Keeps action view) (hnext : forall value : α, Keeps (next value) view) :
    Keeps (action >>= next) view := by
  intro memory
  have hfirst := haction memory
  cases hresult : action memory with
  | mk result between =>
      rw [hresult] at hfirst
      cases result with
      | error error =>
          rw [bind_eq_of_error hresult]
          exact hfirst
      | ok value =>
          rw [bind_eq_of_ok hresult]
          exact (hnext value between).trans hfirst

/-!
# Views of memory

A view that does not show a part of memory is kept by every action that changes
only that part.
-/

def IgnoresStack (view : Memory -> γ) : Prop :=
  forall (memory : Memory) (stack : Stack), view { memory with stack := stack } = view memory

def IgnoresHeap (view : Memory -> γ) : Prop :=
  forall (memory : Memory) (heap : Heap), view { memory with heap := heap } = view memory

def IgnoresFlushed (view : Memory -> γ) : Prop :=
  forall (memory : Memory) (state : Nat),
    view { memory with output := { memory.output with state := state } } = view memory

def IgnoresWritten (view : Memory -> γ) : Prop :=
  forall (memory : Memory) (state : Nat) (text : String),
    view { memory with output := { memory.output with state := state, text := text } } =
      view memory

def IgnoresInput (view : Memory -> γ) : Prop :=
  forall (memory : Memory) (line : List Char) (input : Input),
    view { memory with line := line, input := input } = view memory

variable {view : Memory -> γ}

theorem keeps_push (hstack : IgnoresStack view) (value : Int) : Keeps (push value) view := by
  intro memory
  exact hstack memory _

theorem keeps_onStack (hstack : IgnoresStack view)
    (operation : Stack -> Except MachineError α × Stack) : Keeps (onStack operation) view := by
  intro memory
  exact hstack memory _

theorem keeps_pop (hstack : IgnoresStack view) : Keeps pop view :=
  keeps_onStack hstack _

theorem keeps_popMany (hstack : IgnoresStack view) (count : Nat) :
    Keeps (popMany count) view :=
  keeps_onStack hstack _

theorem keeps_store (hheap : IgnoresHeap view) (key value : Int) :
    Keeps (store key value) view := by
  intro memory
  exact hheap memory _

theorem keeps_retrieve (key : Int) : Keeps (retrieve key) view := by
  intro memory
  rfl

theorem onOutput_of_ok {request : Output -> Except String Unit × Output} {memory : Memory}
    (hrequest : (request memory.output).1 = .ok ()) :
    onOutput request memory = (.ok (), { memory with output := (request memory.output).2 }) := by
  unfold onOutput
  split
  · next hok => rw [hok]
  · next herror =>
      rw [herror] at hrequest
      cases hrequest

theorem onOutput_of_error {request : Output -> Except String Unit × Output} {memory : Memory}
    {fault : String} (hrequest : (request memory.output).1 = .error fault) :
    onOutput request memory =
      (.error (.io fault), { memory with output := (request memory.output).2 }) := by
  unfold onOutput
  split
  · next hok =>
      rw [hok] at hrequest
      cases hrequest
  · next herror =>
      rw [herror] at hrequest
      cases hrequest
      rw [herror]

theorem memory_onOutput (request : Output -> Except String Unit × Output) (memory : Memory) :
    (onOutput request memory).2 = { memory with output := (request memory.output).2 } := by
  unfold onOutput
  split
  · next hrequest => rw [hrequest]
  · next hrequest => rw [hrequest]

theorem keeps_write (hwritten : IgnoresWritten view) (text : String) :
    Keeps (write text) view := by
  intro memory
  rw [write, memory_onOutput, Output.write_snd]
  exact hwritten memory _ _

theorem keeps_flush (hflushed : IgnoresFlushed view) : Keeps flush view := by
  intro memory
  rw [flush, memory_onOutput, Output.flush_snd]
  exact hflushed memory _

theorem keeps_readLine (hinput : IgnoresInput view) : Keeps readLine view := by
  intro memory
  unfold readLine
  split
  · rfl
  · split
    · exact hinput memory memory.line _
    · exact hinput memory memory.line _

theorem keeps_fillLine (hinput : IgnoresInput view) : Keeps fillLine view := by
  intro memory
  have hread := keeps_readLine hinput memory
  unfold fillLine
  split
  · cases hresult : readLine memory with
    | mk result after =>
        rw [hresult] at hread
        cases result with
        | error error => exact hread
        | ok chars => exact (hinput after _ after.input).trans hread
  · rfl

theorem keeps_takeChar (hinput : IgnoresInput view) : Keeps takeChar view := by
  intro memory
  unfold takeChar
  split
  · rfl
  · exact hinput memory _ memory.input

end Action

/-!
# Instructions

Only a call names a call, only a return names a return, only an end stops the
machine.  A jump is named by one of the jumps, for its own label.
-/

def LabelOp.transfers : LabelOp -> Bool
  | call | jump | jumpZero | jumpNegative => true
  | mark | foreign => false

def Flow.Fits (instruction : Instruction) : Flow -> Prop
  | .call label => exists operand, instruction = .label .call operand ∧ operand.value = label
  | .ret => instruction = .plain .ret
  | .halt => instruction = .plain .halt
  | .jump label =>
      exists op operand, instruction = .label op operand ∧ op.transfers = true ∧
        operand.value = label
  | .next => True
  | .unbound _ => True

namespace Instruction

open Whitespace.Action

theorem fits_of_performPlain (op : PlainOp) :
    Yields (performPlain op) (Flow.Fits (.plain op)) := by
  cases op with
  | dup => exact yields_bind fun _ => yields_pure trivial
  | swap => exact yields_bind fun _ => yields_pure trivial
  | pop => exact yields_bind fun _ => yields_pure trivial
  | arithmetic op =>
      exact yields_bind fun _ => yields_bind fun _ => yields_bind fun _ => yields_bind fun _ =>
        yields_pure trivial
  | store =>
      exact yields_bind fun _ => yields_bind fun _ => yields_bind fun _ => yields_pure trivial
  | retrieve =>
      exact yields_bind fun _ => yields_bind fun _ => yields_bind fun _ => yields_pure trivial
  | printChar => exact yields_bind fun _ => yields_pure trivial
  | printNumber => exact yields_bind fun _ => yields_bind fun _ => yields_pure trivial
  | readChar => exact yields_bind fun _ => yields_pure trivial
  | readNumber => exact yields_bind fun _ => yields_pure trivial
  | ret => exact yields_pure rfl
  | halt => exact yields_pure rfl

theorem fits_of_performNumber (op : NumberOp) (operand : Number) :
    Yields (performNumber op operand.value) (Flow.Fits (.number op operand)) := by
  cases op with
  | push => exact yields_bind fun _ => yields_pure trivial
  | copy => exact yields_bind fun _ => yields_pure trivial
  | slide => exact yields_bind fun _ => yields_pure trivial

theorem fits_of_callHost (host : Host) (operand : Label) :
    Yields (callHost host operand.value) (Flow.Fits (.label .foreign operand)) := by
  unfold callHost
  split
  · split
    · exact yields_fail _
    · exact yields_pure trivial
  · apply yields_bind
    intro arguments
    apply yields_bind
    intro result
    split
    · exact yields_bind fun _ => yields_pure trivial
    · exact yields_fail _

theorem fits_of_performLabel (host : Host) (op : LabelOp) (operand : Label) :
    Yields (performLabel host op operand.value) (Flow.Fits (.label op operand)) := by
  cases op with
  | mark => exact yields_pure trivial
  | call => exact yields_pure ⟨operand, rfl, rfl⟩
  | jump => exact yields_pure ⟨.jump, operand, rfl, rfl, rfl⟩
  | jumpZero =>
      apply yields_bind
      intro value
      apply yields_pure
      split
      · exact ⟨.jumpZero, operand, rfl, rfl, rfl⟩
      · trivial
  | jumpNegative =>
      apply yields_bind
      intro value
      apply yields_pure
      split
      · exact ⟨.jumpNegative, operand, rfl, rfl, rfl⟩
      · trivial
  | foreign => exact fits_of_callHost host operand

theorem fits_of_perform (host : Host) (instruction : Instruction) :
    Yields (instruction.perform host) (Flow.Fits instruction) := by
  cases instruction with
  | plain op => exact fits_of_performPlain op
  | number op operand => exact fits_of_performNumber op operand
  | label op operand => exact fits_of_performLabel host op operand

end Instruction

/-!
# What instructions change

Every instruction may change the stack.  A few of them change the heap, write, or
take input; a view that ignores what an instruction changes is kept by it.
-/

namespace PlainOp

def stores : PlainOp -> Bool
  | store | readChar | readNumber => true
  | _ => false

def writes : PlainOp -> Bool
  | printChar | printNumber => true
  | _ => false

def reads : PlainOp -> Bool
  | readChar | readNumber => true
  | _ => false

end PlainOp

namespace Instruction

open Whitespace.Action

variable {γ : Type} {view : Memory -> γ}

theorem keeps_printChar (hstack : IgnoresStack view) (hwritten : IgnoresWritten view) :
    Keeps printChar view := by
  unfold printChar
  apply keeps_bind (keeps_pop hstack)
  intro code
  split
  · exact keeps_write hwritten _
  · exact keeps_fail _ _

theorem keeps_readChar (hstack : IgnoresStack view) (hheap : IgnoresHeap view)
    (hinput : IgnoresInput view) (hflushed : IgnoresFlushed view) : Keeps readChar view := by
  unfold readChar
  apply keeps_bind (keeps_pop hstack)
  intro key
  apply keeps_bind (keeps_flush hflushed)
  intro _
  apply keeps_bind (keeps_fillLine hinput)
  intro _
  apply keeps_bind (keeps_takeChar hinput)
  intro c
  exact keeps_store hheap _ _

theorem keeps_readNumber (hstack : IgnoresStack view) (hheap : IgnoresHeap view)
    (hinput : IgnoresInput view) (hflushed : IgnoresFlushed view) : Keeps readNumber view := by
  unfold readNumber
  apply keeps_bind (keeps_pop hstack)
  intro key
  apply keeps_bind (keeps_flush hflushed)
  intro _
  apply keeps_bind (keeps_readLine hinput)
  intro line
  dsimp only
  split
  · exact keeps_store hheap _ _
  · exact keeps_fail _ _

theorem keeps_callHost (hstack : IgnoresStack view) (host : Host) (label : Nat) :
    Keeps (callHost host label) view := by
  unfold callHost
  split
  · split
    · exact keeps_fail _ _
    · exact keeps_pure _ _
  · apply keeps_bind (keeps_popMany hstack _)
    intro arguments
    apply keeps_bind (keeps_lift _ _)
    intro result
    split
    · exact keeps_bind (keeps_push hstack _) fun _ => keeps_pure _ _
    · exact keeps_fail _ _

theorem keeps_performPlain (op : PlainOp) (hstack : IgnoresStack view)
    (hheap : op.stores = true -> IgnoresHeap view)
    (hwritten : op.writes = true -> IgnoresWritten view)
    (hread : op.reads = true -> IgnoresInput view ∧ IgnoresFlushed view) :
    Keeps (performPlain op) view := by
  have hpop := keeps_pop hstack
  cases op with
  | dup => exact keeps_bind (keeps_onStack hstack _) fun _ => keeps_pure _ _
  | swap => exact keeps_bind (keeps_onStack hstack _) fun _ => keeps_pure _ _
  | pop => exact keeps_bind hpop fun _ => keeps_pure _ _
  | arithmetic op =>
      exact keeps_bind hpop fun _ => keeps_bind hpop fun _ => keeps_bind (keeps_lift _ _) fun _ =>
        keeps_bind (keeps_push hstack _) fun _ => keeps_pure _ _
  | store =>
      exact keeps_bind hpop fun _ => keeps_bind hpop fun _ =>
        keeps_bind (keeps_store (hheap rfl) _ _) fun _ => keeps_pure _ _
  | retrieve =>
      exact keeps_bind hpop fun _ => keeps_bind (keeps_retrieve _) fun _ =>
        keeps_bind (keeps_push hstack _) fun _ => keeps_pure _ _
  | printChar => exact keeps_bind (keeps_printChar hstack (hwritten rfl)) fun _ => keeps_pure _ _
  | printNumber =>
      exact keeps_bind hpop fun _ => keeps_bind (keeps_write (hwritten rfl) _) fun _ =>
        keeps_pure _ _
  | readChar =>
      exact keeps_bind (keeps_readChar hstack (hheap rfl) (hread rfl).left (hread rfl).right)
        fun _ => keeps_pure _ _
  | readNumber =>
      exact keeps_bind (keeps_readNumber hstack (hheap rfl) (hread rfl).left (hread rfl).right)
        fun _ => keeps_pure _ _
  | ret => exact keeps_pure _ _
  | halt => exact keeps_pure _ _

theorem keeps_perform (host : Host) (instruction : Instruction) (hstack : IgnoresStack view)
    (hplain : forall op, instruction = .plain op ->
      (op.stores = true -> IgnoresHeap view) ∧ (op.writes = true -> IgnoresWritten view) ∧
        (op.reads = true -> IgnoresInput view ∧ IgnoresFlushed view)) :
    Keeps (instruction.perform host) view := by
  cases instruction with
  | plain op =>
      rcases hplain op rfl with ⟨hheap, hwritten, hread⟩
      exact keeps_performPlain op hstack hheap hwritten hread
  | number op operand =>
      cases op with
      | push => exact keeps_bind (keeps_push hstack _) fun _ => keeps_pure _ _
      | copy => exact keeps_bind (keeps_onStack hstack _) fun _ => keeps_pure _ _
      | slide => exact keeps_bind (keeps_onStack hstack _) fun _ => keeps_pure _ _
  | label op operand =>
      cases op with
      | mark => exact keeps_pure _ _
      | call => exact keeps_pure _ _
      | jump => exact keeps_pure _ _
      | jumpZero => exact keeps_bind (keeps_pop hstack) fun _ => keeps_pure _ _
      | jumpNegative => exact keeps_bind (keeps_pop hstack) fun _ => keeps_pure _ _
      | foreign => exact keeps_callHost hstack host _

theorem keeps_perform_of_ignores (host : Host) (instruction : Instruction)
    (hstack : IgnoresStack view) (hheap : IgnoresHeap view) (hwritten : IgnoresWritten view)
    (hinput : IgnoresInput view) : Keeps (instruction.perform host) view := by
  refine keeps_perform host instruction hstack ?_
  intro op _hop
  -- A flush is the part of writing that leaves the text alone.
  exact ⟨fun _ => hheap, fun _ => hwritten,
    fun _ => ⟨hinput, fun memory state => hwritten memory state memory.output.text⟩⟩

end Instruction

end Whitespace
