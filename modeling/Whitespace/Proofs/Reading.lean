import Whitespace.Proofs.Lines
import Whitespace.Proofs.Steps

/-!
# Reading input

Characters and numbers are read from one input by two instructions.  A number
takes a fresh line and leaves the line at hand alone; a character takes one only
when the line at hand is used up.
-/

namespace Whitespace

/-!
# The two readers
-/

inductive Reader where
  | char
  | number
  deriving DecidableEq, Repr

def Reader.instruction : Reader -> Instruction
  | char => .plain .readChar
  | number => .plain .readNumber

namespace Instruction

def reader? : Instruction -> Option Reader
  | .plain .readChar => some .char
  | .plain .readNumber => some .number
  | _ => none

theorem eq_of_reader? {instruction : Instruction} {reader : Reader}
    (hreader : instruction.reader? = some reader) : instruction = reader.instruction := by
  unfold reader? at hreader
  split at hreader
  · cases hreader
    rfl
  · cases hreader
    rfl
  · cases hreader

theorem reads_of_reader?_none {op : PlainOp} (hreader : (plain op).reader? = none) :
    op.reads = false := by
  cases op with
  | readChar => cases hreader
  | readNumber => cases hreader
  | _ => rfl

end Instruction

/-!
# What readers do to memory

Both take a key off the stack and flush the output before they come to their
read.
-/

namespace Action

variable {α : Type} {memory : Memory} {key : Int} {rest : List Int}

theorem pop_of_cons (hstack : memory.stack.items = key :: rest) :
    pop memory = (.ok key, { memory with stack := ⟨rest⟩ }) := by
  simp only [pop, onStack, Stack.pop, hstack]

theorem pop_of_nil (hstack : memory.stack.items = []) :
    pop memory = (.error (.stackUnderflow 1 0), memory) := by
  simp only [pop, onStack, Stack.pop, hstack]

theorem flush_of_accepted (haccepted : memory.output.flushFault = none) :
    flush memory = (.ok (), { memory with output := memory.output.flush.2 }) :=
  onOutput_of_ok (Output.flush_of_accepted haccepted)

theorem flush_of_refused {fault : String} (hrefused : memory.output.flushFault = some fault) :
    flush memory = (.error (.io fault), { memory with output := memory.output.flush.2 }) :=
  onOutput_of_error (Output.flush_of_refused hrefused)

def withKey (next : Int -> Action α) : Action α := do
  let key <- pop
  flush
  next key

theorem withKey_of_accepted {next : Int -> Action α} (hstack : memory.stack.items = key :: rest)
    (haccepted : memory.output.flushFault = none) :
    withKey next memory =
      next key { memory with stack := ⟨rest⟩, output := memory.output.flush.2 } := by
  have hflush := @flush_of_accepted { memory with stack := ⟨rest⟩ } haccepted
  rw [withKey, bind_eq_of_ok (pop_of_cons hstack), bind_eq_of_ok hflush]

theorem withKey_of_nil {next : Int -> Action α} (hstack : memory.stack.items = []) :
    withKey next memory = (.error (.stackUnderflow 1 0), memory) := by
  rw [withKey, bind_eq_of_error (pop_of_nil hstack)]

theorem withKey_of_refused {next : Int -> Action α} {fault : String}
    (hstack : memory.stack.items = key :: rest)
    (hrefused : memory.output.flushFault = some fault) :
    withKey next memory =
      (.error (.io fault), { memory with stack := ⟨rest⟩, output := memory.output.flush.2 }) := by
  have hflush := @flush_of_refused { memory with stack := ⟨rest⟩ } _ hrefused
  rw [withKey, bind_eq_of_ok (pop_of_cons hstack), bind_eq_of_error hflush]

theorem fillLine_of_line {c : Char} {chars : List Char} (hline : memory.line = c :: chars) :
    fillLine memory = (.ok (), memory) := by
  simp only [fillLine, hline, List.isEmpty_cons]
  rfl

theorem fillLine_of_ok {chars : List Char} {after : Memory} (hline : memory.line = [])
    (hread : readLine memory = (.ok chars, after)) :
    fillLine memory = (.ok (), { after with line := chars ++ ['\n'] }) := by
  simp only [fillLine, hline, List.isEmpty_nil, hread]
  rfl

theorem fillLine_of_error {error : MachineError} {after : Memory} (hline : memory.line = [])
    (hread : readLine memory = (.error error, after)) :
    fillLine memory = (.error error, after) := by
  simp only [fillLine, hline, List.isEmpty_nil, hread]
  rfl

theorem takeChar_of_line {c : Char} {chars : List Char} (hline : memory.line = c :: chars) :
    takeChar memory = (.ok c, { memory with line := chars }) := by
  simp only [takeChar, hline]

end Action

namespace Instruction

open Whitespace.Action

def storeChar (key : Int) : Action Unit := do
  fillLine
  let c <- takeChar
  store key c.toNat

def storeNumber (key : Int) : Action Unit := do
  let text := Text.trim (<- readLine)
  match Text.readInteger? text with
  | some value => store key value
  | none => fail (.input (.notNumber (String.ofList text)))

variable {memory : Memory} {key : Int}

theorem storeChar_of_line {c : Char} {chars : List Char} (hline : memory.line = c :: chars) :
    storeChar key memory =
      (.ok (), { memory with line := chars, heap := memory.heap.store key c.toNat }) := by
  rw [storeChar, bind_eq_of_ok (fillLine_of_line hline), bind_eq_of_ok (takeChar_of_line hline)]
  rfl

theorem storeChar_of_filled {line chars : List Char} {c : Char} {after : Memory}
    (hempty : memory.line = []) (hread : readLine memory = (.ok line, after))
    (hchars : line ++ ['\n'] = c :: chars) :
    storeChar key memory =
      (.ok (), { after with line := chars, heap := after.heap.store key c.toNat }) := by
  have hline : ({ after with line := line ++ ['\n'] } : Memory).line = c :: chars := hchars
  rw [storeChar, bind_eq_of_ok (fillLine_of_ok hempty hread),
    bind_eq_of_ok (takeChar_of_line hline)]
  rfl

theorem storeChar_of_ended {after : Memory} {error : MachineError} (hempty : memory.line = [])
    (hread : readLine memory = (.error error, after)) :
    storeChar key memory = (.error error, after) := by
  rw [storeChar, bind_eq_of_error (fillLine_of_error hempty hread)]

theorem storeNumber_of_value {line : List Char} {value : Int} {after : Memory}
    (hread : readLine memory = (.ok line, after))
    (hvalue : Text.readInteger? (Text.trim line) = some value) :
    storeNumber key memory = (.ok (), { after with heap := after.heap.store key value }) := by
  rw [storeNumber, bind_eq_of_ok hread, hvalue]
  rfl

theorem storeNumber_of_text {line : List Char} {after : Memory}
    (hread : readLine memory = (.ok line, after))
    (hvalue : Text.readInteger? (Text.trim line) = none) :
    storeNumber key memory =
      (.error (.input (.notNumber (String.ofList (Text.trim line)))), after) := by
  rw [storeNumber, bind_eq_of_ok hread, hvalue]
  rfl

theorem storeNumber_of_ended {after : Memory} {error : MachineError}
    (hread : readLine memory = (.error error, after)) :
    storeNumber key memory = (.error error, after) := by
  rw [storeNumber, bind_eq_of_error hread]

end Instruction

def Reader.store : Reader -> Int -> Action Unit
  | char => Instruction.storeChar
  | number => Instruction.storeNumber

theorem Instruction.perform_reader (host : Host) (reader : Reader) :
    reader.instruction.perform host =
      (Action.withKey reader.store >>= fun _ => pure .next) := by
  cases reader with
  | char => rfl
  | number => rfl

namespace Machine

/-!
# Steps that read
-/

/-- The reader whose read the next step comes to: it finds a key on the stack, and the output
lets itself be flushed. -/
def reading? (machine : Machine) : Option Reader :=
  if machine.status = .running ∧ machine.memory.stack.items ≠ [] ∧
      machine.memory.output.flushFault = none then
    machine.program[machine.pc]?.bind Instruction.reader?
  else
    none

/-- The lines that no read has taken, with their ends. -/
def linesLeft (machine : Machine) : List (List Char) :=
  machine.memory.input.lines

def needsLine (machine : Machine) : Bool :=
  match machine.reading? with
  | some .number => true
  | some .char => machine.memory.line.isEmpty
  | none => false

/-- The lines that the next step is due to take: the first one left if it needs one. -/
def taken (machine : Machine) : List (List Char) :=
  if machine.needsLine then machine.linesLeft.take 1 else []

def takenBy (reader : Reader) (machine : Machine) : List (List Char) :=
  if machine.reading? = some reader then machine.taken else []

def stored? (machine : Machine) : Option Int :=
  machine.memory.stack.items.head?.bind machine.step.2.memory.heap.get?

/-- The characters that the next step delivers: a read of a character that succeeds stores the
code of one. -/
def delivered (machine : Machine) : List Char :=
  match machine.reading?, machine.step.1 with
  | some .char, .ok _ => machine.stored?.toList.map fun code => Char.ofNat code.toNat
  | _, _ => []

/-- A line as it is delivered, its end replaced by a single line feed. -/
def asDelivered (line : List Char) : List Char :=
  Text.chomp line ++ ['\n']

theorem reading?_eq_some {machine : Machine} {reader : Reader}
    (hreading : machine.reading? = some reader) :
    machine.status = .running ∧ machine.program[machine.pc]? = some reader.instruction ∧
      machine.memory.output.flushFault = none ∧
      exists key rest, machine.memory.stack.items = key :: rest := by
  unfold reading? at hreading
  split at hreading
  · next hready =>
      rcases hready with ⟨hrunning, hstack, hflush⟩
      rcases Option.bind_eq_some_iff.mp hreading with ⟨instruction, hat, hreader⟩
      rw [Instruction.eq_of_reader? hreader] at hat
      exact ⟨hrunning, hat, hflush, List.exists_cons_of_ne_nil hstack⟩
  · cases hreading

theorem step_of_reading {machine : Machine} {reader : Reader}
    (hreading : machine.reading? = some reader) :
    exists (key : Int) (memory : Memory),
      memory.line = machine.memory.line ∧ memory.input = machine.memory.input ∧
        machine.stored? = machine.step.2.memory.heap.get? key ∧
        machine.step.1 = (reader.store key memory).1.map (fun _ => reader.instruction) ∧
        machine.step.2.memory = (reader.store key memory).2 := by
  rcases reading?_eq_some hreading with ⟨hrunning, hat, hflush, key, rest, hstack⟩
  let ready : Memory :=
    { machine.memory with stack := ⟨rest⟩, output := machine.memory.output.flush.2 }
  refine ⟨key, ready, rfl, rfl, ?_, ?_⟩
  · rw [stored?, hstack, List.head?_cons, Option.bind_some]
  · have hkey : Action.withKey reader.store machine.memory = reader.store key ready :=
      Action.withKey_of_accepted hstack hflush
    have hperform := congrFun (Instruction.perform_reader machine.host reader) machine.memory
    cases hstore : reader.store key ready with
    | mk result after =>
        rw [hstore] at hkey
        cases result with
        | error error =>
            rw [Action.bind_eq_of_error hkey] at hperform
            rw [step_of_running hrunning hat, execute_of_refused hperform]
            exact ⟨rfl, rfl⟩
        | ok _ =>
            rw [Action.bind_eq_of_ok hkey] at hperform
            rw [step_of_running hrunning hat, execute_of_done hperform rfl]
            exact ⟨rfl, rfl⟩

def unread (memory : Memory) : List Char × Input :=
  (memory.line, memory.input)

theorem step_of_not_reached {machine : Machine} {reader : Reader}
    (hreading : machine.reading? = none) (hrunning : machine.status = .running)
    (hat : machine.program[machine.pc]? = some reader.instruction) :
    unread machine.step.2.memory = unread machine.memory ∧
      machine.step.1 ≠ .error (.input .ended) := by
  have hperform := congrFun (Instruction.perform_reader machine.host reader) machine.memory
  have hreader : reader.instruction.reader? = some reader := by
    cases reader with
    | char => rfl
    | number => rfl
  cases hstack : machine.memory.stack.items with
  | nil =>
      rw [Action.bind_eq_of_error (Action.withKey_of_nil hstack)] at hperform
      rw [step_of_running hrunning hat, execute_of_refused hperform]
      refine ⟨rfl, ?_⟩
      intro hended
      cases hended
  | cons key rest =>
      cases hflush : machine.memory.output.flushFault with
      | some fault =>
          rw [Action.bind_eq_of_error (Action.withKey_of_refused hstack hflush)] at hperform
          rw [step_of_running hrunning hat, execute_of_refused hperform]
          refine ⟨rfl, ?_⟩
          intro hended
          cases hended
      | none =>
          have hkey : machine.memory.stack.items ≠ [] := by
            rw [hstack]
            exact List.cons_ne_nil key rest
          rw [reading?, if_pos ⟨hrunning, hkey, hflush⟩, hat, Option.bind_some, hreader] at hreading
          cases hreading

theorem unread_of_reader?_none {machine : Machine} {instruction : Instruction}
    (hrunning : machine.status = .running)
    (hat : machine.program[machine.pc]? = some instruction)
    (hreader : instruction.reader? = none) :
    unread machine.step.2.memory = unread machine.memory := by
  rw [step_of_running hrunning hat, memory_execute]
  refine Instruction.keeps_perform machine.host instruction (fun _ _ => rfl) ?_ machine.memory
  intro op hop
  rw [hop] at hreader
  refine ⟨fun _ _ _ => rfl, fun _ _ _ _ => rfl, ?_⟩
  intro hreads
  rw [Instruction.reads_of_reader?_none hreader] at hreads
  cases hreads

theorem unread_of_not_reading {machine : Machine} (hreading : machine.reading? = none) :
    unread machine.step.2.memory = unread machine.memory ∧
      forall reader : Reader, machine.program[machine.pc]? = some reader.instruction ->
        machine.step.1 ≠ .error (.input .ended) := by
  by_cases hrunning : machine.status = .running
  · constructor
    · cases hat : machine.program[machine.pc]? with
      | none => rw [step_of_end hrunning hat]
      | some instruction =>
          cases hreader : instruction.reader? with
          | none => exact unread_of_reader?_none hrunning hat hreader
          | some reader =>
              rw [Instruction.eq_of_reader? hreader] at hat
              exact (step_of_not_reached hreading hrunning hat).left
    · intro reader hat
      exact (step_of_not_reached hreading hrunning hat).right
  · rw [step_of_not_running hrunning]
    refine ⟨rfl, ?_⟩
    intro reader _hat hended
    cases hended

theorem delivered_of_ok {machine : Machine} {instruction : Instruction} {c : Char}
    (hreading : machine.reading? = some .char) (hresult : machine.step.1 = .ok instruction)
    (hstored : machine.stored? = some (c.toNat : Int)) : machine.delivered = [c] := by
  simp only [delivered, hreading, hresult, hstored]
  simp

theorem delivered_of_error {machine : Machine} {error : MachineError}
    (hresult : machine.step.1 = .error error) : machine.delivered = [] := by
  unfold delivered
  split
  · next hok =>
      rw [hresult] at hok
      cases hok
  · rfl

theorem delivered_of_ne {machine : Machine} (hreading : machine.reading? ≠ some .char) :
    machine.delivered = [] := by
  unfold delivered
  split
  · next hchar _ => exact absurd hchar hreading
  · rfl

/-!
# What a step takes

A step reads nothing, or delivers a character of the line at hand, or takes a
line for a character or for a number, or wants a line where none is left.
-/

inductive Intake (machine : Machine) : Prop where
  | apart (hreading : machine.reading? = none)
      (hunread : unread machine.step.2.memory = unread machine.memory)
      (hresult : forall reader : Reader, machine.program[machine.pc]? = some reader.instruction ->
        machine.step.1 ≠ .error (.input .ended))
  | buffered (c : Char) (chars : List Char) (hreading : machine.reading? = some .char)
      (hline : machine.memory.line = c :: chars)
      (hunread : unread machine.step.2.memory = (chars, machine.memory.input))
      (hresult : machine.step.1 = .ok (.plain .readChar))
      (hstored : machine.stored? = some (c.toNat : Int))
  | filled (line : List Char) (rest : List (List Char)) (c : Char) (chars : List Char)
      (input : Input) (hreading : machine.reading? = some .char)
      (hempty : machine.memory.line = []) (hlines : machine.linesLeft = line :: rest)
      (hchars : asDelivered line = c :: chars) (hlegible : input.Legible)
      (hleft : input.lines = rest) (hunread : unread machine.step.2.memory = (chars, input))
      (hresult : machine.step.1 = .ok (.plain .readChar))
      (hstored : machine.stored? = some (c.toNat : Int))
  | numbered (line : List Char) (rest : List (List Char)) (input : Input)
      (hreading : machine.reading? = some .number) (hlines : machine.linesLeft = line :: rest)
      (hlegible : input.Legible) (hleft : input.lines = rest)
      (hunread : unread machine.step.2.memory = (machine.memory.line, input))
      (hnumber : forall value, Text.readInteger? (Text.trim (Text.chomp line)) = some value ->
        machine.step.1 = .ok (.plain .readNumber) ∧ machine.stored? = some value)
      (htext : Text.readInteger? (Text.trim (Text.chomp line)) = none ->
        machine.step.1 =
          .error (.input (.notNumber (String.ofList (Text.trim (Text.chomp line))))))
  | ended (hneeds : machine.needsLine = true) (hlines : machine.linesLeft = [])
      (hunread : unread machine.step.2.memory = unread machine.memory)
      (hresult : machine.step.1 = .error (.input .ended))

theorem intake_of_char {machine : Machine} (hlegible : machine.memory.input.Legible)
    (hreading : machine.reading? = some .char) : Intake machine := by
  rcases step_of_reading hreading with ⟨key, memory, hline, hinput, hstored, hresult, hmemory⟩
  simp only [Reader.store] at hresult hmemory
  cases hchars : machine.memory.line with
  | cons c chars =>
      rw [Instruction.storeChar_of_line (hline.trans hchars)] at hresult hmemory
      rw [hmemory, Heap.get?_store_self] at hstored
      refine .buffered c chars hreading hchars ?_ hresult hstored
      rw [hmemory, ← hinput]
      rfl
  | nil =>
      have hempty := hline.trans hchars
      rw [← hinput] at hlegible
      cases hlines : machine.linesLeft with
      | nil =>
          rw [linesLeft, ← hinput] at hlines
          rw [Instruction.storeChar_of_ended hempty (Action.readLine_of_ended hlegible hlines)]
            at hresult hmemory
          refine .ended ?_ (by rw [linesLeft, ← hinput, hlines]) ?_ hresult
          · simp only [needsLine, hreading, hchars, List.isEmpty_nil]
          · rw [hmemory, unread, unread, hline, hinput]
      | cons line rest =>
          have hleft := hlines
          rw [linesLeft, ← hinput] at hleft
          rcases Action.readLine_of_line hlegible hleft with ⟨input, hlegible, hrest, hread⟩
          rcases List.exists_cons_of_ne_nil (List.append_ne_nil_of_right_ne_nil (Text.chomp line)
            (List.cons_ne_nil '\n' [])) with ⟨c, chars, hline⟩
          rw [Instruction.storeChar_of_filled hempty hread hline] at hresult hmemory
          rw [hmemory, Heap.get?_store_self] at hstored
          refine .filled line rest c chars input hreading hchars hlines hline hlegible hrest ?_
            hresult hstored
          rw [hmemory]
          rfl

theorem intake_of_number {machine : Machine} (hlegible : machine.memory.input.Legible)
    (hreading : machine.reading? = some .number) : Intake machine := by
  rcases step_of_reading hreading with ⟨key, memory, hline, hinput, hstored, hresult, hmemory⟩
  simp only [Reader.store] at hresult hmemory
  rw [← hinput] at hlegible
  cases hlines : machine.linesLeft with
  | nil =>
      have hleft := hlines
      rw [linesLeft, ← hinput] at hleft
      rw [Instruction.storeNumber_of_ended (Action.readLine_of_ended hlegible hleft)]
        at hresult hmemory
      refine .ended ?_ hlines ?_ hresult
      · simp only [needsLine, hreading]
      · rw [hmemory, unread, unread, hline, hinput]
  | cons line rest =>
      have hleft := hlines
      rw [linesLeft, ← hinput] at hleft
      rcases Action.readLine_of_line hlegible hleft with ⟨input, hlegible, hrest, hread⟩
      cases hvalue : Text.readInteger? (Text.trim (Text.chomp line)) with
      | some value =>
          rw [Instruction.storeNumber_of_value hread hvalue] at hresult hmemory
          rw [hmemory, Heap.get?_store_self] at hstored
          refine .numbered line rest input hreading hlines hlegible hrest ?_ ?_ ?_
          · rw [hmemory, ← hline]
            rfl
          · intro other hother
            rw [hvalue] at hother
            cases hother
            exact ⟨hresult, hstored⟩
          · intro hnone
            rw [hvalue] at hnone
            cases hnone
      | none =>
          rw [Instruction.storeNumber_of_text hread hvalue] at hresult hmemory
          refine .numbered line rest input hreading hlines hlegible hrest ?_ ?_ ?_
          · rw [hmemory, ← hline]
            rfl
          · intro other hother
            rw [hvalue] at hother
            cases hother
          · intro _hnone
            exact hresult

theorem intake {machine : Machine} (hlegible : machine.memory.input.Legible) : Intake machine := by
  cases hreading : machine.reading? with
  | none =>
      rcases unread_of_not_reading hreading with ⟨hunread, hresult⟩
      exact .apart hreading hunread hresult
  | some reader =>
      cases reader with
      | char => exact intake_of_char hlegible hreading
      | number => exact intake_of_number hlegible hreading

end Machine
end Whitespace
