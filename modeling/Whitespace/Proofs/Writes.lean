import Whitespace.Machine.Snapshot
import Whitespace.Proofs.Failures

/-!
# The heap and the history of its writes

Cells are seeded by the owner of a machine and written by three instructions, which
take key and value from different places.  The heap holds nothing but these
writes: under each key the latest one since the machine was built or reset.
-/

namespace Whitespace

/-!
# Cells in order of writing
-/

def lastWritten? (cells : List (Int × Int)) (key : Int) : Option Int :=
  ((cells.filter fun cell => cell.1 = key).getLast?).map Prod.snd

theorem lastWritten?_append_self (cells : List (Int × Int)) (key value : Int) :
    lastWritten? (cells ++ [(key, value)]) key = some value := by
  simp [lastWritten?, List.filter_append]

theorem lastWritten?_append_of_ne (cells : List (Int × Int)) {key other : Int} (value : Int)
    (hdifferent : other ≠ key) :
    lastWritten? (cells ++ [(other, value)]) key = lastWritten? cells key := by
  simp [lastWritten?, List.filter_append, hdifferent]

theorem exists_lastWritten?_iff {cells : List (Int × Int)} {key : Int} :
    (exists value, lastWritten? cells key = some value) ↔ key ∈ cells.map Prod.fst := by
  induction cells using List.reverseRecOn with
  | nil => simp [lastWritten?]
  | append_singleton cells cell ih =>
      rcases cell with ⟨other, value⟩
      by_cases hsame : other = key
      · rw [hsame]
        simp [lastWritten?_append_self]
      · rw [lastWritten?_append_of_ne _ _ hsame, ih]
        simp [Ne.symm hsame]

namespace Heap

theorem storeAll_append (heap : Heap) (first second : List (Int × Int)) :
    heap.storeAll (first ++ second) = (heap.storeAll first).storeAll second :=
  List.foldl_append

theorem storeAll_singleton (heap : Heap) (key value : Int) :
    heap.storeAll [(key, value)] = heap.store key value := rfl

theorem get?_storeAll_empty (cells : List (Int × Int)) (key : Int) :
    (empty.storeAll cells).get? key = lastWritten? cells key := by
  induction cells using List.reverseRecOn with
  | nil => exact get?_empty key
  | append_singleton cells cell ih =>
      rcases cell with ⟨other, value⟩
      rw [storeAll_append, storeAll_singleton]
      by_cases hsame : other = key
      · rw [hsame, get?_store_self, lastWritten?_append_self]
      · rw [get?_store_of_ne _ _ hsame, lastWritten?_append_of_ne _ _ hsame, ih]

theorem mem_toList_iff {heap : Heap} {key value : Int} :
    (key, value) ∈ heap.toList ↔ heap.get? key = some value :=
  Std.TreeMap.mem_toList_iff_getElem?_eq_some

theorem pairwise_keys (heap : Heap) : (heap.toList.map Prod.fst).Pairwise (· < ·) := by
  rw [List.pairwise_map]
  refine Std.TreeMap.ordered_keys_toList.imp ?_
  intro first second hcompare
  exact Int.compare_eq_lt.mp hcompare

end Heap

/-!
# What instructions write

A store finds the value above the key.  The readers find the key on the stack and
the value in the input.
-/

def Input.nextLine? (input : Input) : Option (List Char) := do
  let taken <- input.takeLine?
  let chars <- decodeUtf8? taken.1
  return Text.chomp chars

/-- What a reader finds: the next character of the line at hand, or else of a fresh line, or the
number on a fresh line. -/
def Reader.value? (memory : Memory) : Reader -> Option Int
  | char =>
      match memory.line with
      | c :: _ => some c.toNat
      | [] => do
          let chars <- memory.input.nextLine?
          let c <- (chars ++ ['\n']).head?
          return c.toNat
  | number => do
      let chars <- memory.input.nextLine?
      Text.readInteger? (Text.trim chars)

/-- The cell that an instruction writes when it succeeds. -/
def Instruction.cell? (memory : Memory) : Instruction -> Option (Int × Int)
  | .plain .store =>
      match memory.stack.items with
      | value :: key :: _ => some (key, value)
      | _ => none
  | .plain .readChar => do
      let key <- memory.stack.items.head?
      let value <- Reader.char.value? memory
      return (key, value)
  | .plain .readNumber => do
      let key <- memory.stack.items.head?
      let value <- Reader.number.value? memory
      return (key, value)
  | _ => none

theorem Action.nextLine?_of_readLine {memory after : Memory} {chars : List Char}
    (hread : readLine memory = (.ok chars, after)) : memory.input.nextLine? = some chars := by
  unfold readLine at hread
  unfold Input.nextLine?
  split at hread
  · cases hread
  · next bytes input htaken =>
      split at hread
      · cases hread
      · next decoded hdecoded =>
          cases hread
          rw [htaken]
          show (decodeUtf8? bytes >>= fun chars => pure (Text.chomp chars)) = _
          rw [hdecoded]
          rfl

theorem Reader.heap_store (reader : Reader) (key : Int) (memory : Memory) :
    (exists value after, reader.value? memory = some value ∧
      reader.store key memory = (.ok (), after) ∧ after.heap = memory.heap.store key value) ∨
    exists error after, reader.store key memory = (.error error, after) ∧
      after.heap = memory.heap := by
  have hkept := @Action.keeps_readLine _ Memory.heap (fun _ _ _ => rfl) memory
  cases hread : Action.readLine memory with
  | mk result after =>
      rw [hread] at hkept
      cases reader with
      | char =>
          cases hline : memory.line with
          | cons c chars =>
              refine Or.inl ⟨c.toNat, _, ?_, Instruction.storeChar_of_line hline, rfl⟩
              rw [value?, hline]
          | nil =>
              cases result with
              | error error =>
                  exact Or.inr ⟨error, after, Instruction.storeChar_of_ended hline hread, hkept⟩
              | ok chars =>
                  rcases List.exists_cons_of_ne_nil (List.append_ne_nil_of_right_ne_nil chars
                    (List.cons_ne_nil '\n' [])) with ⟨c, rest, hchars⟩
                  refine Or.inl ⟨c.toNat, _, ?_, Instruction.storeChar_of_filled hline hread hchars,
                    congrArg (·.store key c.toNat) hkept⟩
                  rw [value?, hline, Action.nextLine?_of_readLine hread]
                  show ((chars ++ ['\n']).head? >>= fun c => pure (c.toNat : Int)) = _
                  rw [hchars]
                  rfl
      | number =>
          cases result with
          | error error =>
              exact Or.inr ⟨error, after, Instruction.storeNumber_of_ended hread, hkept⟩
          | ok chars =>
              cases hvalue : Text.readInteger? (Text.trim chars) with
              | none => exact Or.inr ⟨_, after, Instruction.storeNumber_of_text hread hvalue, hkept⟩
              | some value =>
                  refine Or.inl ⟨value, _, ?_, Instruction.storeNumber_of_value hread hvalue,
                    congrArg (·.store key value) hkept⟩
                  rw [value?, Action.nextLine?_of_readLine hread]
                  exact hvalue

namespace Instruction

open Whitespace.Action

inductive Records (instruction : Instruction) (memory : Memory) :
    Except MachineError Flow × Memory -> Prop where
  | done (flow : Flow) (after : Memory)
      (hheap : after.heap = memory.heap.storeAll (instruction.cell? memory).toList) :
      Records instruction memory (.ok flow, after)
  | failed (error : MachineError) (after : Memory) (hheap : after.heap = memory.heap) :
      Records instruction memory (.error error, after)

theorem records_store (host : Host) (memory : Memory) :
    Records (.plain .store) memory (perform host (.plain .store) memory) := by
  show Records _ _ ((pop >>= _) memory)
  cases hstack : memory.stack.items with
  | nil =>
      rw [bind_eq_of_error (pop_of_nil hstack)]
      exact .failed _ _ rfl
  | cons value below =>
      rw [bind_eq_of_ok (pop_of_cons hstack)]
      cases below with
      | nil => exact .failed _ _ rfl
      | cons key rest =>
          refine .done .next _ ?_
          rw [cell?, hstack]
          rfl

theorem cell?_reader (reader : Reader) (memory : Memory) :
    reader.instruction.cell? memory = do
      let key <- memory.stack.items.head?
      let value <- reader.value? memory
      return (key, value) := by
  cases reader with
  | char => rfl
  | number => rfl

theorem records_reader (host : Host) (reader : Reader) (memory : Memory) :
    Records reader.instruction memory (reader.instruction.perform host memory) := by
  rw [perform_reader]
  cases hstack : memory.stack.items with
  | nil =>
      rw [bind_eq_of_error (withKey_of_nil hstack)]
      exact .failed _ _ rfl
  | cons key rest =>
      cases hflush : memory.output.flushFault with
      | some fault =>
          rw [bind_eq_of_error (withKey_of_refused hstack hflush)]
          exact .failed _ _ rfl
      | none =>
          have hkey := @withKey_of_accepted _ _ _ _ reader.store hstack hflush
          rcases reader.heap_store key
              { memory with stack := ⟨rest⟩, output := memory.output.flush.2 } with
            ⟨value, after, hvalue, hstore, hheap⟩ | ⟨error, after, hstore, hheap⟩
          · rw [bind_eq_of_ok (hkey.trans hstore)]
            refine .done .next after ?_
            have hfound : reader.value? memory = some value := hvalue
            rw [cell?_reader, hstack, hfound, hheap]
            rfl
          · rw [bind_eq_of_error (hkey.trans hstore)]
            exact .failed error after hheap

theorem records_of_not_stores (host : Host) {instruction : Instruction} (memory : Memory)
    (hquiet : forall op, instruction = .plain op -> op.stores = false) :
    Records instruction memory (instruction.perform host memory) := by
  have hkept : (instruction.perform host memory).2.heap = memory.heap := by
    refine @keeps_perform _ Memory.heap host instruction (fun _ _ => rfl) ?_ memory
    intro op hop
    refine ⟨?_, fun _ _ _ _ => rfl, fun _ => ⟨fun _ _ _ => rfl, fun _ _ => rfl⟩⟩
    intro hstores
    rw [hquiet op hop] at hstores
    cases hstores
  have hcell : instruction.cell? memory = none := by
    unfold cell?
    split
    · cases hquiet _ rfl
    · cases hquiet _ rfl
    · cases hquiet _ rfl
    · rfl
  cases hperform : instruction.perform host memory with
  | mk result after =>
      rw [hperform] at hkept
      cases result with
      | error error => exact .failed error after hkept
      | ok flow =>
          refine .done flow after ?_
          rw [hcell]
          exact hkept

theorem records_perform (host : Host) (instruction : Instruction) (memory : Memory) :
    Records instruction memory (instruction.perform host memory) := by
  cases instruction with
  | plain op =>
      cases hstores : op.stores with
      | false =>
          apply records_of_not_stores
          intro other hother
          cases hother
          exact hstores
      | true =>
          cases op with
          | store => exact records_store host memory
          | readChar => exact records_reader host .char memory
          | readNumber => exact records_reader host .number memory
          | _ => cases hstores
  | number op operand =>
      apply records_of_not_stores
      intro other hother
      cases hother
  | label op operand =>
      apply records_of_not_stores
      intro other hother
      cases hother

end Instruction

namespace Machine

def written (machine : Machine) : List (Int × Int) :=
  match machine.step.1 with
  | .ok instruction => (instruction.cell? machine.memory).toList
  | .error _ => []

theorem heap_step (machine : Machine) :
    machine.step.2.memory.heap = machine.memory.heap.storeAll machine.written := by
  unfold written
  by_cases hrunning : machine.status = .running
  · cases hat : machine.program[machine.pc]? with
    | none =>
        rw [step_of_end hrunning hat]
        rfl
    | some instruction =>
        have hrecords := Instruction.records_perform machine.host instruction machine.memory
        have hexecution := execution machine instruction
        rw [step_of_running hrunning hat]
        generalize machine.execute instruction = outcome at hexecution
        cases hexecution with
        | refused error memory hperform =>
            rw [hperform] at hrecords
            cases hrecords with
            | failed error after hheap => exact hheap
        | astray flow memory error hperform hfollow =>
            -- Only a transfer of control goes astray, and it writes no cell.
            have hfits := Instruction.fits_of_perform machine.host instruction _ _ _ hperform
            rcases transfers_of_follow_error hfits hfollow with
              ⟨op, operand, hinstruction, _htransfers⟩
            rw [hperform, hinstruction] at hrecords
            cases hrecords with
            | done flow after hheap => exact hheap
        | done flow memory followed hperform hfollow =>
            rw [hperform] at hrecords
            cases hrecords with
            | done flow after hheap =>
                rw [eq_of_follow hfollow]
                exact hheap
  · rw [step_of_not_running hrunning]
    rfl

theorem step_retrieve {machine : Machine} {key : Int} {rest : List Int}
    (hrunning : machine.status = .running)
    (hat : machine.program[machine.pc]? = some (.plain .retrieve))
    (hstack : machine.memory.stack.items = key :: rest) :
    (forall value, machine.memory.heap.get? key = some value ->
      machine.step.1 = .ok (.plain .retrieve) ∧
        machine.step.2.memory.stack = ⟨value :: rest⟩) ∧
    (machine.memory.heap.get? key = none -> machine.step.1 = .error (.missingKey key)) := by
  have hpop := Action.pop_of_cons hstack
  have hretrieve : Action.retrieve key { machine.memory with stack := ⟨rest⟩ } =
      (machine.memory.heap.retrieve key, { machine.memory with stack := ⟨rest⟩ }) := rfl
  rw [step_of_running hrunning hat]
  constructor
  · intro value hvalue
    have hperform : (Instruction.plain .retrieve).perform machine.host machine.memory =
        (.ok .next, { machine.memory with stack := ⟨value :: rest⟩ }) := by
      rw [Heap.retrieve, hvalue] at hretrieve
      show (Action.pop >>= _) machine.memory = _
      rw [Action.bind_eq_of_ok hpop, Action.bind_eq_of_ok hretrieve]
      rfl
    rw [execute_of_done hperform rfl]
    exact ⟨rfl, rfl⟩
  · intro hmissing
    have hperform : (Instruction.plain .retrieve).perform machine.host machine.memory =
        (.error (.missingKey key), { machine.memory with stack := ⟨rest⟩ }) := by
      rw [Heap.retrieve, hmissing] at hretrieve
      show (Action.pop >>= _) machine.memory = _
      rw [Action.bind_eq_of_ok hpop, Action.bind_eq_of_error hretrieve]
    rw [execute_of_refused hperform]

/-!
# Events

The events of a history that concern the heap are the seeding of cells, the steps,
and resets.  What is recorded of them is what was written since the last reset.
-/

inductive Event where
  | seeded (cells : List (Int × Int))
  | attempted (machine : Machine)
  | cleared

/-- The cells recorded after an event, oldest first. -/
def Event.record (cells : List (Int × Int)) : Event -> List (Int × Int)
  | seeded added => cells ++ added
  | attempted machine => cells ++ machine.written
  | cleared => []

def recorded (cells : List (Int × Int)) (events : List Event) : List (Int × Int) :=
  events.foldl Event.record cells

def eventsOf (machine : Machine) : Operation -> List Event
  | .seedHeap cells => [.seeded cells]
  | .reset => [.cleared]
  | operation => (machine.attemptsOf operation).map .attempted

def events (machine : Machine) : List Operation -> List Event
  | [] => []
  | operation :: rest =>
      machine.eventsOf operation ++ (machine.operate operation).2.events rest

theorem events_append (machine : Machine) (first second : List Operation) :
    machine.events (first ++ second) =
      machine.events first ++ (machine.replay first).events second := by
  induction first generalizing machine with
  | nil => rfl
  | cons operation rest ih =>
      rw [List.cons_append, events, events, ih, List.append_assoc]
      rfl

def Holds (cells : List (Int × Int)) (machine : Machine) : Prop :=
  machine.memory.heap = Heap.empty.storeAll cells

/-- Along the events, each machine that makes a step holds what was recorded before. -/
def Tells (cells : List (Int × Int)) : List Event -> Prop
  | [] => True
  | event :: rest =>
      (forall machine, event = .attempted machine -> Holds cells machine) ∧
        Tells (event.record cells) rest

theorem tells_append {cells : List (Int × Int)} {first second : List Event} :
    Tells cells (first ++ second) ↔
      Tells cells first ∧ Tells (recorded cells first) second := by
  induction first generalizing cells with
  | nil => simp [Tells, recorded]
  | cons event rest ih =>
      rw [List.cons_append, Tells, Tells, ih, and_assoc]
      rfl

theorem recorded_append (cells : List (Int × Int)) (first second : List Event) :
    recorded cells (first ++ second) = recorded (recorded cells first) second :=
  List.foldl_append

variable {cells : List (Int × Int)} {machine : Machine}

theorem Holds.step (hholds : Holds cells machine) :
    Holds (cells ++ machine.written) machine.step.2 := by
  unfold Holds at hholds ⊢
  rw [heap_step, hholds, Heap.storeAll_append]

theorem tells_attempted (hholds : Holds cells machine) : Tells cells [.attempted machine] := by
  refine ⟨?_, trivial⟩
  intro other hsame
  cases hsame
  exact hholds

theorem stepwise_tells (cells : List (Int × Int)) :
    Stepwise fun made machine =>
      Tells cells (made.map .attempted) ∧
        Holds (recorded cells (made.map .attempted)) machine := by
  constructor
  · intro made machine htold
    rcases htold with ⟨htells, hholds⟩
    rw [List.map_append, tells_append, recorded_append]
    exact ⟨⟨htells, tells_attempted hholds⟩, hholds.step⟩
  · intro made machine htold
    exact htold
  · intro made machine htold
    exact htold

theorem Holds.operate (hholds : Holds cells machine) (operation : Operation) :
    Tells cells (machine.eventsOf operation) ∧
      Holds (recorded cells (machine.eventsOf operation)) (machine.operate operation).2 := by
  cases operation with
  | withHost host => exact ⟨trivial, hholds⟩
  | seedStack values => exact ⟨trivial, hholds⟩
  | seedHeap added =>
      refine ⟨⟨?_, trivial⟩, ?_⟩
      · intro other hsame
        cases hsame
      · unfold Holds at hholds
        show machine.memory.heap.storeAll added = Heap.empty.storeAll (cells ++ added)
        rw [hholds, Heap.storeAll_append]
  | raiseInterrupt => exact ⟨trivial, hholds⟩
  | step => exact ⟨tells_attempted hholds, hholds.step⟩
  | run => exact @Stepwise.run _ (stepwise_tells cells) [] machine ⟨trivial, hholds⟩
  | runLimited limit =>
      exact @Stepwise.advance _ (stepwise_tells cells) [] machine ⟨trivial, hholds⟩ _
  | reset =>
      refine ⟨⟨?_, trivial⟩, rfl⟩
      intro other hsame
      cases hsame

theorem Holds.replay (hholds : Holds cells machine) (operations : List Operation) :
    Tells cells (machine.events operations) ∧
      Holds (recorded cells (machine.events operations)) (machine.replay operations) := by
  induction operations generalizing cells machine with
  | nil => exact ⟨trivial, hholds⟩
  | cons operation rest ih =>
      rcases hholds.operate operation with ⟨htells, hnext⟩
      rcases ih hnext with ⟨hlater, hlast⟩
      rw [events, tells_append, recorded_append]
      exact ⟨⟨htells, hlater⟩, hlast⟩

theorem Holds.retrieve (hholds : Holds cells machine) {key : Int} {rest : List Int}
    (hrunning : machine.status = .running)
    (hat : machine.program[machine.pc]? = some (.plain .retrieve))
    (hstack : machine.memory.stack.items = key :: rest) :
    ((exists instruction, machine.step.1 = .ok instruction) ↔ key ∈ cells.map Prod.fst) ∧
      forall instruction, machine.step.1 = .ok instruction ->
        exists value, lastWritten? cells key = some value ∧
          machine.step.2.memory.stack = ⟨value :: rest⟩ := by
  have hget : machine.memory.heap.get? key = lastWritten? cells key := by
    rw [hholds, Heap.get?_storeAll_empty]
  rcases step_retrieve hrunning hat hstack with ⟨hfound, hmissing⟩
  rw [hget] at hfound hmissing
  rw [← exists_lastWritten?_iff]
  cases hvalue : lastWritten? cells key with
  | none =>
      rw [hmissing hvalue]
      refine ⟨?_, ?_⟩
      · constructor
        · intro hok
          rcases hok with ⟨instruction, hok⟩
          cases hok
        · intro hwritten
          rcases hwritten with ⟨value, hwritten⟩
          cases hwritten
      · intro instruction hok
        cases hok
  | some value =>
      rcases hfound value hvalue with ⟨hok, hafter⟩
      refine ⟨?_, ?_⟩
      · exact ⟨fun _hok => ⟨value, rfl⟩, fun _hwritten => ⟨_, hok⟩⟩
      · intro instruction _hok
        exact ⟨value, rfl, hafter⟩

theorem Holds.mem_snapshot (hholds : Holds cells machine) {key value : Int} :
    (key, value) ∈ machine.snapshot.heap ↔ lastWritten? cells key = some value := by
  have hheap : machine.memory.heap = Heap.empty.storeAll cells := hholds
  show (key, value) ∈ machine.memory.heap.toList ↔ _
  rw [Heap.mem_toList_iff, hheap, Heap.get?_storeAll_empty]

theorem Holds.mem_keys_snapshot (hholds : Holds cells machine) {key : Int} :
    key ∈ machine.snapshot.heap.map Prod.fst ↔ key ∈ cells.map Prod.fst := by
  rw [List.mem_map, ← exists_lastWritten?_iff]
  constructor
  · intro hmember
    rcases hmember with ⟨cell, hcell, hkey⟩
    rw [← hkey]
    exact ⟨cell.2, hholds.mem_snapshot.mp hcell⟩
  · intro hwritten
    rcases hwritten with ⟨value, hvalue⟩
    exact ⟨(key, value), hholds.mem_snapshot.mpr hvalue, rfl⟩

/-!
# Every history
-/

theorem heap_is_history_of_writes (program : Program) (input : Input) (output : Output)
    (operations : List Operation) :
    let start := withConsole program input output
    (forall (before after : List Event) (machine : Machine) (key : Int) (rest : List Int),
      start.events operations = before ++ .attempted machine :: after ->
      machine.status = .running -> machine.program[machine.pc]? = some (.plain .retrieve) ->
      machine.memory.stack.items = key :: rest ->
        ((exists instruction, machine.step.1 = .ok instruction) ↔
          key ∈ (recorded [] before).map Prod.fst) ∧
        forall instruction, machine.step.1 = .ok instruction ->
          exists value, lastWritten? (recorded [] before) key = some value ∧
            machine.step.2.memory.stack = ⟨value :: rest⟩) ∧
    let shown := (start.replay operations).snapshot.heap
    let cells := recorded [] (start.events operations)
    (shown.map Prod.fst).Pairwise (· < ·) ∧
      (forall key, key ∈ shown.map Prod.fst ↔ key ∈ cells.map Prod.fst) ∧
      forall key value, (key, value) ∈ shown ↔ lastWritten? cells key = some value := by
  intro start
  have hstart : Holds [] start := rfl
  rcases hstart.replay operations with ⟨htells, hlast⟩
  constructor
  · intro before after machine key rest hevents hrunning hat hstack
    rw [hevents, tells_append] at htells
    have hholds : Holds (recorded [] before) machine := htells.right.left machine rfl
    exact hholds.retrieve hrunning hat hstack
  · exact ⟨Heap.pairwise_keys _, fun _key => hlast.mem_keys_snapshot,
      fun _key _value => hlast.mem_snapshot⟩

/-- A cell that is seeded, then stored, then read into, and retrieved at the end. -/
def overwriter : Machine :=
  withConsole
    #[.number .push (Number.ofInt 5), .number .push (Number.ofInt 7), .plain .store,
      .number .push (Number.ofInt 5), .plain .readChar, .number .push (Number.ofInt 5),
      .plain .retrieve]
    (Input.ofString "a\n") Output.empty

theorem heap_is_history_of_writes_overwriter :
    exists operations : List Operation,
      operations = [.seedHeap [(5, 1), (-2, 3)], .runLimited 6] ∧
      recorded [] (overwriter.events operations) = [(5, 1), (-2, 3), (5, 7), (5, 97)] ∧
      (exists instruction, (overwriter.replay operations).step.1 = .ok instruction) ∧
      (overwriter.replay operations).step.2.memory.stack = ⟨[97]⟩ ∧
      (overwriter.replay operations).snapshot.heap.map Prod.fst = [-2, 5] ∧
      (5, 97) ∈ (overwriter.replay (operations ++ [.step])).snapshot.heap := by
  have hrecorded : recorded [] (overwriter.events [.seedHeap [(5, 1), (-2, 3)], .runLimited 6]) =
      [(5, 1), (-2, 3), (5, 7), (5, 97)] := by decide +kernel
  have hhistory := heap_is_history_of_writes overwriter.program (Input.ofString "a\n") Output.empty
    ([.seedHeap [(5, 1), (-2, 3)], .runLimited 6] ++ [.step])
  have hretrieve := hhistory.left _ [] _ 5 [] (events_append overwriter _ [.step])
    (by decide +kernel) (by decide +kernel) (by decide +kernel)
  have hkey : (5 : Int) ∈ (recorded [] (overwriter.events
      [.seedHeap [(5, 1), (-2, 3)], .runLimited 6])).map Prod.fst := by
    rw [hrecorded]
    decide
  rcases hretrieve.left.mpr hkey with ⟨instruction, hok⟩
  rcases hretrieve.right instruction hok with ⟨value, hvalue, hstack⟩
  rw [hrecorded] at hvalue
  cases hvalue
  refine ⟨_, rfl, hrecorded, ⟨instruction, hok⟩, hstack, by decide +kernel, ?_⟩
  refine (hhistory.right.right.right 5 97).mpr ?_
  decide +kernel

end Machine
end Whitespace
