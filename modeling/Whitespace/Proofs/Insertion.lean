import Whitespace.Proofs.Endings
import Whitespace.Proofs.Histories
import Whitespace.Proofs.Relocation

/-!
# A mark more

A mark does nothing but to be found.  If one is put somewhere into a program, and
no instruction transfers control to its label, then the longer program does what
the old one did.  Everything behind the new mark moves by one place, and control
that comes to the mark passes it with one more step.
-/

namespace Whitespace

/-!
# Places around a new mark

An instruction at the index of the new mark moves behind it.  Control that goes
there comes to the mark first.
-/

/-- Where an instruction stands in the longer program. -/
def moved (index place : Nat) : Nat :=
  if place < index then place else place + 1

/-- Where control goes in the longer program. -/
def landing (index place : Nat) : Nat :=
  if place ≤ index then place else place + 1

theorem landing_succ (index place : Nat) : landing index (place + 1) = moved index place + 1 := by
  unfold landing moved
  split
  · rw [if_pos (by omega)]
  · rw [if_neg (by omega)]

theorem landing_of_ne {index place : Nat} (hne : place ≠ index) :
    landing index place = moved index place := by
  unfold landing moved
  split
  · rw [if_pos (by omega)]
  · rw [if_neg (by omega)]

theorem landing_self (index : Nat) : landing index index = index :=
  if_pos (Nat.le_refl index)

theorem moved_self (index : Nat) : moved index index = index + 1 :=
  if_neg (Nat.lt_irrefl index)

theorem moved_lt_moved_iff {index first second : Nat} :
    moved index first < moved index second ↔ first < second := by
  unfold moved
  split <;> split <;> omega

theorem succ_le_moved_iff {index size place : Nat} (hindex : index ≤ size) :
    size + 1 ≤ moved index place ↔ size ≤ place := by
  unfold moved
  split <;> omega

theorem exists_moved {index place : Nat} (hne : place ≠ index) :
    exists old, moved index old = place := by
  by_cases hbefore : place < index
  · exact ⟨place, if_pos hbefore⟩
  · refine ⟨place - 1, ?_⟩
    rw [moved, if_neg (by omega)]
    omega

/-!
# Labels of the longer program
-/

def Instruction.sought? : Instruction -> Option Nat
  | .label op operand => if op.transfers then some operand.value else none
  | _ => none

namespace Program

def Seeks (program : Program) (label : Nat) : Prop :=
  exists instruction, instruction ∈ program ∧ instruction.sought? = some label

instance (program : Program) (label : Nat) : Decidable (program.Seeks label) :=
  inferInstanceAs
    (Decidable (exists instruction, instruction ∈ program ∧ instruction.sought? = some label))

/-- The program with a new mark in front of the instruction at an index, or at its end. -/
def insertMark (program : Program) (index : Nat) (operand : Label)
    (hindex : index ≤ program.size) : Program :=
  program.insertIdx index (.label .mark operand) hindex

variable {program : Program} {index : Nat} (operand : Label) (hindex : index ≤ program.size)

theorem size_insertMark : (program.insertMark index operand hindex).size = program.size + 1 :=
  Array.size_insertIdx hindex

theorem getElem?_insertMark_self :
    (program.insertMark index operand hindex)[index]? = some (.label .mark operand) := by
  rw [insertMark, Array.getElem?_insertIdx hindex, if_neg (Nat.lt_irrefl index), if_pos rfl,
    if_pos hindex]

theorem getElem?_insertMark_moved (place : Nat) :
    (program.insertMark index operand hindex)[moved index place]? = program[place]? := by
  rw [insertMark, Array.getElem?_insertIdx hindex, moved]
  by_cases hbefore : place < index
  · rw [if_pos hbefore, if_pos hbefore]
  · rw [if_neg hbefore, if_neg (by omega), if_neg (by omega), Nat.add_sub_cancel]

theorem labels_insertMark {label : Nat} (hother : label ≠ operand.value) :
    (program.insertMark index operand hindex).labels[label]? =
      program.labels[label]?.map (moved index) := by
  have hmoved : forall place,
      markedAt (program.insertMark index operand hindex).toList (moved index place) =
        markedAt program.toList place := by
    intro place
    unfold markedAt
    rw [Array.getElem?_toList, Array.getElem?_toList, getElem?_insertMark_moved]
  have hmark : markedAt (program.insertMark index operand hindex).toList index ≠ some label := by
    unfold markedAt
    rw [Array.getElem?_toList, getElem?_insertMark_self]
    intro hlabel
    exact hother (Option.some.inj hlabel).symm
  apply Option.ext
  intro place
  rw [labels_eq_some_iff, Option.map_eq_some_iff]
  constructor
  · rintro ⟨hmarked, hlater⟩
    have hne : place ≠ index := by
      intro hself
      rw [hself] at hmarked
      exact hmark hmarked
    rcases exists_moved hne with ⟨old, hold⟩
    rw [← hold, hmoved] at hmarked
    refine ⟨old, labels_eq_some_iff.mpr ⟨hmarked, ?_⟩, hold⟩
    intro later hless
    rw [← hmoved]
    apply hlater
    rw [← hold]
    exact moved_lt_moved_iff.mpr hless
  · rintro ⟨old, hentry, hplace⟩
    rcases labels_eq_some_iff.mp hentry with ⟨hmarked, hlater⟩
    rw [← hplace]
    refine ⟨(hmoved old).trans hmarked, ?_⟩
    intro later hless
    by_cases hself : later = index
    · rw [hself]
      exact hmark
    · rcases exists_moved hself with ⟨place, hmovedTo⟩
      rw [← hmovedTo, hmoved]
      rw [← hmovedTo] at hless
      exact hlater place (moved_lt_moved_iff.mp hless)

end Program

/-!
# Machines on both programs
-/

namespace Machine

/-- The right machine is on the program with a new mark that the left program does not seek,
and they agree in all but status and place; return addresses are landings. -/
structure Marked (index : Nat) (operand : Label) (left right : Machine) : Prop where
  unsought : ¬ left.program.Seeks operand.value
  program : exists hindex, right.program = left.program.insertMark index operand hindex
  labels : forall label, label ≠ operand.value ->
    right.labels[label]? = left.labels[label]?.map (moved index)
  host : right.host = left.host
  memory : right.memory = left.memory
  calls : right.calls = left.calls.map (landing index)

/-- Moreover, control of both stands at the same instruction as long as they are running. -/
structure Tracks (index : Nat) (operand : Label) (left right : Machine) : Prop
    extends Marked index operand left right where
  status : right.status = left.status
  pc : left.status = .running -> right.pc = moved index left.pc

variable {index : Nat} {operand : Label} {left right : Machine}

theorem Marked.retains {first second : Machine} (hmarked : Marked index operand left right)
    (hbeside : Beside ⟨landing index, id⟩ first second) (hleft : Retains left first)
    (hright : Retains right second) : Marked index operand first second where
  unsought := by
    rw [hleft.program]
    exact hmarked.unsought
  program := by
    rw [hleft.program, hright.program]
    exact hmarked.program
  labels := by
    rw [hleft.labels, hright.labels]
    exact hmarked.labels
  host := hbeside.host
  memory := hbeside.memory
  calls := hbeside.calls

theorem Marked.pass (hmarked : Marked index operand left right)
    (hrunning : right.status = .running) (hright : right.pc = index) (hleft : left.pc = index)
    (hstatus : left.status = if left.program.size ≤ index then .finished else .running) :
    exists next, right.step = (.ok (.label .mark operand), next) ∧
      Tracks index operand left next := by
  rcases hmarked.program with ⟨hindex, hprogram⟩
  have hat : right.program[right.pc]? = some (.label .mark operand) := by
    rw [hright, hprogram, Program.getElem?_insertMark_self]
  refine ⟨_, step_mark hrunning hat, { hmarked with status := ?_, pc := ?_ }⟩
  · simp only [complete, hrunning, hright, hprogram, Program.size_insertMark, true_and,
      Nat.add_le_add_iff_right, hstatus]
  · intro _hrunning
    rw [hleft, moved_self]
    exact congrArg Nat.succ hright

theorem Marked.complete (hmarked : Marked index operand left right)
    (hstatus : right.status = left.status) (hpc : right.pc = landing index left.pc)
    (instruction : Instruction) :
    exists executed other, Executes (right.complete instruction) executed other ∧
      executed.length ≤ 1 ∧ Tracks index operand (left.complete instruction) other := by
  rcases hmarked.program with ⟨hindex, hprogram⟩
  have hsize : right.program.size = left.program.size + 1 := by
    rw [hprogram, Program.size_insertMark]
  by_cases hmark : left.status = .running ∧ left.pc = index
  -- Control has come to the new mark; even at the end of the program there is a step to make.
  · rcases hmark with ⟨hrunning, hleft⟩
    have hright : right.pc = index := by rw [hpc, hleft, landing_self]
    have hgoes : (right.complete instruction).status = .running :=
      running_complete (hstatus.trans hrunning) (by omega)
    have hcompleted : Marked index operand (left.complete instruction)
        (right.complete instruction) := { hmarked with }
    have hends : (left.complete instruction).status =
        if left.program.size ≤ index then .finished else .running := by
      simp only [Machine.complete, hrunning, hleft, true_and]
    rcases hcompleted.pass hgoes hright hleft hends with ⟨next, hstep, htracks⟩
    exact ⟨[_], next, .cons hstep (.nil next), Nat.le_refl 1, htracks⟩
  · have hplace : left.status = .running -> right.pc = moved index left.pc := by
      intro hrunning
      rw [hpc, landing_of_ne fun hleft => hmark ⟨hrunning, hleft⟩]
    refine ⟨[], _, .nil _, Nat.zero_le 1, { hmarked with status := ?_, pc := ?_ }⟩
    · by_cases hrunning : left.status = .running
      · simp only [Machine.complete, hstatus, hrunning, hplace hrunning, hsize,
          succ_le_moved_iff hindex]
      · simp only [Machine.complete, hstatus, hrunning, false_and, if_false]
    · intro hcompleted
      apply hplace
      by_cases hrunning : left.status = .running
      · exact hrunning
      · simp only [Machine.complete, hrunning, false_and, if_false] at hcompleted

structure SameOutcome (left right : Machine) : Prop where
  status : right.status = left.status
  stack : right.memory.stack = left.memory.stack
  heap : right.memory.heap = left.memory.heap
  output : right.memory.output = left.memory.output

theorem SameOutcome.of_memory (hstatus : right.status = left.status)
    (hmemory : right.memory = left.memory) : SameOutcome left right :=
  ⟨hstatus, congrArg Memory.stack hmemory, congrArg Memory.heap hmemory,
    congrArg Memory.output hmemory⟩

/-- How the machine on the longer program echoes a step: it executes the same instruction, and
may pass the new mark after it, or it fails as well. -/
inductive Echoes (index : Nat) (operand : Label) (right : Machine) :
    Except MachineError Instruction × Machine -> Prop where
  | executes {instruction : Instruction} {next other : Machine} {rest : List Instruction}
      (hexecutes : Executes right (instruction :: rest) other) (hshort : rest.length ≤ 1)
      (htracks : Tracks index operand next other) :
      Echoes index operand right (.ok instruction, next)
  | fails {error : MachineError} {next other : Machine}
      (hstep : right.step = (.error error, other)) (hsame : SameOutcome next other) :
      Echoes index operand right (.error error, next)

/-- A transfer does not look for the new mark, so it comes to corresponding places. -/
theorem Marked.leads (hmarked : Marked index operand left right) {place : Nat} {op : LabelOp}
    {other : Label} (hat : left.program[place]? = some (.label op other))
    (htransfers : op.transfers = true) :
    Leads ⟨landing index, id⟩ left right other.value := by
  have hother : other.value ≠ operand.value := by
    intro hvalue
    have hunsought := hmarked.unsought
    rw [← hvalue] at hunsought
    exact hunsought ⟨_, Array.mem_of_getElem? hat, if_pos htransfers⟩
  have hplaces : (fun place => place + 1) ∘ moved index = fun place => landing index (place + 1) :=
    funext fun place => (landing_succ index place).symm
  unfold Leads
  dsimp only [id]
  rw [hmarked.labels other.value hother, Option.map_map, hplaces]

theorem Tracks.getElem? (htracks : Tracks index operand left right)
    (hrunning : left.status = .running) :
    right.program[right.pc]? = left.program[left.pc]? := by
  rcases htracks.program with ⟨hindex, hprogram⟩
  rw [hprogram, htracks.pc hrunning, Program.getElem?_insertMark_moved]

theorem Tracks.execute (htracks : Tracks index operand left right)
    (hrunning : left.status = .running) {instruction : Instruction}
    (hat : left.program[left.pc]? = some instruction) :
    Echoes index operand right (left.execute instruction) := by
  have hright := htracks.getElem? hrunning
  rw [hat] at hright
  have hstep := step_of_running (htracks.status.trans hrunning) hright
  have hbeside : Beside ⟨landing index, id⟩ { left with pc := left.pc + 1 }
      { right with pc := right.pc + 1 } := by
    refine { htracks with pc := ?_ }
    rw [htracks.pc hrunning]
    exact (landing_succ index left.pc).symm
  have hperform : instruction.perform left.host left.memory =
      ((instruction.perform left.host left.memory).1.map (Flow.rename id),
        (instruction.perform left.host left.memory).2) := by
    rw [Flow.map_rename_id]
  have hexecutes := execute_beside hbeside hperform fun op other hlabel htransfers =>
    htracks.leads (hat.trans (congrArg some hlabel)) htransfers
  generalize left.execute instruction = first at hexecutes
  generalize right.execute instruction = second at hexecutes hstep
  cases hexecutes with
  | refused error memory hrefused => exact .fails hstep (.of_memory rfl rfl)
  | astray op other memory hlabel htransfers => exact .fails hstep (.of_memory rfl rfl)
  | done first second hafter hleft hright =>
      have hmarked := htracks.toMarked.retains hafter hleft hright
      rcases hmarked.complete hafter.status hafter.pc instruction with
        ⟨rest, other, hrest, hshort, hcompleted⟩
      exact .executes (.cons hstep hrest) hshort hcompleted

theorem Tracks.step (htracks : Tracks index operand left right)
    (hrunning : left.status = .running) : Echoes index operand right left.step := by
  cases hat : left.program[left.pc]? with
  | none =>
      have hright := htracks.getElem? hrunning
      rw [hat] at hright
      rw [step_of_end hrunning hat]
      exact .fails (step_of_end (htracks.status.trans hrunning) hright)
        (.of_memory rfl htracks.memory)
  | some instruction =>
      rw [step_of_running hrunning hat]
      exact htracks.execute hrunning hat

/-!
# Runs on both programs
-/

theorem Executes.tracks {last : Machine} {executed : List Instruction}
    (hexecutes : Executes left executed last) (htracks : Tracks index operand left right) :
    exists others other, Executes right others other ∧ executed.length ≤ others.length ∧
      others.length ≤ 2 * executed.length ∧ Tracks index operand last other := by
  induction hexecutes generalizing right with
  | nil machine => exact ⟨[], right, .nil right, Nat.le_refl 0, Nat.le_refl 0, htracks⟩
  | cons hstep _hrest ih =>
      have hechoes := htracks.step (running_of_step_ok hstep).left
      rw [hstep] at hechoes
      cases hechoes with
      | executes hfirst hshort hnext =>
          rcases ih hnext with ⟨others, other, hothers, hleast, hmost, hlast⟩
          refine ⟨_, other, hfirst.append hothers, ?_, ?_, hlast⟩
          · simp only [List.length_append, List.length_cons]
            omega
          · simp only [List.length_append, List.length_cons]
            omega

theorem Ends.tracks {last : Machine} {executed : List Instruction}
    {result : Except MachineError Unit} (hends : Ends left executed result last)
    (htracks : Tracks index operand left right) :
    exists others other, Ends right others result other ∧
      others.length ≤ 2 * executed.length ∧ SameOutcome last other := by
  cases hends with
  | stopped hexecutes hstopped =>
      rcases hexecutes.tracks htracks with ⟨others, other, hothers, _hleast, hmost, hlast⟩
      refine ⟨others, other, .stopped hothers ?_, hmost, .of_memory hlast.status hlast.memory⟩
      rw [hlast.status]
      exact hstopped
  | failed hexecutes hrunning hstep =>
      rcases hexecutes.tracks htracks with ⟨others, other, hothers, _hleast, hmost, hlast⟩
      have hechoes := hlast.step hrunning
      rw [hstep] at hechoes
      cases hechoes with
      | fails hfails hsame =>
          exact ⟨others, _, .failed hothers (hlast.status.trans hrunning) hfails, hmost, hsame⟩

theorem exists_tracks_setup (setup : Setup) {program : Program} (hindex : index ≤ program.size)
    (hunsought : ¬ program.Seeks operand.value) :
    exists first other,
      Executes (setup.machine (program.insertMark index operand hindex)) first other ∧
        first.length ≤ 1 ∧ Tracks index operand (setup.machine program) other := by
  have hmarked : Marked index operand (setup.machine program)
      (setup.machine (program.insertMark index operand hindex)) :=
    { unsought := hunsought
      program := ⟨hindex, rfl⟩
      labels := fun _label hother => Program.labels_insertMark operand hindex hother
      host := rfl
      memory := rfl
      calls := rfl }
  have hrunning : (setup.machine (program.insertMark index operand hindex)).status = .running := by
    have hstatus := initialStatus_eq (program.insertMark index operand hindex)
    rw [Program.size_insertMark, if_neg (Nat.succ_ne_zero _)] at hstatus
    exact hstatus
  have hstatus : (setup.machine program).status =
      if program.size = 0 then .finished else .running := initialStatus_eq program
  by_cases hstart : index = 0
  · have hends : (setup.machine program).status =
        if program.size ≤ index then .finished else .running := by
      simp only [hstatus, hstart, Nat.le_zero]
    rcases hmarked.pass hrunning hstart.symm hstart.symm hends with ⟨next, hstep, htracks⟩
    exact ⟨[_], next, .cons hstep (.nil next), Nat.le_refl 1, htracks⟩
  · refine ⟨[], _, .nil _, Nat.zero_le 1, { hmarked with status := ?_, pc := ?_ }⟩
    · rw [hrunning, hstatus, if_neg (by omega)]
    · intro _hrunning
      exact (if_pos (Nat.pos_of_ne_zero hstart)).symm

theorem SameOutcome.finish {left right : Machine} (hsame : SameOutcome left right)
    (first second : Nat) (result : Except MachineError Unit) :
    (finish second (result, right)).1.map (fun _ => ()) =
        (finish first (result, left)).1.map (fun _ => ()) ∧
      SameOutcome (finish first (result, left)).2 (finish second (result, right)).2 := by
  have hflush : right.memory.output.flush = left.memory.output.flush := by rw [hsame.output]
  constructor
  · cases result with
    | error error => rfl
    | ok _ =>
        simp only [Machine.finish, runResult, hflush]
        cases left.memory.output.flush.1 with
        | error fault => rfl
        | ok _ => rfl
  · exact ⟨hsame.status, hsame.stack, hsame.heap, congrArg Prod.snd hflush⟩

section Setups

variable (setup : Setup) {program : Program} (hindex : index ≤ program.size)
  (hunsought : ¬ program.Seeks operand.value)

include hunsought

theorem ends_insertMark {executed : List Instruction} {result : Except MachineError Unit}
    {last : Machine} (hends : Ends (setup.machine program) executed result last) :
    exists others other,
      Ends (setup.machine (program.insertMark index operand hindex)) others result other ∧
        others.length ≤ 2 * executed.length + 1 ∧ SameOutcome last other := by
  rcases exists_tracks_setup setup hindex hunsought with ⟨first, middle, hfirst, hshort, htracks⟩
  rcases hends.tracks htracks with ⟨others, other, hothers, hmost, hsame⟩
  refine ⟨first ++ others, other, hothers.after hfirst, ?_, hsame⟩
  rw [List.length_append]
  omega

theorem executes_insertMark {executed : List Instruction} {last : Machine}
    (hexecutes : Executes (setup.machine program) executed last) :
    exists others other,
      Executes (setup.machine (program.insertMark index operand hindex)) others other ∧
        executed.length ≤ others.length ∧ other.status = last.status := by
  rcases exists_tracks_setup setup hindex hunsought with ⟨first, middle, hfirst, hshort, htracks⟩
  rcases hexecutes.tracks htracks with ⟨others, other, hothers, hleast, _hmost, hlast⟩
  refine ⟨first ++ others, other, hfirst.append hothers, ?_, hlast.status⟩
  rw [List.length_append]
  omega

theorem runsTo_insertMark {report : Except MachineError Unit} {last : Machine}
    (hruns : RunsTo (setup.machine program) report last) :
    exists other, RunsTo (setup.machine (program.insertMark index operand hindex)) report other ∧
      SameOutcome last other := by
  rcases hruns with ⟨executed, ⟨result, stopped⟩, hends, hreport, hlast⟩
  rcases ends_insertMark setup hindex hunsought hends with ⟨others, other, hothers, _hmost, hsame⟩
  rcases hsame.finish (setup.machine program).steps
      (setup.machine (program.insertMark index operand hindex)).steps result with
    ⟨hanswer, houtcome⟩
  rw [hlast]
  exact ⟨_, ⟨others, (result, other), hothers, hreport.trans hanswer.symm, rfl⟩, houtcome⟩

theorem diverges_insertMark (hdiverges : Diverges (setup.machine program)) :
    Diverges (setup.machine (program.insertMark index operand hindex)) := by
  intro count
  rcases hdiverges count with ⟨executed, last, hlength, hexecutes⟩
  rcases executes_insertMark setup hindex hunsought hexecutes with
    ⟨others, other, hothers, hleast, _hstatus⟩
  rcases hothers.take count with ⟨middle, hfirst, _hrest⟩
  rw [hlength] at hleast
  exact ⟨_, middle, List.length_take_of_le hleast, hfirst⟩

theorem runsTo_of_insertMark {report : Except MachineError Unit} {other : Machine}
    (hruns : RunsTo (setup.machine (program.insertMark index operand hindex)) report other) :
    exists last, RunsTo (setup.machine program) report last ∧ SameOutcome last other := by
  have hflag : (setup.machine program).interrupt = false := rfl
  rcases ends_or_diverges hflag with ⟨executed, result, last, hends⟩ | hdiverges
  · have hleft : RunsTo (setup.machine program) _ _ := ⟨executed, (result, last), hends, rfl, rfl⟩
    rcases runsTo_insertMark setup hindex hunsought hleft with ⟨found, hfound, hsame⟩
    rcases runsTo_unique rfl hruns hfound with ⟨hreport, hother⟩
    rw [hreport, hother]
    exact ⟨_, hleft, hsame⟩
  · rcases hruns with ⟨others, ending, hends, _hreport, _hlast⟩
    exact absurd hends ((diverges_insertMark setup hindex hunsought hdiverges).not_ends rfl)

theorem stopped_run_insertMark :
    (setup.machine (program.insertMark index operand hindex)).run.2.status ≠ .running ↔
      (setup.machine program).run.2.status ≠ .running := by
  constructor
  · intro hstopped
    rcases runsTo_of_insertMark setup hindex hunsought (runsTo_run rfl hstopped) with
      ⟨last, hruns, _hsame⟩
    exact hruns.stopped rfl
  · intro hstopped
    rcases runsTo_insertMark setup hindex hunsought (runsTo_run rfl hstopped) with
      ⟨other, hruns, _hsame⟩
    exact hruns.stopped rfl

theorem run_insertMark_of_stopped (hleft : (setup.machine program).run.2.status ≠ .running)
    (hright :
      (setup.machine (program.insertMark index operand hindex)).run.2.status ≠ .running) :
    (setup.machine (program.insertMark index operand hindex)).run.1.map (fun _ => ()) =
        (setup.machine program).run.1.map (fun _ => ()) ∧
      SameOutcome (setup.machine program).run.2
        (setup.machine (program.insertMark index operand hindex)).run.2 := by
  rcases runsTo_insertMark setup hindex hunsought (runsTo_run rfl hleft) with
    ⟨other, hother, hsame⟩
  rcases runsTo_unique rfl (runsTo_run rfl hright) hother with ⟨hreport, hlast⟩
  rw [hlast]
  exact ⟨hreport, hsame⟩

end Setups

theorem position_independence (setup : Setup) {program : Program} {index : Nat}
    (hindex : index ≤ program.size) {operand : Label}
    (hunsought : ¬ program.Seeks operand.value) :
    (forall report last, RunsTo (setup.machine program) report last ->
      exists other,
        RunsTo (setup.machine (program.insertMark index operand hindex)) report other ∧
          SameOutcome last other) ∧
    (forall report other,
      RunsTo (setup.machine (program.insertMark index operand hindex)) report other ->
        exists last, RunsTo (setup.machine program) report last ∧ SameOutcome last other) ∧
    ((setup.machine (program.insertMark index operand hindex)).run.2.status ≠ .running ->
      (setup.machine program).run.2.status ≠ .running ∧
        (setup.machine (program.insertMark index operand hindex)).run.1.map (fun _ => ()) =
          (setup.machine program).run.1.map (fun _ => ()) ∧
        SameOutcome (setup.machine program).run.2
          (setup.machine (program.insertMark index operand hindex)).run.2) ∧
    ((setup.machine program).run.2.status ≠ .running ->
      (setup.machine (program.insertMark index operand hindex)).run.2.status ≠ .running) := by
  refine ⟨?_, ?_, ?_, ?_⟩
  · intro report last hruns
    exact runsTo_insertMark setup hindex hunsought hruns
  · intro report other hruns
    exact runsTo_of_insertMark setup hindex hunsought hruns
  · intro hright
    have hleft := (stopped_run_insertMark setup hindex hunsought).mp hright
    exact ⟨hleft, run_insertMark_of_stopped setup hindex hunsought hleft hright⟩
  · exact (stopped_run_insertMark setup hindex hunsought).mpr

def pushAfterCall : Program :=
  #[.label .call ⟨[true]⟩, .number .push ⟨[false, true]⟩, .plain .halt, .label .mark ⟨[true]⟩,
    .plain .ret]

/-- The new mark stands at the return address of the call. -/
theorem position_independence_pushAfterCall :
    exists (setup : Setup) (last other : Machine),
      ¬ pushAfterCall.Seeks 2 ∧ RunsTo (setup.machine pushAfterCall) (.ok ()) last ∧
        last.status = .halted ∧ last.memory.stack.toList = [1] ∧
        RunsTo (setup.machine (pushAfterCall.insertMark 1 ⟨[true, false]⟩ (by decide))) (.ok ())
          other ∧
        SameOutcome last other := by
  have hindex : 1 ≤ pushAfterCall.size := by decide
  have hunsought : ¬ pushAfterCall.Seeks (Label.value ⟨[true, false]⟩) := by decide
  have hends : Ends
      (Setup.machine ⟨Input.ofString "", Output.empty, ⟨Registry.empty, false⟩, [], []⟩
        pushAfterCall)
      [.label .call ⟨[true]⟩, .plain .ret, .number .push ⟨[false, true]⟩, .plain .halt]
      (.ok ()) _ :=
    .stopped (.cons rfl (.cons rfl (.cons rfl (.cons rfl (.nil _))))) Status.noConfusion
  have hruns : RunsTo _ (.ok ()) _ := runsTo_of_stopped hends rfl
  rcases (position_independence _ hindex hunsought).left _ _ hruns with ⟨other, hother, hsame⟩
  exact ⟨_, _, other, hunsought, hruns, rfl, rfl, hother, hsame⟩

end Machine
end Whitespace
