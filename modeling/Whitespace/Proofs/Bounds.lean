import Whitespace.Proofs.Endings
import Whitespace.Snippet

/-!
# Snippets with a bound

A bound on the steps of a snippet either makes no difference or makes the call
fail.  A program that stops may use up the bound exactly; a program that fails
has to do so before the bound is used up, since the step that fails is not
counted and would be the next one.
-/

namespace Whitespace
namespace Snippet

open Whitespace.Machine

def bounded (snippet : Snippet) (limit : Nat) : Snippet :=
  { snippet with maxSteps := some limit }

def unbounded (snippet : Snippet) : Snippet :=
  { snippet with maxSteps := none }

/-- A call has an answer: its final state and output, of which the caller gets the part asked
for, or an error. -/
def Answers (snippet : Snippet) (arguments : List Int)
    (answer : Except MachineError (Snapshot × String)) : Prop :=
  snippet.run arguments = answer ∧
    snippet.call arguments =
      answer.map fun final => Outcome.ofSnapshot final.1 snippet.returns

theorem answers_of_run {snippet : Snippet} {arguments : List Int}
    {answer : Except MachineError (Snapshot × String)}
    (hrun : snippet.run arguments = answer) : snippet.Answers arguments answer := by
  refine ⟨hrun, ?_⟩
  unfold call
  rw [hrun]
  cases answer with
  | error error => rfl
  | ok final => rfl

/-!
# Runs of a fresh machine

The output of a snippet is kept in memory: it is never refused a flush, and shows
no trace of one.
-/

theorem finish_of_advance {snippet : Snippet} {arguments : List Int} {count : Nat}
    {last : Machine} {result : Except MachineError Unit}
    (hadvance : advance count (snippet.machine arguments) = (result, last)) :
    Machine.finish 0 (result, last) = (result.map fun _ => last.steps, last) := by
  have hdestination := destination_advance count (snippet.machine arguments)
  rw [hadvance] at hdestination
  apply finish_of_memory
  rw [hdestination]
  exact Destination.isMemory_steady

theorem runLimited_of_advance {snippet : Snippet} {arguments : List Int} {limit : Nat}
    {last : Machine} {result : Except MachineError Unit} (hlimit : limit ≤ wordMax)
    (hadvance : advance limit (snippet.machine arguments) = (result, last)) :
    (snippet.machine arguments).runLimited limit = (result.map fun _ => last.steps, last) := by
  have hfresh : (snippet.machine arguments).steps = 0 := rfl
  rw [runLimited_of_room (by omega), hadvance, hfresh]
  exact finish_of_advance hadvance

theorem run_of_ends {snippet : Snippet} {arguments : List Int} {executed : List Instruction}
    {last : Machine} {result : Except MachineError Unit}
    (hends : Ends (snippet.machine arguments) executed result last) :
    (snippet.machine arguments).run = (result.map fun _ => last.steps, last) := by
  have hadvance := advance_of_ends hends rfl (Nat.lt_succ_self _)
  rw [Machine.run, run?_of_ends hends rfl]
  exact finish_of_advance hadvance

/-!
# Calls

Both kinds of calls start the same machine.  A call without a bound does not ask
whether the machine is still running.
-/

theorem run_of_finish_ok {snippet : Snippet} {arguments : List Int} {last : Machine}
    (hfinish : snippet.finish (snippet.machine arguments) = (.ok (), last)) :
    snippet.run arguments = .ok (last.snapshot, last.memory.output.text) := by
  rw [run, hfinish]

theorem run_of_finish_error {snippet : Snippet} {arguments : List Int} {last : Machine}
    {error : MachineError}
    (hfinish : snippet.finish (snippet.machine arguments) = (.error error, last)) :
    snippet.run arguments = .error error := by
  rw [run, hfinish]

theorem unbounded_of_stop {snippet : Snippet} {arguments : List Int}
    {executed : List Instruction} {last : Machine}
    (hends : Ends (snippet.machine arguments) executed (.ok ()) last) :
    snippet.unbounded.Answers arguments (.ok (last.snapshot, last.memory.output.text)) := by
  have hrun : (snippet.machine arguments).run = (.ok last.steps, last) := run_of_ends hends
  have hfinish : snippet.unbounded.finish (snippet.machine arguments) = (.ok (), last) := by
    simp only [finish, unbounded, hrun]
  exact answers_of_run (run_of_finish_ok hfinish)

theorem unbounded_of_failure {snippet : Snippet} {arguments : List Int}
    {executed : List Instruction} {last : Machine} {error : MachineError}
    (hends : Ends (snippet.machine arguments) executed (.error error) last) :
    snippet.unbounded.Answers arguments (.error error) := by
  have hrun : (snippet.machine arguments).run = (.error error, last) := run_of_ends hends
  have hfinish : snippet.unbounded.finish (snippet.machine arguments) = (.error error, last) := by
    simp only [finish, unbounded, hrun]
  exact answers_of_run (run_of_finish_error hfinish)

theorem answers_bounded_of_stopped {snippet : Snippet} {arguments : List Int} {limit : Nat}
    {last : Machine} (hlimit : limit ≤ wordMax)
    (hadvance : advance limit (snippet.machine arguments) = (.ok (), last))
    (hstopped : last.status ≠ .running) :
    (snippet.bounded limit).Answers arguments
      (.ok (last.snapshot, last.memory.output.text)) := by
  have hrun : (snippet.machine arguments).runLimited limit = (.ok last.steps, last) :=
    runLimited_of_advance hlimit hadvance
  have hfinish : (snippet.bounded limit).finish (snippet.machine arguments) =
      (.ok (), last) := by
    simp only [finish, bounded, hrun, if_neg hstopped]
  exact answers_of_run (run_of_finish_ok hfinish)

theorem answers_bounded_of_running {snippet : Snippet} {arguments : List Int} {limit : Nat}
    {last : Machine} (hlimit : limit ≤ wordMax)
    (hadvance : advance limit (snippet.machine arguments) = (.ok (), last))
    (hrunning : last.status = .running) :
    (snippet.bounded limit).Answers arguments (.error (.stepLimit limit)) := by
  have hrun : (snippet.machine arguments).runLimited limit = (.ok last.steps, last) :=
    runLimited_of_advance hlimit hadvance
  have hfinish : (snippet.bounded limit).finish (snippet.machine arguments) =
      (.error (.stepLimit limit), last) := by
    simp only [finish, bounded, hrun, if_pos hrunning]
  exact answers_of_run (run_of_finish_error hfinish)

theorem answers_bounded_of_error {snippet : Snippet} {arguments : List Int} {limit : Nat}
    {last : Machine} {error : MachineError} (hlimit : limit ≤ wordMax)
    (hadvance : advance limit (snippet.machine arguments) = (.error error, last)) :
    (snippet.bounded limit).Answers arguments (.error error) := by
  have hrun : (snippet.machine arguments).runLimited limit = (.error error, last) :=
    runLimited_of_advance hlimit hadvance
  have hfinish : (snippet.bounded limit).finish (snippet.machine arguments) =
      (.error error, last) := by
    simp only [finish, bounded, hrun]
  exact answers_of_run (run_of_finish_error hfinish)

/-!
# With and without a bound

The three ways in which a run can go, each on both sides of its boundary.
-/

theorem bounded_of_stop {snippet : Snippet} {arguments : List Int} {limit : Nat}
    {executed : List Instruction} {last : Machine} (hlimit : limit ≤ wordMax)
    (hends : Ends (snippet.machine arguments) executed (.ok ()) last)
    (hwithin : executed.length ≤ limit) :
    (snippet.bounded limit).Answers arguments
      (.ok (last.snapshot, last.memory.output.text)) := by
  have hadvance := advance_of_stopped hends rfl hwithin
  exact answers_bounded_of_stopped hlimit hadvance hends.status

theorem bounded_before_stop {snippet : Snippet} {arguments : List Int} {limit : Nat}
    {executed : List Instruction} {last : Machine} (hlimit : limit ≤ wordMax)
    (hends : Ends (snippet.machine arguments) executed (.ok ()) last)
    (hbefore : limit < executed.length) :
    (snippet.bounded limit).Answers arguments (.error (.stepLimit limit)) := by
  rcases advance_before_stop hends rfl hbefore with ⟨middle, hadvance, hrunning⟩
  exact answers_bounded_of_running hlimit hadvance hrunning

theorem bounded_of_failure {snippet : Snippet} {arguments : List Int} {limit : Nat}
    {executed : List Instruction} {error : MachineError} {last : Machine}
    (hlimit : limit ≤ wordMax)
    (hends : Ends (snippet.machine arguments) executed (.error error) last)
    (hwithin : executed.length < limit) :
    (snippet.bounded limit).Answers arguments (.error error) := by
  have hadvance := advance_of_failed hends rfl hwithin
  exact answers_bounded_of_error hlimit hadvance

theorem bounded_before_failure {snippet : Snippet} {arguments : List Int} {limit : Nat}
    {executed : List Instruction} {error : MachineError} {last : Machine}
    (hlimit : limit ≤ wordMax)
    (hends : Ends (snippet.machine arguments) executed (.error error) last)
    (hbefore : limit ≤ executed.length) :
    (snippet.bounded limit).Answers arguments (.error (.stepLimit limit)) := by
  rcases advance_before_failure hends rfl hbefore with ⟨middle, hadvance, hrunning⟩
  exact answers_bounded_of_running hlimit hadvance hrunning

theorem bounded_of_divergence {snippet : Snippet} {arguments : List Int} {limit : Nat}
    (hlimit : limit ≤ wordMax) (hdiverges : Diverges (snippet.machine arguments)) :
    (snippet.bounded limit).Answers arguments (.error (.stepLimit limit)) := by
  rcases hdiverges.advance rfl limit with ⟨middle, hadvance, hrunning⟩
  exact answers_bounded_of_running hlimit hadvance hrunning

theorem ends_of_run_bounded {snippet : Snippet} {arguments : List Int} {limit : Nat}
    {final : Snapshot × String} (hlimit : limit ≤ wordMax)
    (hrun : (snippet.bounded limit).run arguments = .ok final) :
    exists executed last, Ends (snippet.machine arguments) executed (.ok ()) last ∧
      executed.length ≤ limit ∧ final = (last.snapshot, last.memory.output.text) := by
  have hreturns : forall error : MachineError,
      ¬ (snippet.bounded limit).Answers arguments (.error error) := by
    intro error hanswers
    rw [hanswers.left] at hrun
    cases hrun
  have hflag : (snippet.machine arguments).interrupt = false := rfl
  rcases ends_or_diverges hflag with ⟨executed, result, last, hends⟩ | hdiverges
  · cases result with
    | error error =>
        rcases Nat.lt_or_ge executed.length limit with hwithin | hbefore
        · exact absurd (bounded_of_failure hlimit hends hwithin) (hreturns _)
        · exact absurd (bounded_before_failure hlimit hends hbefore) (hreturns _)
    | ok _ =>
        rcases Nat.lt_or_ge limit executed.length with hbefore | hwithin
        · exact absurd (bounded_before_stop hlimit hends hbefore) (hreturns _)
        · rw [(bounded_of_stop hlimit hends hwithin).left] at hrun
          injection hrun with hfinal
          exact ⟨executed, last, hends, hwithin, hfinal.symm⟩
  · exact absurd (bounded_of_divergence hlimit hdiverges) (hreturns _)

theorem step_bound (snippet : Snippet) (arguments : List Int) (limit : Nat)
    (hlimit : limit ≤ wordMax) :
    (forall (executed : List Instruction) (last : Machine),
      Ends (snippet.machine arguments) executed (.ok ()) last ->
      snippet.unbounded.Answers arguments (.ok (last.snapshot, last.memory.output.text)) ∧
      (executed.length ≤ limit ->
        (snippet.bounded limit).Answers arguments
          (.ok (last.snapshot, last.memory.output.text))) ∧
      (limit < executed.length ->
        (snippet.bounded limit).Answers arguments (.error (.stepLimit limit)))) ∧
    (forall (executed : List Instruction) (error : MachineError) (last : Machine),
      Ends (snippet.machine arguments) executed (.error error) last ->
      snippet.unbounded.Answers arguments (.error error) ∧
      (executed.length < limit -> (snippet.bounded limit).Answers arguments (.error error)) ∧
      (limit ≤ executed.length ->
        (snippet.bounded limit).Answers arguments (.error (.stepLimit limit)))) ∧
    (Diverges (snippet.machine arguments) ->
      (snippet.bounded limit).Answers arguments (.error (.stepLimit limit))) ∧
    (forall final : Snapshot × String, (snippet.bounded limit).run arguments = .ok final ->
      snippet.unbounded.run arguments = .ok final ∧
      exists executed last, Ends (snippet.machine arguments) executed (.ok ()) last ∧
        executed.length ≤ limit ∧ final = (last.snapshot, last.memory.output.text)) := by
  refine ⟨?_, ?_, bounded_of_divergence hlimit, ?_⟩
  · intro executed last hends
    exact ⟨unbounded_of_stop hends, bounded_of_stop hlimit hends,
      bounded_before_stop hlimit hends⟩
  · intro executed error last hends
    exact ⟨unbounded_of_failure hends, bounded_of_failure hlimit hends,
      bounded_before_failure hlimit hends⟩
  · intro final hrun
    rcases ends_of_run_bounded hlimit hrun with ⟨executed, last, hends, hwithin, hfinal⟩
    refine ⟨?_, executed, last, hends, hwithin, hfinal⟩
    rw [hfinal]
    exact (unbounded_of_stop hends).left

def twoPushes : Snippet :=
  { program := #[.number .push ⟨[false, true]⟩, .number .push ⟨[false, true, false]⟩] }

def lonelyAddition : Snippet :=
  { program := #[.number .push ⟨[false, true]⟩, .plain (.arithmetic .add)] }

def endlessJump : Snippet :=
  { program := #[.label .mark ⟨[false]⟩, .label .jump ⟨[false]⟩] }

theorem diverges_endlessJump : Diverges (endlessJump.machine []) := by
  apply diverges_of_progress fun machine =>
    machine.program = endlessJump.program ∧ machine.labels[0]? = some 0 ∧
      machine.status = .running ∧ (machine.pc = 0 ∨ machine.pc = 1)
  · rintro machine ⟨hprogram, hlabels, hrunning, hpc⟩
    have hinside : 1 < machine.program.size := by
      rw [hprogram]
      decide
    rcases hpc with hmark | hjump
    · have hat : machine.program[machine.pc]? = some (.label .mark ⟨[false]⟩) := by
        rw [hprogram, hmark]
        rfl
      have hnext : machine.pc + 1 = 1 := congrArg Nat.succ hmark
      refine ⟨_, _, step_mark hrunning hat, hprogram, hlabels, ?_, Or.inr hnext⟩
      exact running_complete hrunning (Nat.lt_of_le_of_lt (Nat.le_of_eq hnext) hinside)
    · have hat : machine.program[machine.pc]? = some (.label .jump ⟨[false]⟩) := by
        rw [hprogram, hjump]
        rfl
      refine ⟨_, _, step_jump hrunning hat hlabels, hprogram, hlabels, ?_, Or.inr rfl⟩
      exact running_complete hrunning hinside
  · exact ⟨rfl, rfl, rfl, Or.inl rfl⟩

theorem step_bound_boundaries :
    50 ≤ wordMax ∧
    (twoPushes.bounded 2).Answers [] (.ok (⟨[1, 2], []⟩, "")) ∧
    (twoPushes.bounded 1).Answers [] (.error (.stepLimit 1)) ∧
    (lonelyAddition.bounded 2).Answers [] (.error (.stackUnderflow 1 0)) ∧
    (lonelyAddition.bounded 1).Answers [] (.error (.stepLimit 1)) ∧
    (endlessJump.bounded 50).Answers [] (.error (.stepLimit 50)) := by
  have hstops : Ends (twoPushes.machine []) twoPushes.program.toList (.ok ()) _ :=
    .stopped (.cons rfl (.cons rfl (.nil _))) Status.noConfusion
  have hfails : Ends (lonelyAddition.machine []) [.number .push ⟨[false, true]⟩]
      (.error (.stackUnderflow 1 0)) _ :=
    .failed (.cons rfl (.nil _)) rfl rfl
  refine ⟨by decide, ?_, ?_, ?_, ?_, ?_⟩
  · exact ((step_bound twoPushes [] 2 (by decide)).left _ _ hstops).right.left (by decide)
  · exact ((step_bound twoPushes [] 1 (by decide)).left _ _ hstops).right.right (by decide)
  · exact ((step_bound lonelyAddition [] 2 (by decide)).right.left _ _ _ hfails).right.left
      (by decide)
  · exact ((step_bound lonelyAddition [] 1 (by decide)).right.left _ _ _ hfails).right.right
      (by decide)
  · exact (step_bound endlessJump [] 50 (by decide)).right.right.left diverges_endlessJump

end Snippet
end Whitespace
