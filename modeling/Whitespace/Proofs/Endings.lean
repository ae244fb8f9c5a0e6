import Whitespace.Proofs.Runs

/-!
# How runs end

Left to itself a machine executes one instruction after another.  It comes to a
stop, or meets an instruction that fails, or goes on forever.  Which of these
happens does not depend on any bound; bounded runs are measured against it.
-/

namespace Whitespace
namespace Machine

/-!
# Executed instructions
-/

inductive Executes : Machine -> List Instruction -> Machine -> Prop where
  | nil (machine : Machine) : Executes machine [] machine
  | cons {machine next last : Machine} {instruction : Instruction} {rest : List Instruction}
      (hstep : machine.step = (.ok instruction, next)) (hrest : Executes next rest last) :
      Executes machine (instruction :: rest) last

theorem Executes.append {machine middle last : Machine} {first second : List Instruction}
    (hfirst : Executes machine first middle) (hsecond : Executes middle second last) :
    Executes machine (first ++ second) last := by
  induction hfirst with
  | nil machine => exact hsecond
  | cons hstep _hrest ih => exact .cons hstep (ih hsecond)

theorem Executes.exists_middle {machine last : Machine} {first second : List Instruction}
    (hexecutes : Executes machine (first ++ second) last) :
    exists middle, Executes machine first middle ∧ Executes middle second last := by
  induction first generalizing machine with
  | nil => exact ⟨machine, .nil machine, hexecutes⟩
  | cons instruction first ih =>
      cases hexecutes with
      | cons hstep hrest =>
          rcases ih hrest with ⟨middle, hfirst, hsecond⟩
          exact ⟨middle, .cons hstep hfirst, hsecond⟩

theorem Executes.take {machine last : Machine} {executed : List Instruction}
    (hexecutes : Executes machine executed last) (count : Nat) :
    exists middle, Executes machine (executed.take count) middle ∧
      Executes middle (executed.drop count) last := by
  rw [← List.take_append_drop count executed] at hexecutes
  exact hexecutes.exists_middle

theorem Executes.interrupt {machine last : Machine} {executed : List Instruction}
    (hexecutes : Executes machine executed last) : last.interrupt = machine.interrupt := by
  induction hexecutes with
  | nil machine => rfl
  | cons hstep _hrest ih => exact ih.trans (interrupt_of_step_ok hstep)

theorem Executes.steps {machine last : Machine} {executed : List Instruction}
    (hexecutes : Executes machine executed last) :
    last.steps = machine.steps + executed.length := by
  induction hexecutes with
  | nil machine => rfl
  | cons hstep _hrest ih =>
      rw [ih, steps_of_step_ok hstep, List.length_cons, Nat.add_right_comm, Nat.add_assoc]

theorem Executes.last {machine last : Machine} {executed : List Instruction}
    (hexecutes : Executes machine executed last) :
    last.last = executed.getLast?.or machine.last := by
  induction hexecutes with
  | nil machine => rfl
  | @cons machine next last instruction rest hstep _hrest ih =>
      rw [ih, last_of_step_ok hstep, List.getLast?_cons]
      cases rest.getLast? <;> rfl

theorem Executes.advance {machine last : Machine} {executed : List Instruction}
    (hexecutes : Executes machine executed last) (hflag : machine.interrupt = false)
    (more : Nat) :
    Machine.advance (executed.length + more) machine = Machine.advance more last := by
  induction hexecutes with
  | nil machine => rw [List.length_nil, Nat.zero_add]
  | cons hstep _hrest ih =>
      rw [List.length_cons, Nat.add_right_comm, advance_of_step_ok _ hflag hstep]
      exact ih ((interrupt_of_step_ok hstep).trans hflag)

theorem Executes.advance_running {machine last : Machine} {executed : List Instruction}
    {count : Nat} (hexecutes : Executes machine executed last)
    (hflag : machine.interrupt = false) (hcount : count ≤ executed.length)
    (hlast : count = executed.length -> last.status = .running) :
    exists middle, Machine.advance count machine = (.ok (), middle) ∧
      middle.status = .running := by
  have hlength : (executed.take count).length = count := List.length_take_of_le hcount
  rcases hexecutes.take count with ⟨middle, hfirst, hsecond⟩
  refine ⟨middle, ?_, ?_⟩
  · have hadvance := hfirst.advance hflag 0
    rw [hlength] at hadvance
    exact hadvance
  · generalize hrest : executed.drop count = rest at hsecond
    cases hsecond with
    | nil => exact hlast (Nat.le_antisymm hcount (List.drop_eq_nil_iff.mp hrest))
    | cons hstep _hlater => exact (running_of_step_ok hstep).left

/-!
# Endings
-/

/-- Without a bound, the machine executes instructions and then stops, or fails in the step
after them. -/
inductive Ends (machine : Machine) :
    List Instruction -> Except MachineError Unit -> Machine -> Prop where
  | stopped {executed : List Instruction} {last : Machine}
      (hexecutes : Executes machine executed last) (hstopped : last.status ≠ .running) :
      Ends machine executed (.ok ()) last
  | failed {executed : List Instruction} {last next : Machine} {error : MachineError}
      (hexecutes : Executes machine executed last) (hrunning : last.status = .running)
      (hstep : last.step = (.error error, next)) :
      Ends machine executed (.error error) next

/-- Without a bound, the machine executes instructions forever. -/
def Diverges (machine : Machine) : Prop :=
  forall count : Nat, exists (executed : List Instruction) (last : Machine),
    executed.length = count ∧ Executes machine executed last

theorem Ends.after {machine middle last : Machine} {first executed : List Instruction}
    {result : Except MachineError Unit} (hfirst : Executes machine first middle)
    (hends : Ends middle executed result last) : Ends machine (first ++ executed) result last := by
  cases hends with
  | stopped hexecutes hstopped => exact .stopped (hfirst.append hexecutes) hstopped
  | failed hexecutes hrunning hstep => exact .failed (hfirst.append hexecutes) hrunning hstep

theorem Ends.status {machine last : Machine} {executed : List Instruction}
    {result : Except MachineError Unit} (hends : Ends machine executed result last) :
    last.status ≠ .running := by
  cases hends with
  | stopped hexecutes hstopped => exact hstopped
  | failed hexecutes hrunning hstep => exact (stopped_of_step_error hstep).right

theorem Ends.steps {machine last : Machine} {executed : List Instruction}
    {result : Except MachineError Unit} (hends : Ends machine executed result last) :
    last.steps = machine.steps + executed.length := by
  cases hends with
  | stopped hexecutes hstopped => exact hexecutes.steps
  | failed hexecutes hrunning hstep =>
      exact (stopped_of_step_error hstep).left.trans hexecutes.steps

theorem advance_of_stopped {machine last : Machine} {executed : List Instruction} {count : Nat}
    (hends : Ends machine executed (.ok ()) last) (hflag : machine.interrupt = false)
    (hcount : executed.length ≤ count) : advance count machine = (.ok (), last) := by
  cases hends with
  | stopped hexecutes hstopped =>
      rcases Nat.exists_eq_add_of_le hcount with ⟨more, hmore⟩
      rw [hmore, hexecutes.advance hflag more]
      exact advance_of_not_running more hstopped

theorem advance_of_failed {machine last : Machine} {executed : List Instruction}
    {error : MachineError} {count : Nat} (hends : Ends machine executed (.error error) last)
    (hflag : machine.interrupt = false) (hcount : executed.length < count) :
    advance count machine = (.error error, last) := by
  cases hends with
  | failed hexecutes hrunning hstep =>
      rcases Nat.exists_eq_add_of_lt hcount with ⟨more, hmore⟩
      rw [hmore, Nat.add_assoc, hexecutes.advance hflag (more + 1)]
      exact advance_of_step_error more hrunning (hexecutes.interrupt.trans hflag) hstep

theorem advance_of_ends {machine last : Machine} {executed : List Instruction}
    {result : Except MachineError Unit} {count : Nat} (hends : Ends machine executed result last)
    (hflag : machine.interrupt = false) (hcount : executed.length < count) :
    advance count machine = (result, last) := by
  cases result with
  | error error => exact advance_of_failed hends hflag hcount
  | ok _ => exact advance_of_stopped hends hflag (Nat.le_of_lt hcount)

theorem advance_before_stop {machine last : Machine} {executed : List Instruction} {count : Nat}
    (hends : Ends machine executed (.ok ()) last) (hflag : machine.interrupt = false)
    (hbefore : count < executed.length) :
    exists middle, advance count machine = (.ok (), middle) ∧ middle.status = .running := by
  cases hends with
  | stopped hexecutes hstopped =>
      exact hexecutes.advance_running hflag (Nat.le_of_lt hbefore)
        fun hequal => absurd hequal (Nat.ne_of_lt hbefore)

theorem advance_before_failure {machine last : Machine} {executed : List Instruction}
    {error : MachineError} {count : Nat} (hends : Ends machine executed (.error error) last)
    (hflag : machine.interrupt = false) (hbefore : count ≤ executed.length) :
    exists middle, advance count machine = (.ok (), middle) ∧ middle.status = .running := by
  cases hends with
  | failed hexecutes hrunning hstep =>
      exact hexecutes.advance_running hflag hbefore fun _hequal => hrunning

theorem exists_ends_of_advance {count : Nat} {machine : Machine}
    (hflag : machine.interrupt = false)
    (hstopped : (advance count machine).2.status ≠ .running) :
    exists executed, Ends machine executed (advance count machine).1 (advance count machine).2 := by
  induction count generalizing machine with
  | zero => exact ⟨[], .stopped (.nil machine) hstopped⟩
  | succ count ih =>
      cases turn machine with
      | stopped hstart =>
          rw [advance_of_not_running _ hstart]
          exact ⟨[], .stopped (.nil machine) hstart⟩
      | interrupted hrunning hraised =>
          rw [hflag] at hraised
          cases hraised
      | failed error next hrunning hlowered hstep =>
          rw [advance_of_step_error count hrunning hflag hstep]
          exact ⟨[], .failed (.nil machine) hrunning hstep⟩
      | moved instruction next hlowered hstep =>
          rw [advance_of_step_ok count hflag hstep] at hstopped ⊢
          rcases ih ((interrupt_of_step_ok hstep).trans hflag) hstopped with ⟨executed, hends⟩
          exact ⟨[instruction] ++ executed, hends.after (.cons hstep (.nil next))⟩

theorem exists_executes_of_running {count : Nat} {machine : Machine}
    (hflag : machine.interrupt = false)
    (hrunning : (advance count machine).2.status = .running) :
    exists (executed : List Instruction) (last : Machine),
      executed.length = count ∧ Executes machine executed last ∧ last.status = .running := by
  induction count generalizing machine with
  | zero => exact ⟨[], machine, rfl, .nil machine, hrunning⟩
  | succ count ih =>
      cases turn machine with
      | stopped hstart =>
          rw [advance_of_not_running _ hstart] at hrunning
          exact absurd hrunning hstart
      | interrupted _hstart hraised =>
          rw [hflag] at hraised
          cases hraised
      | failed error next hstart hlowered hstep =>
          rw [advance_of_step_error count hstart hflag hstep] at hrunning
          exact absurd hrunning (stopped_of_step_error hstep).right
      | moved instruction next hlowered hstep =>
          rw [advance_of_step_ok count hflag hstep] at hrunning
          rcases ih ((interrupt_of_step_ok hstep).trans hflag) hrunning with
            ⟨executed, last, hlength, hexecutes, hlast⟩
          exact ⟨instruction :: executed, last, congrArg Nat.succ hlength,
            .cons hstep hexecutes, hlast⟩

theorem ends_or_diverges {machine : Machine} (hflag : machine.interrupt = false) :
    (exists executed result last, Ends machine executed result last) ∨ Diverges machine := by
  by_cases hforever : forall count, (advance count machine).2.status = .running
  · refine Or.inr fun count => ?_
    rcases exists_executes_of_running hflag (hforever count) with
      ⟨executed, last, hlength, hexecutes, _hlast⟩
    exact ⟨executed, last, hlength, hexecutes⟩
  · rcases Classical.not_forall.mp hforever with ⟨count, hstopped⟩
    rcases exists_ends_of_advance hflag hstopped with ⟨executed, hends⟩
    exact Or.inl ⟨executed, _, _, hends⟩

theorem Diverges.advance {machine : Machine} (hdiverges : Diverges machine)
    (hflag : machine.interrupt = false) (count : Nat) :
    exists middle, Machine.advance count machine = (.ok (), middle) ∧
      middle.status = .running := by
  rcases hdiverges (count + 1) with ⟨executed, last, hlength, hexecutes⟩
  apply hexecutes.advance_running hflag
  · omega
  · intro hcount
    omega

theorem diverges_of_progress (property : Machine -> Prop) {machine : Machine}
    (hprogress : forall machine, property machine ->
      exists instruction next, machine.step = (.ok instruction, next) ∧ property next)
    (hstart : property machine) : Diverges machine := by
  intro count
  induction count generalizing machine with
  | zero => exact ⟨[], machine, rfl, .nil machine⟩
  | succ count ih =>
      rcases hprogress machine hstart with ⟨instruction, next, hstep, hnext⟩
      rcases ih hnext with ⟨executed, last, hlength, hexecutes⟩
      exact ⟨instruction :: executed, last, congrArg Nat.succ hlength, .cons hstep hexecutes⟩

theorem Diverges.not_ends {machine last : Machine} {executed : List Instruction}
    {result : Except MachineError Unit} (hdiverges : Diverges machine)
    (hflag : machine.interrupt = false) : ¬ Ends machine executed result last := by
  intro hends
  rcases hdiverges.advance hflag (executed.length + 1) with ⟨middle, hadvance, hrunning⟩
  rw [advance_of_ends hends hflag (Nat.lt_succ_self _)] at hadvance
  injection hadvance with _hresult hlast
  rw [← hlast] at hrunning
  exact hends.status hrunning

/-!
# Reports

At the end of a run output is flushed, and a refused flush is reported unless a
step has failed before.
-/

/-- Without a bound, a run reports that it returned or why it failed, and leaves a machine. -/
def RunsTo (machine : Machine) (report : Except MachineError Unit) (last : Machine) : Prop :=
  exists (executed : List Instruction) (ending : Except MachineError Unit × Machine),
    Ends machine executed ending.1 ending.2 ∧
      report = (finish machine.steps ending).1.map (fun _ => ()) ∧
        last = (finish machine.steps ending).2

theorem run?_of_ends {machine last : Machine} {executed : List Instruction}
    {result : Except MachineError Unit} (hends : Ends machine executed result last)
    (hflag : machine.interrupt = false) :
    machine.run? = some (finish machine.steps (result, last)) := by
  have hadvance := advance_of_ends hends hflag (Nat.lt_succ_self _)
  have hstopped := hends.status
  rw [run?, advanceFully_of_advance (by rw [hadvance]; exact hstopped), hadvance]
  rfl

theorem exists_ends_of_run? {machine : Machine} {outcome : Except MachineError Nat × Machine}
    (hflag : machine.interrupt = false) (hrun : machine.run? = some outcome) :
    exists executed ending, Ends machine executed ending.1 ending.2 ∧
      outcome = finish machine.steps ending := by
  rcases run_cases machine with ⟨count, hstopped, hfinished⟩ | hendless
  · rw [hrun] at hfinished
    cases hfinished
    rcases exists_ends_of_advance hflag hstopped with ⟨executed, hends⟩
    exact ⟨executed, _, hends, rfl⟩
  · rw [hrun] at hendless
    cases hendless

theorem runsTo_iff {machine last : Machine} {report : Except MachineError Unit}
    (hflag : machine.interrupt = false) :
    RunsTo machine report last ↔
      exists result, machine.run? = some (result, last) ∧ report = result.map fun _ => () := by
  constructor
  · intro hruns
    rcases hruns with ⟨executed, ending, hends, hreport, hlast⟩
    refine ⟨(finish machine.steps ending).1, ?_, hreport⟩
    rw [run?_of_ends hends hflag, hlast]
  · intro hreturns
    rcases hreturns with ⟨result, hrun, hreport⟩
    rcases exists_ends_of_run? hflag hrun with ⟨executed, ending, hends, houtcome⟩
    refine ⟨executed, ending, hends, ?_, ?_⟩
    · rw [hreport, ← houtcome]
    · rw [← houtcome]

theorem runsTo_unique {machine last other : Machine} {report answer : Except MachineError Unit}
    (hflag : machine.interrupt = false) (hruns : RunsTo machine report last)
    (hother : RunsTo machine answer other) : report = answer ∧ last = other := by
  rcases (runsTo_iff hflag).mp hruns with ⟨result, hrun, hreport⟩
  rcases (runsTo_iff hflag).mp hother with ⟨outcome, hagain, hanswer⟩
  rw [hrun] at hagain
  cases hagain
  exact ⟨hreport.trans hanswer.symm, rfl⟩

theorem run?_eq_some_iff {machine : Machine} :
    machine.run? = some machine.run ↔ machine.run.2.status ≠ .running := by
  rcases run_cases machine with ⟨count, hstopped, hrun⟩ | hendless
  · have hreturned : machine.run = finish machine.steps (advance count machine) :=
      run_of_advance hstopped
    rw [hrun, hreturned]
    exact iff_of_true rfl hstopped
  · rw [run, hendless]
    constructor
    · intro hreturned
      cases hreturned
    · intro hstopped
      rw [run?, @advanceFully_of_advance 0 machine hstopped] at hendless
      cases hendless

theorem runsTo_run {machine : Machine} (hflag : machine.interrupt = false)
    (hstopped : machine.run.2.status ≠ .running) :
    RunsTo machine (machine.run.1.map fun _ => ()) machine.run.2 :=
  (runsTo_iff hflag).mpr ⟨machine.run.1, run?_eq_some_iff.mpr hstopped, rfl⟩

theorem RunsTo.stopped {machine last : Machine} {report : Except MachineError Unit}
    (hruns : RunsTo machine report last) (hflag : machine.interrupt = false) :
    machine.run.2.status ≠ .running := by
  rcases (runsTo_iff hflag).mp hruns with ⟨result, hrun, _hreport⟩
  have hreturned : machine.run? = some machine.run := by
    rw [run, hrun, Option.getD_some]
  exact run?_eq_some_iff.mp hreturned

theorem runsTo_of_stopped {machine last : Machine} {executed : List Instruction}
    (hends : Ends machine executed (.ok ()) last)
    (haccepted : last.memory.output.flush.1 = .ok ()) :
    RunsTo machine (.ok ()) last.flushed := by
  refine ⟨executed, (.ok (), last), hends, ?_, rfl⟩
  rw [finish, runResult_of_accepted haccepted]
  rfl

theorem run_of_stopped {machine last : Machine} {executed : List Instruction}
    (hends : Ends machine executed (.ok ()) last) (hflag : machine.interrupt = false)
    (haccepted : last.memory.output.flush.1 = .ok ()) :
    machine.run = (.ok executed.length, last.flushed) := by
  rw [run, run?_of_ends hends hflag]
  simp only [Option.getD_some, finish, runResult_of_accepted haccepted, hends.steps,
    Nat.add_sub_cancel_left]

end Machine
end Whitespace
