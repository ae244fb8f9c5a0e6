import Mathlib.Logic.Function.Iterate
import Mathlib.Order.Bounds.Defs
import Whitespace.Debugger
import Whitespace.Proofs.Runs

/-!
# Debugging

A running debugger makes the steps of its machine in batches.  Where it comes to
rest is decided by the machine and the breakpoints alone, however the steps fall
into batches.  A restart forgets everything but the breakpoints.
-/

namespace Whitespace
namespace Debugger

/-!
# One pass of the loop

A running debugger finds its machine stopped, or stands at a breakpoint, or makes
a step.
-/

theorem step_of_ok {debugger : Debugger} {next : Machine} {instruction : Instruction}
    (hstep : debugger.machine.step = (.ok instruction, next)) :
    debugger.step =
      { debugger with
        machine := next
        notice := .stepped debugger.machine.pc instruction } := by
  rw [step, if_pos (Machine.running_of_step_ok hstep).left, hstep]

theorem step_of_error {debugger : Debugger} {next : Machine} {error : MachineError}
    (hrunning : debugger.machine.status = .running)
    (hstep : debugger.machine.step = (.error error, next)) :
    debugger.step =
      { debugger with machine := next, notice := .failed error, running := false } := by
  rw [step, if_pos hrunning, hstep]

theorem step_of_stopped {debugger : Debugger} (hstopped : debugger.machine.status ≠ .running) :
    debugger.step =
      { debugger with notice := .stopped debugger.machine.status, running := false } := by
  rw [step, if_neg hstopped]

theorem ticks_of_paused (count : Nat) {debugger : Debugger} (hpaused : debugger.running = false) :
    debugger.ticks count = debugger := by
  cases count with
  | zero => rfl
  | succ count => rw [ticks, if_pos hpaused]

theorem ticks_of_stopped (count : Nat) {debugger : Debugger} (hgoing : debugger.running = true)
    (hstopped : debugger.machine.status ≠ .running) :
    debugger.ticks (count + 1) =
      { debugger with
        running := false
        notice := .ended debugger.machine.status debugger.machine.steps } := by
  rw [ticks, if_neg (by rw [hgoing]; decide), if_pos hstopped]

theorem ticks_of_reached (count : Nat) {debugger : Debugger} (hgoing : debugger.running = true)
    (hrunning : debugger.machine.status = .running)
    (hbreak : debugger.breakpoints.contains debugger.machine.pc = true)
    (hresume : debugger.resumeAt ≠ some debugger.machine.pc) :
    debugger.ticks (count + 1) =
      { debugger with
        resumeAt := none
        running := false
        notice := .reached debugger.machine.pc } := by
  rw [ticks, if_neg (by rw [hgoing]; decide), if_neg (by simp [hrunning])]
  simp only [hbreak, hresume, not_false_eq_true, and_self, if_true]

theorem ticks_of_passed (count : Nat) {debugger : Debugger} (hgoing : debugger.running = true)
    (hrunning : debugger.machine.status = .running)
    (hpass : debugger.breakpoints.contains debugger.machine.pc = true ->
      debugger.resumeAt = some debugger.machine.pc) :
    debugger.ticks (count + 1) = ({ debugger with resumeAt := none }.step).ticks count := by
  rw [ticks, if_neg (by rw [hgoing]; decide), if_neg (by simp [hrunning])]
  apply if_neg
  rintro ⟨hbreak, hresume⟩
  exact hresume (hpass hbreak)

inductive Turn (debugger : Debugger) : Prop where
  | paused (hpaused : debugger.running = false)
  | stopped (hgoing : debugger.running = true)
      (hstopped : debugger.machine.status ≠ .running)
  | reached (hgoing : debugger.running = true) (hrunning : debugger.machine.status = .running)
      (hbreak : debugger.breakpoints.contains debugger.machine.pc = true)
      (hresume : debugger.resumeAt ≠ some debugger.machine.pc)
  | passed (hgoing : debugger.running = true) (hrunning : debugger.machine.status = .running)
      (hpass : debugger.breakpoints.contains debugger.machine.pc = true ->
        debugger.resumeAt = some debugger.machine.pc)

theorem turn (debugger : Debugger) : Turn debugger := by
  cases hgoing : debugger.running with
  | false => exact .paused hgoing
  | true =>
      by_cases hrunning : debugger.machine.status = .running
      · by_cases hpass : debugger.breakpoints.contains debugger.machine.pc = true ->
            debugger.resumeAt = some debugger.machine.pc
        · exact .passed hgoing hrunning hpass
        · rcases Classical.not_imp.mp hpass with ⟨hbreak, hresume⟩
          exact .reached hgoing hrunning hbreak hresume
      · exact .stopped hgoing hrunning

/-!
# Resting places

A run comes to rest where its machine has stopped, and at every breakpoint but
the one it starts from.
-/

/-- After this many steps a run that starts here comes to rest. -/
def Rests (debugger : Debugger) (count : Nat) : Prop :=
  (debugger.machine.after count).status ≠ .running ∨
    1 ≤ count ∧ debugger.breakpoints.contains (debugger.machine.after count).pc = true

/-- Since `origin` started to run it has become `debugger`, by so many steps. -/
structure Follows (origin : Debugger) (made : Nat) (debugger : Debugger) : Prop where
  machine : debugger.machine = origin.machine.after made
  breakpoints : debugger.breakpoints = origin.breakpoints
  passed : forall earlier, earlier < made -> ¬ origin.Rests earlier
  succeeded : debugger.running = true -> forall earlier, earlier < made ->
    exists instruction, (origin.machine.after earlier).step.1 = .ok instruction
  resume : debugger.running = true ->
    debugger.resumeAt = if made = 0 then some origin.machine.pc else none
  rests : debugger.running = false -> origin.Rests made

theorem follows_run (debugger : Debugger) : Follows debugger 0 debugger.run where
  machine := rfl
  breakpoints := rfl
  passed := by
    intro earlier hearlier
    cases hearlier
  succeeded := by
    intro _hgoing earlier hearlier
    cases hearlier
  resume := fun _hgoing => rfl
  rests := by
    intro hpaused
    cases hpaused

theorem Follows.stop {origin debugger stopped : Debugger} {made : Nat}
    (hfollows : Follows origin made debugger) (hmachine : stopped.machine = debugger.machine)
    (hbreakpoints : stopped.breakpoints = debugger.breakpoints)
    (hpaused : stopped.running = false) (hrests : origin.Rests made) :
    Follows origin made stopped where
  machine := hmachine.trans hfollows.machine
  breakpoints := hbreakpoints.trans hfollows.breakpoints
  passed := hfollows.passed
  succeeded := by
    intro hgoing
    rw [hpaused] at hgoing
    cases hgoing
  resume := by
    intro hgoing
    rw [hpaused] at hgoing
    cases hgoing
  rests := fun _hpaused => hrests

theorem Follows.move {origin debugger : Debugger} {made : Nat}
    (hfollows : Follows origin made debugger) (hgoing : debugger.running = true)
    (hpass : ¬ origin.Rests made) :
    Follows origin (made + 1) ({ debugger with resumeAt := none }.step) := by
  have hmachine := hfollows.machine
  have hpassed := Nat.forall_lt_succ_right.mpr ⟨hfollows.passed, hpass⟩
  have hrunning : debugger.machine.status = .running := by
    rw [hmachine]
    exact Classical.not_not.mp fun hstopped => hpass (Or.inl hstopped)
  cases hstep : debugger.machine.step with
  | mk result next =>
      have hafter : origin.machine.after (made + 1) = next := by
        show (origin.machine.after made).step.2 = next
        rw [← hmachine, hstep]
      cases result with
      | error error =>
          rw [@step_of_error { debugger with resumeAt := none } next error hrunning hstep]
          refine ⟨hafter.symm, hfollows.breakpoints, hpassed, Bool.noConfusion,
            Bool.noConfusion, ?_⟩
          intro _hpaused
          refine Or.inl ?_
          rw [hafter]
          exact (Machine.stopped_of_step_error hstep).right
      | ok instruction =>
          rw [@step_of_ok { debugger with resumeAt := none } next instruction hstep]
          refine ⟨hafter.symm, hfollows.breakpoints, hpassed, ?_, fun _hgoing => rfl, ?_⟩
          · intro _hgoing
            refine Nat.forall_lt_succ_right.mpr ⟨hfollows.succeeded hgoing, instruction, ?_⟩
            rw [← hmachine, hstep]
          · intro hpaused
            rw [hgoing] at hpaused
            cases hpaused

theorem Follows.pass {origin debugger : Debugger} {made : Nat}
    (hfollows : Follows origin made debugger) (count : Nat) :
    (debugger.ticks (count + 1)).running = false ∧
        Follows origin made (debugger.ticks (count + 1)) ∨
      exists next, debugger.ticks (count + 1) = next.ticks count ∧
        Follows origin (made + 1) next := by
  have hmachine := hfollows.machine
  cases turn debugger with
  | paused hpaused =>
      rw [ticks_of_paused _ hpaused]
      exact Or.inl ⟨hpaused, hfollows⟩
  | stopped hgoing hstopped =>
      have hrests : origin.Rests made := by
        refine Or.inl ?_
        rw [← hmachine]
        exact hstopped
      rw [ticks_of_stopped count hgoing hstopped]
      exact Or.inl ⟨rfl, hfollows.stop rfl rfl rfl hrests⟩
  | reached hgoing hrunning hbreak hresume =>
      -- The marker of the start is gone, so at least one step was made.
      have hmade : 1 ≤ made := by
        apply Nat.one_le_iff_ne_zero.mpr
        intro hzero
        have hmarker := hfollows.resume hgoing
        rw [hzero] at hmachine hmarker
        rw [hmarker, hmachine] at hresume
        exact hresume rfl
      have hrests : origin.Rests made := by
        refine Or.inr ⟨hmade, ?_⟩
        rw [← hmachine, ← hfollows.breakpoints]
        exact hbreak
      rw [ticks_of_reached count hgoing hrunning hbreak hresume]
      exact Or.inl ⟨rfl, hfollows.stop rfl rfl rfl hrests⟩
  | passed hgoing hrunning hpass =>
      refine Or.inr ⟨_, ticks_of_passed count hgoing hrunning hpass, hfollows.move hgoing ?_⟩
      rintro (hstopped | ⟨hmade, hbreak⟩)
      · rw [← hmachine] at hstopped
        exact hstopped hrunning
      · have hmarker := hfollows.resume hgoing
        rw [if_neg (Nat.one_le_iff_ne_zero.mp hmade)] at hmarker
        rw [← hmachine, ← hfollows.breakpoints] at hbreak
        rw [hpass hbreak] at hmarker
        cases hmarker

theorem Follows.ticks {origin debugger : Debugger} {made : Nat}
    (hfollows : Follows origin made debugger) (count : Nat) :
    exists more, more ≤ count ∧ Follows origin (made + more) (debugger.ticks count) ∧
      ((debugger.ticks count).running = true -> more = count) := by
  induction count generalizing debugger made with
  | zero => exact ⟨0, Nat.le_refl 0, hfollows, fun _hgoing => rfl⟩
  | succ count ih =>
      rcases hfollows.pass count with ⟨hpaused, hstopped⟩ | ⟨next, hnext, hmoved⟩
      · refine ⟨0, Nat.zero_le _, hstopped, ?_⟩
        intro hgoing
        rw [hpaused] at hgoing
        cases hgoing
      · rcases ih hmoved with ⟨more, hmore, hlater, hused⟩
        rw [hnext]
        refine ⟨more + 1, Nat.succ_le_succ hmore, ?_, ?_⟩
        · rw [Nat.add_comm more 1, ← Nat.add_assoc]
          exact hlater
        · intro hgoing
          rw [hused hgoing]

/-!
# Batches

A pass of the loop does not know how many follow it in its batch, so batches join
into one.
-/

theorem ticks_add (first second : Nat) (debugger : Debugger) :
    debugger.ticks (first + second) = (debugger.ticks first).ticks second := by
  induction first generalizing debugger with
  | zero =>
      rw [Nat.zero_add]
      rfl
  | succ first ih =>
      rw [Nat.add_right_comm]
      cases turn debugger with
      | paused hpaused =>
          rw [ticks_of_paused _ hpaused, ticks_of_paused _ hpaused, ticks_of_paused _ hpaused]
      | stopped hgoing hstopped =>
          rw [ticks_of_stopped _ hgoing hstopped, ticks_of_stopped _ hgoing hstopped]
          exact (ticks_of_paused second rfl).symm
      | reached hgoing hrunning hbreak hresume =>
          rw [ticks_of_reached _ hgoing hrunning hbreak hresume,
            ticks_of_reached _ hgoing hrunning hbreak hresume]
          exact (ticks_of_paused second rfl).symm
      | passed hgoing hrunning hpass =>
          rw [ticks_of_passed _ hgoing hrunning hpass, ticks_of_passed _ hgoing hrunning hpass]
          exact ih _

def batches (debugger : Debugger) (sizes : List Nat) : Debugger :=
  sizes.foldl (fun debugger size => debugger.ticks size) debugger

theorem batches_eq_ticks (debugger : Debugger) (sizes : List Nat) :
    debugger.batches sizes = debugger.ticks (sizes.foldr (· + ·) 0) := by
  induction sizes generalizing debugger with
  | nil => rfl
  | cons size sizes ih =>
      rw [List.foldr_cons, ticks_add]
      exact ih (debugger.ticks size)

theorem iterate_tick (count : Nat) (debugger : Debugger) :
    tick^[count] debugger = debugger.ticks (64 * count) := by
  induction count with
  | zero => rfl
  | succ count ih =>
      rw [Function.iterate_succ_apply', ih, Nat.mul_succ, ticks_add]
      rfl

theorem Follows.isLeast {origin debugger : Debugger} {made : Nat}
    (hfollows : Follows origin made debugger) (hpaused : debugger.running = false) :
    IsLeast { count | origin.Rests count } made := by
  refine ⟨hfollows.rests hpaused, ?_⟩
  intro count hcount
  exact Nat.le_of_not_lt fun hfewer => hfollows.passed count hfewer hcount

theorem run_rests_at_breakpoints (debugger : Debugger) :
    (forall count : Nat, exists made, made ≤ 64 * count ∧
      (tick^[count] debugger.run).machine = debugger.machine.after made ∧
      (forall earlier, 1 ≤ earlier -> earlier < made ->
        debugger.breakpoints.contains (debugger.machine.after earlier).pc = false) ∧
      ((tick^[count] debugger.run).running = true ->
        made = 64 * count ∧
          forall earlier, earlier < made ->
            exists instruction, (debugger.machine.after earlier).step.1 = .ok instruction) ∧
      ((tick^[count] debugger.run).running = false ->
        ((debugger.machine.after made).status ≠ .running ∨
          debugger.breakpoints.contains (debugger.machine.after made).pc = true) ∧
        IsLeast { rest | debugger.Rests rest } made)) ∧
    (forall sizes : List Nat, (debugger.run.batches sizes).running = false ->
      exists made, (debugger.run.batches sizes).machine = debugger.machine.after made ∧
        IsLeast { rest | debugger.Rests rest } made) := by
  constructor
  · intro count
    rw [iterate_tick]
    rcases (follows_run debugger).ticks (64 * count) with
      ⟨made, hmade, hfollows, hused⟩
    rw [Nat.zero_add] at hfollows
    refine ⟨made, hmade, hfollows.machine, ?_, ?_, ?_⟩
    · intro earlier hmoved hearlier
      apply Bool.eq_false_iff.mpr
      intro hbreak
      exact hfollows.passed earlier hearlier (Or.inr ⟨hmoved, hbreak⟩)
    · intro hgoing
      exact ⟨hused hgoing, hfollows.succeeded hgoing⟩
    · intro hpaused
      refine ⟨?_, hfollows.isLeast hpaused⟩
      rcases hfollows.rests hpaused with hstopped | ⟨_hmoved, hbreak⟩
      · exact Or.inl hstopped
      · exact Or.inr hbreak
  · intro sizes hpaused
    rw [batches_eq_ticks] at hpaused ⊢
    rcases (follows_run debugger).ticks (sizes.foldr (· + ·) 0) with
      ⟨made, _hmade, hfollows, _hused⟩
    rw [Nat.zero_add] at hfollows
    exact ⟨made, hfollows.machine, hfollows.isLeast hpaused⟩

/-- A jump back to the breakpoint that it stands at, from which the debugger starts. -/
def tightLoop : Debugger :=
  { start #[.label .mark ⟨[]⟩, .label .jump ⟨[]⟩] "" with
    machine := (Machine.start #[.label .mark ⟨[]⟩, .label .jump ⟨[]⟩] "").after 1
    breakpoints := Std.TreeSet.empty.insert 1 }

theorem run_rests_at_breakpoints_tightLoop :
    (tightLoop.run.batches [3, 61]).running = false ∧
      tightLoop.breakpoints.contains tightLoop.machine.pc = true ∧
      exists made, (tightLoop.run.batches [3, 61]).machine = tightLoop.machine.after made ∧
        IsLeast { rest | tightLoop.Rests rest } made := by
  have hpaused : (tightLoop.run.batches [3, 61]).running = false := by decide
  exact ⟨hpaused, by decide, (run_rests_at_breakpoints tightLoop).right [3, 61] hpaused⟩

/-!
# Restarts

The marker of the place where a run was resumed outlives a restart.  It is looked
at only while the debugger runs, and every run sets it anew; so two debuggers
that differ in nothing else, and agree on it while they run, never come apart.
-/

inductive Command where
  | step
  | run
  | tick
  | toggleBreakpoint
  | pause
  | reset
  deriving DecidableEq, Repr

def obey (debugger : Debugger) : Command -> Debugger
  | .step => debugger.step
  | .run => debugger.run
  | .tick => debugger.tick
  | .toggleBreakpoint => debugger.toggleBreakpoint
  | .pause => debugger.pause
  | .reset => debugger.reset

def obeyAll (debugger : Debugger) (commands : List Command) : Debugger :=
  commands.foldl obey debugger

/-- Nothing that comes of one debugger can differ from what comes of the other, but for
notices and the place in the heap view. -/
structure Alike (left right : Debugger) : Prop where
  machine : left.machine = right.machine
  program : left.program = right.program
  input : left.input = right.input
  breakpoints : left.breakpoints = right.breakpoints
  running : left.running = right.running
  resume : left.running = true -> left.resumeAt = right.resumeAt

theorem Alike.step {left right : Debugger} (halike : Alike left right) :
    Alike left.step right.step := by
  have hmachine := halike.machine
  by_cases hrunning : left.machine.status = .running
  · have hrunning' : right.machine.status = .running := by
      rw [← hmachine]
      exact hrunning
    cases hstep : left.machine.step with
    | mk result next =>
        have hstep' := hstep
        rw [hmachine] at hstep'
        cases result with
        | error error =>
            rw [step_of_error hrunning hstep, step_of_error hrunning' hstep']
            exact ⟨rfl, halike.program, halike.input, halike.breakpoints, rfl, Bool.noConfusion⟩
        | ok instruction =>
            rw [step_of_ok hstep, step_of_ok hstep']
            exact ⟨rfl, halike.program, halike.input, halike.breakpoints, halike.running,
              halike.resume⟩
  · have hstopped : right.machine.status ≠ .running := by
      rw [← hmachine]
      exact hrunning
    rw [step_of_stopped hrunning, step_of_stopped hstopped]
    exact ⟨hmachine, halike.program, halike.input, halike.breakpoints, rfl, Bool.noConfusion⟩

theorem Alike.ticks {left right : Debugger} (halike : Alike left right) (count : Nat) :
    Alike (left.ticks count) (right.ticks count) := by
  induction count generalizing left right with
  | zero => exact halike
  | succ count ih =>
      have hmachine := halike.machine
      have hbreakpoints := halike.breakpoints
      cases turn left with
      | paused hpaused =>
          rw [ticks_of_paused _ hpaused, ticks_of_paused _ (halike.running.symm.trans hpaused)]
          exact halike
      | stopped hgoing hstopped =>
          rw [ticks_of_stopped count hgoing hstopped]
          rw [hmachine] at hstopped
          rw [ticks_of_stopped count (halike.running.symm.trans hgoing) hstopped]
          exact ⟨hmachine, halike.program, halike.input, hbreakpoints, rfl, Bool.noConfusion⟩
      | reached hgoing hrunning hbreak hresume =>
          rw [ticks_of_reached count hgoing hrunning hbreak hresume]
          rw [hmachine] at hrunning
          rw [hmachine, hbreakpoints] at hbreak
          rw [hmachine, halike.resume hgoing] at hresume
          rw [ticks_of_reached count (halike.running.symm.trans hgoing) hrunning hbreak hresume]
          exact ⟨hmachine, halike.program, halike.input, hbreakpoints, rfl, Bool.noConfusion⟩
      | passed hgoing hrunning hpass =>
          rw [ticks_of_passed count hgoing hrunning hpass]
          rw [hmachine] at hrunning
          rw [hmachine, hbreakpoints, halike.resume hgoing] at hpass
          rw [ticks_of_passed count (halike.running.symm.trans hgoing) hrunning hpass]
          apply ih
          apply Alike.step
          exact ⟨hmachine, halike.program, halike.input, hbreakpoints, halike.running,
            fun _hgoing => rfl⟩

theorem Alike.toggleBreakpoint {left right : Debugger} (halike : Alike left right) :
    Alike left.toggleBreakpoint right.toggleBreakpoint := by
  simp only [Debugger.toggleBreakpoint, halike.machine, halike.breakpoints]
  split
  · exact ⟨rfl, halike.program, halike.input, rfl, halike.running, halike.resume⟩
  · exact ⟨rfl, halike.program, halike.input, rfl, halike.running, halike.resume⟩

theorem Alike.obey {left right : Debugger} (halike : Alike left right) (command : Command) :
    Alike (left.obey command) (right.obey command) := by
  cases command with
  | step => exact halike.step
  | run =>
      exact ⟨halike.machine, halike.program, halike.input, halike.breakpoints, rfl,
        fun _hgoing => congrArg (some ∘ Machine.pc) halike.machine⟩
  | tick => exact halike.ticks stepsPerTick
  | toggleBreakpoint => exact halike.toggleBreakpoint
  | pause =>
      exact ⟨halike.machine, halike.program, halike.input, halike.breakpoints, rfl,
        Bool.noConfusion⟩
  | reset =>
      refine ⟨?_, halike.program, halike.input, halike.breakpoints, rfl, Bool.noConfusion⟩
      show Machine.start left.program left.input = Machine.start right.program right.input
      rw [halike.program, halike.input]

theorem Alike.obeyAll {left right : Debugger} (halike : Alike left right)
    (commands : List Command) : Alike (left.obeyAll commands) (right.obeyAll commands) := by
  induction commands generalizing left right with
  | nil => exact halike
  | cons command commands ih => exact ih (halike.obey command)

theorem Alike.window {left right : Debugger} (halike : Alike left right) (lines : Nat) :
    left.window lines = right.window lines := by
  unfold Debugger.window
  rw [halike.machine, halike.program]

/-!
Commands change neither the program nor the input that a debugger was built for.
-/

def source (debugger : Debugger) : Program × String :=
  (debugger.program, debugger.input)

theorem source_step (debugger : Debugger) : debugger.step.source = debugger.source := by
  unfold step
  split
  · split
    · rfl
    · rfl
  · rfl

theorem source_ticks (debugger : Debugger) (count : Nat) :
    (debugger.ticks count).source = debugger.source := by
  induction count generalizing debugger with
  | zero => rfl
  | succ count ih =>
      cases turn debugger with
      | paused hpaused => rw [ticks_of_paused _ hpaused]
      | stopped hgoing hstopped =>
          rw [ticks_of_stopped count hgoing hstopped]
          rfl
      | reached hgoing hrunning hbreak hresume =>
          rw [ticks_of_reached count hgoing hrunning hbreak hresume]
          rfl
      | passed hgoing hrunning hpass =>
          rw [ticks_of_passed count hgoing hrunning hpass, ih, source_step]
          rfl

theorem source_obey (debugger : Debugger) (command : Command) :
    (debugger.obey command).source = debugger.source := by
  cases command with
  | step => exact source_step debugger
  | run => rfl
  | tick => exact source_ticks debugger stepsPerTick
  | toggleBreakpoint =>
      simp only [obey, toggleBreakpoint]
      split
      · rfl
      · rfl
  | pause => rfl
  | reset => rfl

theorem source_obeyAll (debugger : Debugger) (commands : List Command) :
    (debugger.obeyAll commands).source = debugger.source := by
  induction commands generalizing debugger with
  | nil => rfl
  | cons command commands ih => exact (ih _).trans (source_obey debugger command)

def startWith (program : Program) (input : String) (breakpoints : Std.TreeSet Nat) : Debugger :=
  { start program input with breakpoints := breakpoints }

theorem alike_reset {debugger : Debugger} {program : Program} {input : String}
    (hsource : debugger.source = (program, input)) :
    Alike debugger.reset (startWith program input debugger.breakpoints) where
  machine := by
    cases hsource
    rfl
  program := congrArg Prod.fst hsource
  input := congrArg Prod.snd hsource
  breakpoints := rfl
  running := rfl
  resume := Bool.noConfusion

structure ShowsAs (left right : Debugger) : Prop where
  machine : left.machine = right.machine
  running : left.running = right.running
  breakpoints : left.breakpoints = right.breakpoints
  window : forall lines : Nat, left.window lines = right.window lines

theorem restart_forgets (program : Program) (input : String) (earlier later : List Command) :
    ShowsAs (((start program input).obeyAll earlier).reset.obeyAll later)
      ((startWith program input ((start program input).obeyAll earlier).breakpoints).obeyAll
        later) := by
  have hsource := source_obeyAll (start program input) earlier
  have halike := (alike_reset hsource).obeyAll later
  exact ⟨halike.machine, halike.running, halike.breakpoints, halike.window⟩

end Debugger
end Whitespace
