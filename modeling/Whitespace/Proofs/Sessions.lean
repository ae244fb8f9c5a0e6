import Mathlib.Data.List.DropRight
import Whitespace.Proofs.Histories
import Whitespace.Workbench

/-!
# Sessions at a workbench

A workbench keeps a machine, a program and an input beside each other.  Whatever
the calls made on it, the machine is what a fresh machine for the last program
that loaded and the last input becomes by the steps and runs since then.
-/

namespace Whitespace
namespace Workbench

/-!
# Calls
-/

inductive Call where
  | loadSource (source styleName : String)
  | loadAssembly (source : String)
  | setInput (input : String)
  | step
  | run (limit : Nat)
  | reset

inductive Reply where
  | loaded (count : Nat)
  | refused (error : Error)
  | done
  | stepped (result : Except MachineError Instruction)
  | ran (result : Except MachineError Nat)

def answer (bench : Workbench) : Call -> Reply × Workbench
  | .loadSource source styleName =>
      match bench.loadSource source styleName with
      | .ok (reading, next) => (.loaded reading.program.size, next)
      | .error error => (.refused error, bench)
  | .loadAssembly source =>
      match bench.loadAssembly source with
      | .ok (count, next) => (.loaded count, next)
      | .error error => (.refused error, bench)
  | .setInput input => (.done, bench.setInput input)
  | .step => (.stepped bench.step.1, bench.step.2)
  | .run limit => (.ran (bench.run limit).1, (bench.run limit).2)
  | .reset => (.done, bench.reset)

def session (calls : List Call) : Workbench :=
  calls.foldl (fun bench call => (bench.answer call).2) empty

theorem session_append_singleton (calls : List Call) (call : Call) :
    session (calls ++ [call]) = ((session calls).answer call).2 := by
  simp [session, List.foldl_append]

/-!
# What calls ask for

Whether a text loads does not depend on the workbench, so what a list of calls
amounts to can be read off the calls alone.
-/

namespace Call

def loaded? : Call -> Option Program
  | loadSource source styleName =>
      match Style.builtin styleName with
      | .error _ => none
      | .ok style =>
          match Program.decode .lenient (style.remap source) with
          | .error _ => none
          | .ok reading => some reading.program
  | loadAssembly source =>
      match assemble source with
      | .error _ => none
      | .ok assembly => some assembly.program
  | _ => none

def input? : Call -> Option String
  | setInput input => some input
  | _ => none

def move? : Call -> Option Operation
  | step => some .step
  | run limit => some (.runLimited limit)
  | _ => none

/-- The call puts a fresh machine into place. -/
def restarts : Call -> Bool
  | loadSource source styleName => (loadSource source styleName).loaded?.isSome
  | loadAssembly source => (loadAssembly source).loaded?.isSome
  | setInput _ => true
  | reset => true
  | step => false
  | run _ => false

/-- The call is a load of a text that is no program, or in a style that is not known. -/
def Fails : Call -> Prop
  | loadSource source styleName =>
      (exists fault, Style.builtin styleName = .error fault) ∨
        exists style fault, Style.builtin styleName = .ok style ∧
          Program.decode .lenient (style.remap source) = .error fault
  | loadAssembly source => exists fault, assemble source = .error fault
  | _ => False

end Call

def lastProgram (calls : List Call) : Program :=
  (calls.filterMap Call.loaded?).getLast?.getD #[]

def lastInput (calls : List Call) : String :=
  (calls.filterMap Call.input?).getLast?.getD ""

/-- The steps and runs since the last call that put a fresh machine into place. -/
def movesSince (calls : List Call) : List Operation :=
  (calls.rtakeWhile fun call => !call.restarts).filterMap Call.move?

theorem lastProgram_append_singleton (calls : List Call) (call : Call) :
    lastProgram (calls ++ [call]) = call.loaded?.getD (lastProgram calls) := by
  cases hloaded : call.loaded? <;> simp [lastProgram, List.filterMap_append, hloaded]

theorem lastInput_append_singleton (calls : List Call) (call : Call) :
    lastInput (calls ++ [call]) = call.input?.getD (lastInput calls) := by
  cases hinput : call.input? <;> simp [lastInput, List.filterMap_append, hinput]

theorem movesSince_append_singleton (calls : List Call) (call : Call) :
    movesSince (calls ++ [call]) =
      if call.restarts then [] else movesSince calls ++ call.move?.toList := by
  cases hrestarts : call.restarts <;> cases hmove : call.move? <;>
    simp [movesSince, List.filterMap_append, hrestarts, hmove]

/-!
# Answers

A load that succeeds installs its program; a load that fails leaves the workbench
as it was.
-/

theorem answer_of_loaded {call : Call} {program : Program} (bench : Workbench)
    (hloaded : call.loaded? = some program) :
    bench.answer call = (.loaded program.size, bench.install program) := by
  cases call with
  | loadSource source styleName =>
      cases hstyle : Style.builtin styleName with
      | error fault => simp [Call.loaded?, hstyle] at hloaded
      | ok style =>
          cases hdecode : Program.decode .lenient (style.remap source) with
          | error fault => simp [Call.loaded?, hstyle, hdecode] at hloaded
          | ok reading =>
              simp only [Call.loaded?, hstyle, hdecode, Option.some.injEq] at hloaded
              simp only [answer, loadSource, readSource, hstyle, hdecode]
              rw [← hloaded]
              rfl
  | loadAssembly source =>
      cases hassemble : assemble source with
      | error fault => simp [Call.loaded?, hassemble] at hloaded
      | ok assembled =>
          simp only [Call.loaded?, hassemble, Option.some.injEq] at hloaded
          simp only [answer, loadAssembly, hassemble, hloaded]
  | setInput input => cases hloaded
  | step => cases hloaded
  | run limit => cases hloaded
  | reset => cases hloaded

theorem answer_of_fails {call : Call} (bench : Workbench) (hfails : call.Fails) :
    exists error, bench.answer call = (.refused error, bench) := by
  cases call with
  | loadSource source styleName =>
      rcases hfails with ⟨fault, hstyle⟩ | ⟨style, fault, hstyle, hdecode⟩
      · refine ⟨.style fault, ?_⟩
        simp only [answer, loadSource, readSource, hstyle]
        rfl
      · refine ⟨.decode fault, ?_⟩
        simp only [answer, loadSource, readSource, hstyle, hdecode]
        rfl
  | loadAssembly source =>
      rcases hfails with ⟨fault, hassemble⟩
      refine ⟨.assembly fault, ?_⟩
      simp only [answer, loadAssembly, hassemble]
  | setInput input => cases hfails
  | step => cases hfails
  | run limit => cases hfails
  | reset => cases hfails

inductive Demand : Call -> Prop where
  | load {call : Call} (program : Program) (hloaded : call.loaded? = some program)
      (hinput : call.input? = none) (hrestarts : call.restarts = true) : Demand call
  | failedLoad {call : Call} (hfails : call.Fails) (hloaded : call.loaded? = none)
      (hinput : call.input? = none) (hmove : call.move? = none)
      (hrestarts : call.restarts = false) : Demand call
  | setInput (input : String) : Demand (.setInput input)
  | step : Demand .step
  | run (limit : Nat) : Demand (.run limit)
  | reset : Demand .reset

theorem demand (call : Call) : Demand call := by
  cases call with
  | loadSource source styleName =>
      cases hstyle : Style.builtin styleName with
      | error fault =>
          have hloaded : (Call.loadSource source styleName).loaded? = none := by
            simp only [Call.loaded?, hstyle]
          exact .failedLoad (Or.inl ⟨fault, hstyle⟩) hloaded rfl rfl
            (by simp only [Call.restarts, hloaded, Option.isSome_none])
      | ok style =>
          cases hdecode : Program.decode .lenient (style.remap source) with
          | error fault =>
              have hloaded : (Call.loadSource source styleName).loaded? = none := by
                simp only [Call.loaded?, hstyle, hdecode]
              exact .failedLoad (Or.inr ⟨style, fault, hstyle, hdecode⟩) hloaded rfl rfl
                (by simp only [Call.restarts, hloaded, Option.isSome_none])
          | ok reading =>
              have hloaded : (Call.loadSource source styleName).loaded? = some reading.program := by
                simp only [Call.loaded?, hstyle, hdecode]
              exact .load reading.program hloaded rfl
                (by simp only [Call.restarts, hloaded, Option.isSome_some])
  | loadAssembly source =>
      cases hassemble : assemble source with
      | error fault =>
          have hloaded : (Call.loadAssembly source).loaded? = none := by
            simp only [Call.loaded?, hassemble]
          exact .failedLoad ⟨fault, hassemble⟩ hloaded rfl rfl
            (by simp only [Call.restarts, hloaded, Option.isSome_none])
      | ok assembly =>
          have hloaded : (Call.loadAssembly source).loaded? = some assembly.program := by
            simp only [Call.loaded?, hassemble]
          exact .load assembly.program hloaded rfl
            (by simp only [Call.restarts, hloaded, Option.isSome_some])
  | setInput input => exact .setInput input
  | step => exact .step
  | run limit => exact .run limit
  | reset => exact .reset

/-!
# Replays
-/

/-- The workbench holds what a fresh machine for a program and an input becomes by operations. -/
structure Replays (bench : Workbench) (program : Program) (input : String)
    (operations : List Operation) : Prop where
  machine : bench.machine = (Machine.start program input).replay operations
  program : bench.program = program
  input : bench.input = input

theorem replays_empty : Replays empty #[] "" [] :=
  ⟨rfl, rfl, rfl⟩

theorem Replays.move {bench : Workbench} {program : Program} {input : String}
    {operations : List Operation} (hreplays : Replays bench program input operations)
    (operation : Operation) :
    Replays { bench with machine := (bench.machine.operate operation).2 } program input
      (operations ++ [operation]) where
  machine := by
    rw [Machine.replay_append_singleton, ← hreplays.machine]
  program := hreplays.program
  input := hreplays.input

theorem Replays.answer {bench : Workbench} {program : Program} {input : String}
    {operations : List Operation} (hreplays : Replays bench program input operations)
    (call : Call) :
    Replays (bench.answer call).2 (call.loaded?.getD program) (call.input?.getD input)
      (if call.restarts then [] else operations ++ call.move?.toList) := by
  cases demand call with
  | load loaded hloaded hinput hrestarts =>
      rw [answer_of_loaded bench hloaded, hloaded, hinput, hrestarts]
      refine ⟨?_, rfl, hreplays.input⟩
      show Machine.start loaded bench.input = _
      rw [hreplays.input]
      rfl
  | failedLoad hfails hloaded hinput hmove hrestarts =>
      rcases answer_of_fails bench hfails with ⟨error, hanswer⟩
      rw [hanswer, hloaded, hinput, hmove, hrestarts]
      simpa using hreplays
  | setInput text =>
      refine ⟨?_, hreplays.program, rfl⟩
      show Machine.start bench.program text = _
      rw [hreplays.program]
      rfl
  | step => exact hreplays.move .step
  | run limit => exact hreplays.move (.runLimited limit)
  | reset =>
      refine ⟨?_, hreplays.program, hreplays.input⟩
      show Machine.start bench.program bench.input = _
      rw [hreplays.program, hreplays.input]
      rfl

theorem replays_session (calls : List Call) :
    Replays (session calls) (lastProgram calls) (lastInput calls) (movesSince calls) := by
  induction calls using List.reverseRecOn with
  | nil => exact replays_empty
  | append_singleton calls call ih =>
      rw [session_append_singleton, lastProgram_append_singleton, lastInput_append_singleton,
        movesSince_append_singleton]
      exact ih.answer call

theorem refused_iff_fails (bench : Workbench) (call : Call) :
    (exists error, (bench.answer call).1 = .refused error) ↔ call.Fails := by
  constructor
  · rintro ⟨error, hrefused⟩
    cases demand call with
    | load program hloaded hinput hrestarts =>
        rw [answer_of_loaded bench hloaded] at hrefused
        cases hrefused
    | failedLoad hfails hloaded hinput hmove hrestarts => exact hfails
    | setInput input => cases hrefused
    | step => cases hrefused
    | run limit => cases hrefused
    | reset => cases hrefused
  · intro hfails
    rcases answer_of_fails bench hfails with ⟨error, hanswer⟩
    exact ⟨error, congrArg Prod.fst hanswer⟩

theorem session_replays_fresh_machine (calls : List Call) :
    (session calls).machine =
        (Machine.start (lastProgram calls) (lastInput calls)).replay (movesSince calls) ∧
      (session calls).program = (session calls).machine.program ∧
      (session calls).disassembly = (session calls).machine.program.disassembly ∧
      forall call : Call,
        ((exists error, ((session calls).answer call).1 = .refused error) ↔ call.Fails) ∧
          (call.Fails -> ((session calls).answer call).2 = session calls) := by
  have hreplays := replays_session calls
  have hprogram : (session calls).program = (session calls).machine.program := by
    have hcoherent := Machine.coherent_withConsole (lastProgram calls)
      (Input.ofString (lastInput calls)) Output.empty
    rw [hreplays.program, hreplays.machine]
    exact (hcoherent.replay (movesSince calls)).program_eq.symm
  refine ⟨hreplays.machine, hprogram, congrArg Program.disassembly hprogram, ?_⟩
  intro call
  refine ⟨refused_iff_fails (session calls) call, ?_⟩
  intro hfails
  rcases answer_of_fails (session calls) hfails with ⟨error, hanswer⟩
  rw [hanswer]

end Workbench
end Whitespace
