import Whitespace.CommandLine
import Whitespace.Proofs.Endings
import Whitespace.Proofs.Histories
import Whitespace.Proofs.Text

/-!
# Reports of failed runs

When a run fails, the command line names a place in the program: an index and the
text of an instruction.  Both are read off the machine after the failure.  By then
the counter has passed the instruction that failed, and the machine remembers the
instruction that it completed before.  So the place is never that of the failure.
-/

namespace Whitespace
namespace Machine

/-!
# What a failure leaves

A failing step moves the counter, but the instruction that the machine remembers is
still the last one that it executed.
-/

theorem pc_last_of_step_error {machine stopped : Machine} {instruction : Instruction}
    {error : MachineError} (hrunning : machine.status = .running)
    (hat : machine.program[machine.pc]? = some instruction)
    (hstep : machine.step = (.error error, stopped)) :
    stopped.pc = machine.pc + 1 ∧ stopped.last = machine.last := by
  have hreaction := reaction_step hrunning hat
  rw [hstep] at hreaction
  cases hreaction with
  | failed error memory => exact ⟨rfl, rfl⟩

theorem Executes.coherent {program : Program} {machine last : Machine}
    {executed : List Instruction} (hexecutes : Executes machine executed last)
    (hcoherent : Coherent program machine) : Coherent program last := by
  induction hexecutes with
  | nil machine => exact hcoherent
  | cons hstep _hrest ih =>
      have hnext := hcoherent.step
      rw [hstep] at hnext
      exact ih hnext

def BreaksAt (machine : Machine) (executed : List Instruction) (index : Nat)
    (instruction : Instruction) (error : MachineError) : Prop :=
  exists before stopped : Machine, Executes machine executed before ∧
    before.status = .running ∧ before.pc = index ∧
      before.program[index]? = some instruction ∧ before.step = (.error error, stopped)

theorem exists_breaksAt_of_ends {program : Program} {machine stopped : Machine}
    {executed : List Instruction} {error : MachineError} (hcoherent : Coherent program machine)
    (hends : Ends machine executed (.error error) stopped) :
    exists index instruction, BreaksAt machine executed index instruction error := by
  cases hends with
  | failed hexecutes hrunning hstep =>
      rcases (hexecutes.coherent hcoherent).exists_instruction hrunning with ⟨instruction, hat⟩
      exact ⟨_, instruction, _, _, hexecutes, hrunning, rfl, hat, hstep⟩

theorem BreaksAt.exists_ends {machine : Machine} {executed : List Instruction} {index : Nat}
    {instruction : Instruction} {error : MachineError}
    (hbreaks : BreaksAt machine executed index instruction error) :
    exists stopped, Ends machine executed (.error error) stopped ∧ stopped.pc = index + 1 ∧
      stopped.last = executed.getLast?.or machine.last := by
  rcases hbreaks with ⟨before, stopped, hexecutes, hrunning, hindex, hat, hstep⟩
  rw [← hindex] at hat
  rcases pc_last_of_step_error hrunning hat hstep with ⟨hpc, hlast⟩
  refine ⟨stopped, .failed hexecutes hrunning hstep, ?_, ?_⟩
  · rw [hpc, hindex]
  · rw [hlast, hexecutes.last]

/-!
# Failures within a bound

A run with a bound makes no more steps than the step counter holds; a run without
one makes as many as it takes.
-/

/-- In a run with the bound, if there is one, a fresh machine can make one more step behind a number
of others. -/
def Allows : Option Nat -> Nat -> Prop
  | none, _count => True
  | some limit, count => count < min limit wordMax

theorem runWithin_of_failed {machine stopped : Machine} {executed : List Instruction}
    {error : MachineError} {limit : Option Nat} (hfresh : machine.steps = 0)
    (hflag : machine.interrupt = false) (hends : Ends machine executed (.error error) stopped)
    (hallows : Allows limit executed.length) :
    machine.runWithin limit = (.error error, stopped.flushed) := by
  cases limit with
  | none => rw [runWithin, run, run?_of_ends hends hflag, Option.getD_some, finish, runResult]
  | some limit =>
      have hbound : executed.length < min limit (wordMax - machine.steps) := by
        rw [hfresh]
        exact hallows
      rw [runWithin, runLimited, advance_of_failed hends hflag hbound, finish, runResult]

theorem exists_ends_of_finish {machine stopped : Machine} {error : MachineError} {count : Nat}
    (hflag : machine.interrupt = false) (hmemory : machine.memory.output.destination.IsMemory)
    (hrun : finish machine.steps (advance count machine) = (.error error, stopped)) :
    exists executed, Ends machine executed (.error error) stopped ∧ executed.length < count := by
  rw [← destination_advance count machine] at hmemory
  cases hadvance : advance count machine with
  | mk result last =>
      rw [hadvance] at hmemory hrun
      rw [finish_of_memory hmemory] at hrun
      cases result with
      | ok _ => cases hrun
      | error fault =>
          cases hrun
          have hstopped := status_of_advance_error hadvance
          rcases exists_ends_of_advance hflag (by rw [hadvance]; exact hstopped) with
            ⟨executed, hends⟩
          rw [hadvance] at hends
          refine ⟨executed, hends, Nat.lt_of_not_le fun hbefore => ?_⟩
          rcases advance_before_failure hends hflag hbefore with ⟨middle, hmiddle, _hrunning⟩
          rw [hadvance] at hmiddle
          cases hmiddle

theorem exists_ends_of_runWithin {machine stopped : Machine} {error : MachineError}
    {limit : Option Nat} (hfresh : machine.steps = 0) (hflag : machine.interrupt = false)
    (hmemory : machine.memory.output.destination.IsMemory)
    (hrun : machine.runWithin limit = (.error error, stopped)) :
    exists executed, Ends machine executed (.error error) stopped ∧
      Allows limit executed.length := by
  cases limit with
  | none =>
      rcases run_cases machine with ⟨count, hstopped, _hreturned⟩ | hendless
      · rw [runWithin, run_of_advance hstopped] at hrun
        rcases exists_ends_of_finish hflag hmemory hrun with ⟨executed, hends, _hbound⟩
        exact ⟨executed, hends, trivial⟩
      · rw [runWithin, run, hendless] at hrun
        cases hrun
  | some limit =>
      rcases exists_ends_of_finish hflag hmemory hrun with ⟨executed, hends, hbound⟩
      rw [hfresh] at hbound
      exact ⟨executed, hends, hbound⟩

end Machine

namespace CommandLine

/-!
# Places
-/

def placeText (index : Nat) (instruction : String) : String :=
  s!"Runtime error at pc={index} ({instruction})"

def lastText (executed : List Instruction) : String :=
  (executed.getLast?.map Instruction.text).getD ""

theorem errorContext_eq {machine : Machine} {executed : List Instruction}
    (hlast : machine.last = executed.getLast?) :
    errorContext machine = placeText machine.pc (lastText executed) := by
  unfold errorContext placeText lastText
  rw [hlast]
  cases executed.getLast? <;> rfl

theorem failureText_eq (context message : String) :
    failureText context message = "❌ " ++ context ++ ": " ++ message ++ "\n" := rfl

theorem placeText_eq (index : Nat) (instruction : String) :
    placeText index instruction =
      "Runtime error at pc=" ++ toString index ++ " (" ++ instruction ++ ")" := rfl

theorem toList_failureText_placeText (index : Nat) (instruction message : String) :
    (failureText (placeText index instruction) message).toList =
      "❌ ".toList ++ ("Runtime error at pc=".toList ++ (Nat.toDigits 10 index ++
        ' ' :: ("(" ++ instruction ++ ")" ++ ": " ++ message ++ "\n").toList)) := by
  have hopen : " (".toList = ' ' :: "(".toList := by decide
  rw [failureText_eq, placeText_eq]
  simp only [String.toList_append, Text.toList_toString_nat, List.append_assoc, hopen,
    List.cons_append]

theorem index_of_failureText {index other : Nat} {instruction text message : String}
    (hsame : failureText (placeText index instruction) message =
      failureText (placeText other text) message) : index = other := by
  have hblank : forall n : Nat, ' ' ∉ Nat.toDigits 10 n := Text.not_mem_toDigits (by decide)
  have htexts := congrArg String.toList hsame
  rw [toList_failureText_placeText, toList_failureText_placeText] at htexts
  have hrests := List.append_cancel_left (List.append_cancel_left htexts)
  have hfields := congrArg (Text.fields ' ') hrests
  rw [Text.fields_append (hblank index), Text.fields_append (hblank other)] at hfields
  have hread := congrArg (Text.readNatural? 10) (List.cons.inj hfields).left
  rw [Text.readNatural?_toDigits, Text.readNatural?_toDigits] at hread
  exact Option.some.inj hread

/-!
# Runs of loaded programs
-/

def machineAt (desk : Desk) (program : Program) (config : Config) : Machine :=
  (machineFor program config).feed desk.input

theorem coherent_machineAt (desk : Desk) (program : Program) (config : Config) :
    Machine.Coherent program (machineAt desk program config) := by
  have hstart := Machine.coherent_withConsole program (Input.ofString "") Output.empty
  exact ⟨hstart.program_eq, hstart.labels_eq, hstart.pc_le, hstart.stands, hstart.calls⟩

theorem run_drive {desk : Desk} {program : Program} {config : Config} {stopped : Machine}
    {result : Except MachineError Nat}
    (hrun : (machineAt desk program config).runWithin config.maxSteps = (result, stopped)) :
    (drive (machineFor program config) config.maxSteps : StateM Desk _).run desk =
      ((result, stopped),
        { desk with
          input := stopped.memory.input.bytes
          output := desk.output ++ stopped.memory.output.text }) := by
  unfold machineAt at hrun
  simp only [drive, StateT.run_bind, StateT.run_get, pure_bind]
  rw [hrun]
  rfl

theorem runLoaded_of_error {desk : Desk} {program : Program} {config : Config} {stopped : Machine}
    {error : MachineError} (json : Bool)
    (hrun : (machineAt desk program config).runWithin config.maxSteps = (.error error, stopped)) :
    (runLoaded program json config : StateM Desk UInt32).run desk =
      (1,
        { desk with
          input := stopped.memory.input.bytes
          output := desk.output ++ stopped.memory.output.text
          errors := desk.errors ++ failureText (errorContext stopped) error.message }) := by
  rw [runLoaded, StateT.run_bind, run_drive hrun]
  rfl

theorem exitCode_of_ok {desk : Desk} {program : Program} {config : Config} {stopped : Machine}
    {steps : Nat} (json : Bool)
    (hrun : (machineAt desk program config).runWithin config.maxSteps = (.ok steps, stopped)) :
    ((runLoaded program json config : StateM Desk UInt32).run desk).1 = 0 := by
  rw [runLoaded, StateT.run_bind, run_drive hrun]
  cases json <;> rfl

theorem runLoaded_of_breaksAt {desk : Desk} {program : Program} {config : Config}
    {executed : List Instruction} {index : Nat} {instruction : Instruction}
    {error : MachineError} (json : Bool)
    (hbreaks : (machineAt desk program config).BreaksAt executed index instruction error)
    (hbound : Machine.Allows config.maxSteps executed.length) :
    ((runLoaded program json config : StateM Desk UInt32).run desk).1 = 1 ∧
      ((runLoaded program json config : StateM Desk UInt32).run desk).2.errors =
        desk.errors ++ failureText (placeText (index + 1) (lastText executed)) error.message := by
  rcases hbreaks.exists_ends with ⟨stopped, hends, hpc, hlast⟩
  have hplace : errorContext stopped.flushed = errorContext stopped := rfl
  have hcontext : errorContext stopped = placeText (index + 1) (lastText executed) := by
    rw [errorContext_eq (hlast.trans (Option.or_none)), hpc]
  rw [runLoaded_of_error json (Machine.runWithin_of_failed rfl rfl hends hbound), hplace,
    hcontext]
  exact ⟨rfl, rfl⟩

theorem exists_breaksAt_of_exitCode {desk : Desk} {program : Program} {config : Config}
    {json : Bool}
    (hcode : ((runLoaded program json config : StateM Desk UInt32).run desk).1 ≠ 0) :
    exists executed index instruction error,
      (machineAt desk program config).BreaksAt executed index instruction error ∧
        Machine.Allows config.maxSteps executed.length := by
  cases hrun : (machineAt desk program config).runWithin config.maxSteps with
  | mk result stopped =>
      cases result with
      | ok steps => exact absurd (exitCode_of_ok json hrun) hcode
      | error error =>
          rcases Machine.exists_ends_of_runWithin rfl rfl Destination.isMemory_steady hrun with
            ⟨executed, hends, hbound⟩
          rcases Machine.exists_breaksAt_of_ends (coherent_machineAt desk program config) hends
            with ⟨index, instruction, hbreaks⟩
          exact ⟨executed, index, instruction, error, hbreaks, hbound⟩

/-!
# The command
-/

def runConfig (settings : Config) (maxSteps : Option Nat) (strictForeign : Bool) : Config :=
  { settings with
    maxSteps := maxSteps.or settings.maxSteps
    strictForeign := settings.strictForeign || strictForeign }

/-- The command finds its settings and its program, and leaves a desk. -/
def Loads (argument : String) (maxSteps : Option Nat) (strictForeign : Bool)
    (options : CommonOptions) (desk : Desk) (config : Config) (program : Program)
    (loaded : Desk) : Prop :=
  exists (settings : Config) (between : Desk),
    (loadConfig options : StateM Desk _).run desk = (.ok settings, between) ∧
      config = runConfig settings maxSteps strictForeign ∧
        (loadProgram argument options config : StateM Desk _).run between = (.ok program, loaded)

theorem loadProgram_of_assemble {argument : String} {options : CommonOptions} {desk : Desk}
    {assembly : Assembly} (config : Config)
    (hfile : desk.directory.read argument = .error .notFound)
    (hkind : isAssembly argument options = true)
    (hassemble : Whitespace.assemble argument = .ok assembly) :
    (loadProgram argument options config : StateM Desk _).run desk =
      (.ok assembly.program,
        { desk with
          errors := desk.errors ++ s!"📝 Assembled {assembly.program.size} instructions\n" }) := by
  have htext : (readProgramText argument : StateM Desk _).run desk =
      pure (.ok argument, desk) := by
    simp only [readProgramText, isFile, StateT.run_bind, StateT.run_get, pure_bind,
      HasDirectory.directory, hfile]
    rfl
  rw [loadProgram, StateT.run_bind, htext, pure_bind]
  simp only [hkind, if_true, hassemble]
  rfl

theorem perform_run_of_loads {argument : String} {maxSteps : Option Nat} {strictForeign : Bool}
    {options : CommonOptions} {desk loaded : Desk} {config : Config} {program : Program}
    (json : Bool)
    (hloads : Loads argument maxSteps strictForeign options desk config program loaded) :
    (perform (.run argument maxSteps strictForeign json options) : StateM Desk UInt32).run desk =
      (runLoaded program json config : StateM Desk UInt32).run loaded := by
  rcases hloads with ⟨settings, between, hsettings, hconfig, hprogram⟩
  have hrun : (runProgram argument json options config : StateM Desk UInt32).run between =
      (runLoaded program json config : StateM Desk UInt32).run loaded := by
    rw [runProgram, StateT.run_bind, hprogram]
    rfl
  rw [perform, withConfig, StateT.run_bind, hsettings, ← hrun, hconfig]
  rfl

/-- A run exits with an error exactly if an instruction fails within its bound.  The report then
names the index behind that instruction and the instruction executed before it, if any, which
is never the index and the instruction of the failure. -/
theorem failure_reported_behind {argument : String} {maxSteps : Option Nat}
    {strictForeign json : Bool} {options : CommonOptions} {desk loaded left : Desk}
    {config : Config} {program : Program} {code : UInt32}
    (hloads : Loads argument maxSteps strictForeign options desk config program loaded)
    (hrun : (perform (.run argument maxSteps strictForeign json options) :
      StateM Desk UInt32).run desk = (code, left)) :
    (code ≠ 0 ↔ exists executed index instruction error,
      (machineAt loaded program config).BreaksAt executed index instruction error ∧
        Machine.Allows config.maxSteps executed.length) ∧
    (forall executed index instruction error,
      (machineAt loaded program config).BreaksAt executed index instruction error ->
      Machine.Allows config.maxSteps executed.length ->
        code = 1 ∧
        left.errors = loaded.errors ++
          failureText (placeText (index + 1) (lastText executed)) error.message ∧
        left.errors ≠ loaded.errors ++
          failureText (placeText index instruction.text) error.message) := by
  rw [perform_run_of_loads json hloads] at hrun
  have hreport : forall executed index instruction error,
      (machineAt loaded program config).BreaksAt executed index instruction error ->
      Machine.Allows config.maxSteps executed.length ->
        code = 1 ∧ left.errors = loaded.errors ++
          failureText (placeText (index + 1) (lastText executed)) error.message := by
    intro executed index instruction error hbreaks hbound
    have hloaded := runLoaded_of_breaksAt json hbreaks hbound
    rw [hrun] at hloaded
    exact hloaded
  refine ⟨⟨?_, ?_⟩, ?_⟩
  · intro hcode
    apply exists_breaksAt_of_exitCode
    rw [hrun]
    exact hcode
  · rintro ⟨executed, index, instruction, error, hbreaks, hbound⟩
    rw [(hreport executed index instruction error hbreaks hbound).left]
    decide
  · intro executed index instruction error hbreaks hbound
    rcases hreport executed index instruction error hbreaks hbound with ⟨hcode, herrors⟩
    refine ⟨hcode, herrors, ?_⟩
    intro hplace
    rw [herrors, String.append_right_inj] at hplace
    exact Nat.succ_ne_self index (index_of_failureText hplace)

def bareDesk : Desk :=
  { directory := ⟨"/", ∅⟩, input := [] }

theorem failure_reported_behind_swap :
    exists (loaded left : Desk) (code : UInt32),
      Loads "PUSH 1\nSWAP" (some 2) false { assembly := true } bareDesk { maxSteps := some 2 }
        #[.number .push (Number.ofInt 1), .plain .swap] loaded ∧
      (machineAt loaded #[.number .push (Number.ofInt 1), .plain .swap]
        { maxSteps := some 2 }).BreaksAt [.number .push (Number.ofInt 1)] 1 (.plain .swap)
          (.stackUnderflow 2 1) ∧
      (perform (.run "PUSH 1\nSWAP" (some 2) false false { assembly := true }) :
        StateM Desk UInt32).run bareDesk = (code, left) ∧
      code = 1 ∧
      left.errors = loaded.errors ++
        failureText (placeText 2 "PUSH 1") (MachineError.stackUnderflow 2 1).message := by
  have hassemble : Whitespace.assemble "PUSH 1\nSWAP" =
      .ok (.ofInstructions [.number .push (Number.ofInt 1), .plain .swap]) := rfl
  have hloads : Loads "PUSH 1\nSWAP" (some 2) false { assembly := true } bareDesk
      { maxSteps := some 2 } #[.number .push (Number.ofInt 1), .plain .swap] _ :=
    ⟨{}, bareDesk, rfl, rfl, loadProgram_of_assemble _ rfl rfl hassemble⟩
  have hbreaks : (machineAt bareDesk #[.number .push (Number.ofInt 1), .plain .swap]
      { maxSteps := some 2 }).BreaksAt [.number .push (Number.ofInt 1)] 1 (.plain .swap)
        (.stackUnderflow 2 1) :=
    ⟨_, _, .cons rfl (.nil _), rfl, rfl, rfl, rfl⟩
  have htext : lastText [.number .push (Number.ofInt 1)] = "PUSH 1" := by decide +kernel
  cases hrun : (perform (.run "PUSH 1\nSWAP" (some 2) false false { assembly := true }) :
      StateM Desk UInt32).run bareDesk with
  | mk code left =>
      rcases (failure_reported_behind hloads hrun).right _ _ _ _ hbreaks
          (by decide : 1 < min 2 wordMax) with
        ⟨hcode, herrors, _hplace⟩
      rw [htext] at herrors
      exact ⟨_, left, code, hloads, hbreaks, rfl, hcode, herrors⟩

/-- The first instruction of a program fails, and the report names the next index and nothing. -/
theorem failure_misplaced :
    (machineAt bareDesk #[.plain .swap] {}).BreaksAt [] 0 (.plain .swap) (.stackUnderflow 2 0) ∧
      ((execute ["run", "--asm", "SWAP"] : StateM Desk UInt32).run bareDesk).1 = 1 ∧
      ((execute ["run", "--asm", "SWAP"] : StateM Desk UInt32).run bareDesk).2.errors =
        "📝 Assembled 1 instructions\n❌ Runtime error at pc=1 (): " ++
          "stack underflow: needed 2 item(s), stack has 0\n" := by
  have hbreaks : (machineAt bareDesk #[.plain .swap] {}).BreaksAt [] 0 (.plain .swap)
      (.stackUnderflow 2 0) :=
    ⟨_, _, .nil _, rfl, rfl, rfl, rfl⟩
  have hcommand : (execute ["run", "--asm", "SWAP"] : StateM Desk UInt32) =
      perform (.run "SWAP" none false false { assembly := true }) := rfl
  have hassemble : Whitespace.assemble "SWAP" = .ok (.ofInstructions [.plain .swap]) := rfl
  have hloads : Loads "SWAP" none false { assembly := true } bareDesk {} #[.plain .swap] _ :=
    ⟨{}, bareDesk, rfl, rfl, loadProgram_of_assemble _ rfl rfl hassemble⟩
  rw [hcommand, perform_run_of_loads false hloads]
  rcases @runLoaded_of_breaksAt
      { bareDesk with errors := "📝 Assembled 1 instructions\n" } _ _ _ _ _ _ false hbreaks trivial
    with ⟨hcode, herrors⟩
  refine ⟨hbreaks, hcode, herrors.trans ?_⟩
  decide +kernel

end CommandLine
end Whitespace
