import Whitespace.Proofs.Reassembly

/-!
# Push sequences expanded

A push sequence stands for assembly lines, which are processed like all others.
Each of them is a push of one value, so none is a sequence again, and none has a
fault.
-/

namespace Whitespace

/-!
# Lines that push
-/

def pushing (value : Int) : Instruction :=
  .number .push (Number.ofInt value)

def pushStatement (value : Int) : Statement :=
  ⟨(Opcode.number .push).mnemonic.toList, some (toString value).toList⟩

theorem ofLine?_line (value : Int) :
    Statement.ofLine? (PushSequence.line value).toList = some (pushStatement value) := by
  have hline : (PushSequence.line value).toList =
      (Opcode.number .push).mnemonic.toList ++ ' ' :: (toString value).toList := by
    rw [PushSequence.line, String.toList_append]
    rfl
  rw [hline, Opcode.ofLine?_mnemonic_integer]
  rfl

theorem isName_pushStatement (value : Int) :
    PushSequence.isName (pushStatement value).word = false :=
  Opcode.isName_mnemonic (.number .push)

theorem instruction_pushStatement (value : Int) :
    (pushStatement value).instruction = .ok (pushing value) := by
  simp only [pushStatement, Statement.instruction, Opcode.ofMnemonic?_mnemonic,
    Argument.number_toString]
  rfl

theorem plainLine_line (value : Int) :
    plainLine (PushSequence.line value).toList = .ok [pushing value] := by
  rw [plainLine, ofLine?_line]
  simp only [instruction_pushStatement]
  rfl

theorem expandedLines_line (values : List Int) :
    expandedLines (values.map PushSequence.line) = .ok (values.map pushing) := by
  induction values with
  | nil => rfl
  | cons value values ih =>
      rw [List.map_cons, expandedLines, plainLine_line, ih]
      rfl

/-!
# Expansions

An argument that expands has values, and its lines are the pushes of these.
-/

namespace PushSequence

theorem values_trim (argument : List Char) : values (Text.trim argument) = values argument := by
  simp only [values, Text.trim_trim]

theorem exists_values_of_expand {argument : Option (List Char)} {lines : List String}
    (hexpand : expand argument = .ok lines) :
    exists (text : List Char) (values : List Int), argument = some text ∧
      PushSequence.values text = .ok values ∧ lines = values.map line := by
  cases argument with
  | none => cases hexpand
  | some text =>
      unfold expand at hexpand
      rw [Option.map_some, Option.filter_some] at hexpand
      by_cases hempty : (!(Text.trim text).isEmpty) = true
      · rw [if_pos hempty] at hexpand
        simp only [values_trim] at hexpand
        cases hvalues : values text with
        | error error =>
            rw [hvalues] at hexpand
            cases hexpand
        | ok found =>
            rw [hvalues] at hexpand
            cases hexpand
            exact ⟨text, found, rfl, hvalues, rfl⟩
      · rw [if_neg hempty] at hexpand
        cases hexpand

end PushSequence

/-!
# Statements

The instructions of a line depend on its statement alone.
-/

namespace Statement

def instructions (statement : Statement) : Except AssemblyFault (List Instruction) :=
  if PushSequence.isName statement.word then
    match PushSequence.expand statement.argument with
    | .error error => .error (.sequence error)
    | .ok lines => expandedLines lines
  else do
    return [<- statement.instruction]

section Ordinary

variable {statement : Statement} (hname : PushSequence.isName statement.word = false)
include hname

theorem instructions_of_ok {instruction : Instruction}
    (hinstruction : statement.instruction = .ok instruction) :
    statement.instructions = .ok [instruction] := by
  rw [instructions, hname, hinstruction]
  rfl

theorem instructions_of_error {fault : AssemblyFault}
    (hfault : statement.instruction = .error fault) :
    statement.instructions = .error fault := by
  rw [instructions, hname, hfault]
  rfl

end Ordinary

section Sequence

variable {statement : Statement} (hname : PushSequence.isName statement.word = true)
include hname

theorem instructions_of_expand_error {error : SequenceError}
    (hexpand : PushSequence.expand statement.argument = .error error) :
    statement.instructions = .error (.sequence error) := by
  rw [instructions, hname, if_pos rfl, hexpand]

theorem instructions_of_expand {values : List Int}
    (hexpand : PushSequence.expand statement.argument = .ok (values.map PushSequence.line)) :
    statement.instructions = .ok (values.map pushing) := by
  rw [instructions, hname, if_pos rfl, hexpand]
  exact expandedLines_line values

end Sequence

end Statement

theorem assembleLine_of_blank {line : List Char} (hline : Statement.ofLine? line = none) :
    assembleLine line = .ok [] := by
  rw [assembleLine, hline]

theorem assembleLine_eq_instructions {line : List Char} {statement : Statement}
    (hline : Statement.ofLine? line = some statement) :
    assembleLine line = statement.instructions := by
  rw [assembleLine, hline]
  rfl

/-!
# Processing lines

The rules by which a line is processed, without a bound on how often lines are
expanded.  A line is processed to the end exactly when a finite derivation says
so.
-/

mutual

inductive Processes : List Char -> Except AssemblyFault (List Instruction) -> Prop where
  | blank {line : List Char} (hline : Statement.ofLine? line = none) : Processes line (.ok [])
  | instruction {line : List Char} {statement : Statement} {instruction : Instruction}
      (hline : Statement.ofLine? line = some statement)
      (hname : PushSequence.isName statement.word = false)
      (hinstruction : statement.instruction = .ok instruction) :
      Processes line (.ok [instruction])
  | fault {line : List Char} {statement : Statement} {fault : AssemblyFault}
      (hline : Statement.ofLine? line = some statement)
      (hname : PushSequence.isName statement.word = false)
      (hfault : statement.instruction = .error fault) :
      Processes line (.error fault)
  | sequenceFault {line : List Char} {statement : Statement} {error : SequenceError}
      (hline : Statement.ofLine? line = some statement)
      (hname : PushSequence.isName statement.word = true)
      (hexpand : PushSequence.expand statement.argument = .error error) :
      Processes line (.error (.sequence error))
  | sequence {line : List Char} {statement : Statement} {lines : List String}
      {result : Except AssemblyFault (List Instruction)}
      (hline : Statement.ofLine? line = some statement)
      (hname : PushSequence.isName statement.word = true)
      (hexpand : PushSequence.expand statement.argument = .ok lines)
      (hlines : ProcessesAll lines result) :
      Processes line result

inductive ProcessesAll : List String -> Except AssemblyFault (List Instruction) -> Prop where
  | nil : ProcessesAll [] (.ok [])
  | fault {line : String} {fault : AssemblyFault} (rest : List String)
      (hline : Processes line.toList (.error fault)) :
      ProcessesAll (line :: rest) (.error fault)
  | laterFault {line : String} {rest : List String} {instructions : List Instruction}
      {fault : AssemblyFault} (hline : Processes line.toList (.ok instructions))
      (hrest : ProcessesAll rest (.error fault)) :
      ProcessesAll (line :: rest) (.error fault)
  | cons {line : String} {rest : List String} {instructions others : List Instruction}
      (hline : Processes line.toList (.ok instructions))
      (hrest : ProcessesAll rest (.ok others)) :
      ProcessesAll (line :: rest) (.ok (instructions ++ others))

end

theorem processes_line_iff (value : Int) {result : Except AssemblyFault (List Instruction)} :
    Processes (PushSequence.line value).toList result ↔ result = .ok [pushing value] := by
  constructor
  · intro hprocesses
    cases hprocesses with
    | blank hline =>
        rw [ofLine?_line] at hline
        cases hline
    | instruction hline hname hinstruction =>
        rw [ofLine?_line] at hline
        cases hline
        rw [instruction_pushStatement] at hinstruction
        cases hinstruction
        rfl
    | fault hline hname hfault =>
        rw [ofLine?_line] at hline
        cases hline
        rw [instruction_pushStatement] at hfault
        cases hfault
    | sequenceFault hline hname hexpand =>
        rw [ofLine?_line] at hline
        cases hline
        rw [isName_pushStatement] at hname
        cases hname
    | sequence hline hname hexpand hlines =>
        rw [ofLine?_line] at hline
        cases hline
        rw [isName_pushStatement] at hname
        cases hname
  · intro hresult
    rw [hresult]
    exact .instruction (ofLine?_line value) (isName_pushStatement value)
      (instruction_pushStatement value)

theorem processesAll_line_iff (values : List Int)
    {result : Except AssemblyFault (List Instruction)} :
    ProcessesAll (values.map PushSequence.line) result ↔ result = .ok (values.map pushing) := by
  induction values generalizing result with
  | nil =>
      constructor
      · intro hprocesses
        cases hprocesses
        rfl
      · intro hresult
        rw [hresult]
        exact .nil
  | cons value values ih =>
      constructor
      · intro hprocesses
        cases hprocesses with
        | fault _ hline => cases (processes_line_iff value).mp hline
        | laterFault hline hrest => cases ih.mp hrest
        | cons hline hrest =>
            cases (processes_line_iff value).mp hline
            cases ih.mp hrest
            rfl
      · intro hresult
        rw [hresult]
        exact .cons ((processes_line_iff value).mpr rfl) (ih.mpr rfl)

/-- Every line is processed to the end, in one way: the instructions of the line or its fault. -/
theorem processes_iff {line : List Char} {result : Except AssemblyFault (List Instruction)} :
    Processes line result ↔ assembleLine line = result := by
  constructor
  · intro hprocesses
    cases hprocesses with
    | blank hline => exact assembleLine_of_blank hline
    | instruction hline hname hinstruction =>
        rw [assembleLine_eq_instructions hline, Statement.instructions_of_ok hname hinstruction]
    | fault hline hname hfault =>
        rw [assembleLine_eq_instructions hline, Statement.instructions_of_error hname hfault]
    | sequenceFault hline hname hexpand =>
        rw [assembleLine_eq_instructions hline,
          Statement.instructions_of_expand_error hname hexpand]
    | sequence hline hname hexpand hlines =>
        rcases PushSequence.exists_values_of_expand hexpand with ⟨_, values, _, _, hpushes⟩
        rw [hpushes] at hlines hexpand
        rw [assembleLine_eq_instructions hline, Statement.instructions_of_expand hname hexpand,
          (processesAll_line_iff values).mp hlines]
  · intro hresult
    rw [← hresult]
    cases hline : Statement.ofLine? line with
    | none =>
        rw [assembleLine_of_blank hline]
        exact .blank hline
    | some statement =>
        rw [assembleLine_eq_instructions hline]
        cases hname : PushSequence.isName statement.word with
        | false =>
            cases hinstruction : statement.instruction with
            | error fault =>
                rw [Statement.instructions_of_error hname hinstruction]
                exact .fault hline hname hinstruction
            | ok instruction =>
                rw [Statement.instructions_of_ok hname hinstruction]
                exact .instruction hline hname hinstruction
        | true =>
            cases hexpand : PushSequence.expand statement.argument with
            | error error =>
                rw [Statement.instructions_of_expand_error hname hexpand]
                exact .sequenceFault hline hname hexpand
            | ok lines =>
                rcases PushSequence.exists_values_of_expand hexpand with
                  ⟨_, values, _, _, hpushes⟩
                rw [hpushes] at hexpand
                rw [Statement.instructions_of_expand hname hexpand]
                exact .sequence hline hname hexpand ((processesAll_line_iff values).mpr rfl)

end Whitespace
