import Mathlib.Data.List.Basic
import Whitespace.Proofs.Histories
import Whitespace.Proofs.Reading

/-!
# The order of input

Characters and numbers share one input.  Over any history the lines are taken in
order, each at most once, and the characters delivered are those of the lines
that were taken for them.  Where only characters are read they are the whole
text, its line ends made plain.
-/

namespace Whitespace
namespace Machine

variable {machine : Machine}

/-!
# What is due to a step
-/

theorem needsLine_of_none (hreading : machine.reading? = none) : machine.needsLine = false := by
  simp only [needsLine, hreading]

theorem needsLine_of_char (hreading : machine.reading? = some .char) :
    machine.needsLine = machine.memory.line.isEmpty := by
  simp only [needsLine, hreading]

theorem needsLine_of_number (hreading : machine.reading? = some .number) :
    machine.needsLine = true := by
  simp only [needsLine, hreading]

theorem taken_of_not_needsLine (hneeds : machine.needsLine = false) : machine.taken = [] := by
  simp only [taken, hneeds, Bool.false_eq_true, if_false]

theorem taken_of_buffered {c : Char} {chars : List Char} (hreading : machine.reading? = some .char)
    (hline : machine.memory.line = c :: chars) : machine.taken = [] := by
  apply taken_of_not_needsLine
  rw [needsLine_of_char hreading, hline, List.isEmpty_cons]

theorem taken_of_nil (hlines : machine.linesLeft = []) : machine.taken = [] := by
  simp only [taken, hlines, List.take_nil, ite_self]

theorem taken_of_cons {line : List Char} {rest : List (List Char)}
    (hneeds : machine.needsLine = true) (hlines : machine.linesLeft = line :: rest) :
    machine.taken = [line] := by
  simp only [taken, hneeds, if_true, hlines, List.take_succ_cons, List.take_zero]

theorem taken_of_empty {line : List Char} {rest : List (List Char)}
    (hreading : machine.reading? = some .char) (hempty : machine.memory.line = [])
    (hlines : machine.linesLeft = line :: rest) : machine.taken = [line] := by
  refine taken_of_cons ?_ hlines
  rw [needsLine_of_char hreading, hempty, List.isEmpty_nil]

theorem takenBy_of_reading {reader : Reader} (hreading : machine.reading? = some reader) :
    machine.takenBy reader = machine.taken :=
  if_pos hreading

theorem takenBy_of_ne {reader : Reader} (hreading : machine.reading? ≠ some reader) :
    machine.takenBy reader = [] :=
  if_neg hreading

theorem takenBy_of_nil {reader : Reader} (htaken : machine.taken = []) :
    machine.takenBy reader = [] := by
  rw [takenBy, htaken, ite_self]

theorem linesLeft_of_unread {other : Machine} {line : List Char} {input : Input}
    (hunread : unread other.memory = (line, input)) : other.linesLeft = input.lines :=
  congrArg (fun left => left.2.lines) hunread

theorem legible_of_unread {memory : Memory} {line : List Char} {input : Input}
    (hunread : unread memory = (line, input)) (hlegible : input.Legible) :
    memory.input.Legible := by
  rw [show memory.input = input from congrArg Prod.snd hunread]
  exact hlegible

/-!
# What a step accounts for

From what the next step can have to do with input follows, one fact after the
other, that it loses nothing of what is left to read and takes nothing twice.
-/

theorem legible_step (hlegible : machine.memory.input.Legible) :
    machine.step.2.memory.input.Legible := by
  cases intake hlegible with
  | apart _ hunread _ => exact legible_of_unread hunread hlegible
  | buffered _ _ _ _ hunread _ _ => exact legible_of_unread hunread hlegible
  | filled _ _ _ _ _ _ _ _ _ hinput _ hunread _ _ => exact legible_of_unread hunread hinput
  | numbered _ _ _ _ _ hinput _ hunread _ _ => exact legible_of_unread hunread hinput
  | ended _ _ hunread _ => exact legible_of_unread hunread hlegible

theorem linesLeft_step (hlegible : machine.memory.input.Legible) :
    machine.linesLeft = machine.taken ++ machine.step.2.linesLeft := by
  cases intake hlegible with
  | apart hreading hunread _ =>
      rw [taken_of_not_needsLine (needsLine_of_none hreading), linesLeft_of_unread hunread]
      rfl
  | buffered c chars hreading hline hunread _ _ =>
      rw [taken_of_buffered hreading hline, linesLeft_of_unread hunread]
      rfl
  | filled line rest c chars input hreading hempty hlines _ _ hleft hunread _ _ =>
      rw [taken_of_empty hreading hempty hlines, linesLeft_of_unread hunread, hleft, hlines]
      rfl
  | numbered line rest input hreading hlines _ hleft hunread _ _ =>
      rw [taken_of_cons (needsLine_of_number hreading) hlines, linesLeft_of_unread hunread, hleft,
        hlines]
      rfl
  | ended _ hlines hunread _ =>
      rw [taken_of_nil hlines, linesLeft_of_unread hunread]
      rfl

/-- The characters of the line at hand, and of the line that a character takes, are delivered or
still at hand. -/
theorem delivered_append_line (hlegible : machine.memory.input.Legible) :
    machine.delivered ++ machine.step.2.memory.line =
      machine.memory.line ++ (machine.takenBy .char).flatMap asDelivered := by
  have hline : forall {line : List Char} {input : Input},
      unread machine.step.2.memory = (line, input) -> machine.step.2.memory.line = line :=
    fun hunread => congrArg Prod.fst hunread
  cases intake hlegible with
  | apart hreading hunread _ =>
      have hne : machine.reading? ≠ some .char := by
        rw [hreading]
        exact (Option.some_ne_none _).symm
      rw [delivered_of_ne hne, takenBy_of_ne hne, hline hunread, List.flatMap_nil,
        List.append_nil, List.nil_append]
  | buffered c chars hreading hchars hunread hresult hstored =>
      rw [delivered_of_ok hreading hresult hstored, hline hunread,
        takenBy_of_nil (taken_of_buffered hreading hchars), hchars, List.flatMap_nil,
        List.append_nil]
      rfl
  | filled line rest c chars input hreading hempty hlines hchars _ _ hunread hresult hstored =>
      rw [delivered_of_ok hreading hresult hstored, hline hunread, takenBy_of_reading hreading,
        taken_of_empty hreading hempty hlines, hempty, List.flatMap_singleton, hchars]
      rfl
  | numbered line rest input hreading hlines _ _ hunread _ _ =>
      have hne : machine.reading? ≠ some .char := by
        rw [hreading]
        decide
      rw [delivered_of_ne hne, takenBy_of_ne hne, hline hunread, List.flatMap_nil,
        List.append_nil, List.nil_append]
  | ended _ hlines hunread hresult =>
      rw [delivered_of_error hresult, hline hunread, takenBy_of_nil (taken_of_nil hlines),
        List.flatMap_nil, List.append_nil, List.nil_append]

theorem ended_iff (hlegible : machine.memory.input.Legible) {reader : Reader}
    (hat : machine.program[machine.pc]? = some reader.instruction) :
    machine.step.1 = .error (.input .ended) ↔
      machine.needsLine = true ∧ machine.linesLeft = [] := by
  cases intake hlegible with
  | apart hreading _ hresult => simp [hresult reader hat, needsLine_of_none hreading]
  | buffered c chars hreading hline _ hresult _ =>
      simp [hresult, needsLine_of_char hreading, hline]
  | filled line rest _ _ _ _ _ hlines _ _ _ _ hresult _ => simp [hresult, hlines]
  | numbered line rest _ _ hlines _ _ _ hnumber htext =>
      cases hvalue : Text.readInteger? (Text.trim (Text.chomp line)) with
      | some value => simp [(hnumber value hvalue).left, hlines]
      | none => simp [htext hvalue, hlines]
  | ended hneeds hlines _ hresult => simp [hresult, hneeds, hlines]

theorem stored_of_char (hlegible : machine.memory.input.Legible)
    (hreading : machine.reading? = some .char)
    (hresult : machine.step.1 ≠ .error (.input .ended)) :
    exists c : Char, machine.step.1 = .ok (.plain .readChar) ∧
      machine.stored? = some (c.toNat : Int) ∧ machine.delivered = [c] := by
  cases intake hlegible with
  | apart hnone _ _ =>
      rw [hnone] at hreading
      cases hreading
  | buffered c _ _ _ _ hok hstored =>
      exact ⟨c, hok, hstored, delivered_of_ok hreading hok hstored⟩
  | filled _ _ c _ _ _ _ _ _ _ _ _ hok hstored =>
      exact ⟨c, hok, hstored, delivered_of_ok hreading hok hstored⟩
  | numbered _ _ _ hnumber _ _ _ _ _ _ =>
      rw [hnumber] at hreading
      cases hreading
  | ended _ _ _ hended => exact absurd hended hresult

theorem stored_of_number (hlegible : machine.memory.input.Legible)
    {line : List Char} (htaken : machine.takenBy .number = [line]) :
    (forall value, Text.readInteger? (Text.trim (Text.chomp line)) = some value ->
      machine.step.1 = .ok (.plain .readNumber) ∧ machine.stored? = some value) ∧
    (Text.readInteger? (Text.trim (Text.chomp line)) = none ->
      machine.step.1 =
        .error (.input (.notNumber (String.ofList (Text.trim (Text.chomp line)))))) := by
  cases intake hlegible with
  | numbered other rest input hreading hlines _ _ _ hnumber htext =>
      rw [takenBy_of_reading hreading, taken_of_cons (needsLine_of_number hreading) hlines]
        at htaken
      cases htaken
      exact ⟨hnumber, htext⟩
  | ended _ hlines _ _ =>
      rw [takenBy_of_nil (taken_of_nil hlines)] at htaken
      cases htaken
  | apart hreading _ _ =>
      rw [takenBy, hreading] at htaken
      cases htaken
  | buffered _ _ hreading _ _ _ _ =>
      rw [takenBy, hreading] at htaken
      cases htaken
  | filled _ _ _ _ _ hreading _ _ _ _ _ _ _ _ =>
      rw [takenBy, hreading] at htaken
      cases htaken

theorem drained_step (hlegible : machine.memory.input.Legible)
    (hline : machine.memory.line = []) (hlines : machine.linesLeft = []) :
    machine.step.2.memory.line = [] ∧ machine.step.2.linesLeft = [] := by
  have hleft := linesLeft_step hlegible
  have hchars := delivered_append_line hlegible
  rw [hlines] at hleft
  rw [hline, takenBy_of_nil (taken_of_nil hlines), List.flatMap_nil, List.nil_append] at hchars
  exact ⟨(List.append_eq_nil_iff.mp hchars).right, (List.append_eq_nil_iff.mp hleft.symm).right⟩

theorem drained_of_ended (hlegible : machine.memory.input.Legible)
    (hreading : machine.reading? = some .char)
    (hresult : machine.step.1 = .error (.input .ended)) :
    machine.memory.line = [] ∧ machine.linesLeft = [] := by
  have hat := (reading?_eq_some hreading).right.left
  rcases (ended_iff hlegible hat).mp hresult with ⟨hneeds, hlines⟩
  rw [needsLine_of_char hreading] at hneeds
  exact ⟨List.isEmpty_iff.mp hneeds, hlines⟩

/-!
# What a history takes

A step that reads is due at most one line.  The lines that the steps of a history
were due, put one after another, are the front of the lines of the input.
-/

/-- The next step of a machine takes what it is due from the lines left and from the line at
hand, and fails for want of input exactly when a line is due and none is left.  What it stores is
the character, or the number, that it has taken. -/
structure ReadsInTurn (machine : Machine) : Prop where
  lines : machine.linesLeft = machine.taken ++ machine.step.2.linesLeft
  chars : machine.delivered ++ machine.step.2.memory.line =
    machine.memory.line ++ (machine.takenBy .char).flatMap asDelivered
  ended : forall reader : Reader, machine.program[machine.pc]? = some reader.instruction ->
    (machine.step.1 = .error (.input .ended) ↔
      machine.needsLine = true ∧ machine.linesLeft = [])
  char : machine.reading? = some .char -> machine.step.1 ≠ .error (.input .ended) ->
    exists c : Char, machine.step.1 = .ok (.plain .readChar) ∧
      machine.stored? = some (c.toNat : Int) ∧ machine.delivered = [c]
  number : forall line, machine.takenBy .number = [line] ->
    (forall value, Text.readInteger? (Text.trim (Text.chomp line)) = some value ->
      machine.step.1 = .ok (.plain .readNumber) ∧ machine.stored? = some value) ∧
    (Text.readInteger? (Text.trim (Text.chomp line)) = none ->
      machine.step.1 =
        .error (.input (.notNumber (String.ofList (Text.trim (Text.chomp line))))))

theorem readsInTurn (hlegible : machine.memory.input.Legible) : ReadsInTurn machine where
  lines := linesLeft_step hlegible
  chars := delivered_append_line hlegible
  ended := fun _reader hat => ended_iff hlegible hat
  char := stored_of_char hlegible
  number := fun _line htaken => stored_of_number hlegible htaken

/-- The steps made so far account for the lines of the input and for the line at hand. -/
structure Accounts (program : Program) (lines : List (List Char)) (made : List Machine)
    (machine : Machine) : Prop where
  program_eq : machine.program = program
  legible : machine.memory.input.Legible
  programs : forall earlier, earlier ∈ made -> earlier.program = program
  turns : forall earlier, earlier ∈ made -> ReadsInTurn earlier
  lines_eq : lines = made.flatMap taken ++ machine.linesLeft
  chars_eq : made.flatMap delivered ++ machine.memory.line =
    (made.flatMap (takenBy .char)).flatMap asDelivered
  drained : forall earlier, earlier ∈ made -> earlier.reading? = some .char ->
    earlier.step.1 = .error (.input .ended) ->
      machine.memory.line = [] ∧ machine.linesLeft = []

theorem Accounts.step {program : Program} {lines : List (List Char)} {made : List Machine}
    (haccounts : Accounts program lines made machine) :
    Accounts program lines (made ++ [machine]) machine.step.2 := by
  have hlegible := haccounts.legible
  have heach : forall {property : Machine -> Prop}, (forall earlier, earlier ∈ made ->
      property earlier) -> property machine -> forall earlier, earlier ∈ made ++ [machine] ->
        property earlier := by
    intro property hmade hmachine earlier hmem
    rcases List.mem_append.mp hmem with hold | hnew
    · exact hmade earlier hold
    · rw [List.mem_singleton.mp hnew]
      exact hmachine
  constructor
  case program_eq => rw [program_step, haccounts.program_eq]
  case legible => exact legible_step hlegible
  case programs => exact heach haccounts.programs haccounts.program_eq
  case turns => exact heach haccounts.turns (readsInTurn hlegible)
  case lines_eq =>
      rw [List.flatMap_append, List.flatMap_singleton, List.append_assoc,
        ← linesLeft_step hlegible]
      exact haccounts.lines_eq
  case chars_eq =>
      rw [List.flatMap_append, List.flatMap_append, List.flatMap_append, List.flatMap_singleton,
        List.flatMap_singleton, List.append_assoc, delivered_append_line hlegible,
        ← List.append_assoc, haccounts.chars_eq]
  case drained =>
      refine heach ?_ ?_
      · intro earlier hmem hreading hended
        rcases haccounts.drained earlier hmem hreading hended with ⟨hline, hlines⟩
        exact drained_step hlegible hline hlines
      · intro hreading hended
        rcases drained_of_ended hlegible hreading hended with ⟨hline, hlines⟩
        exact drained_step hlegible hline hlines

theorem Accounts.quiet {program : Program} {lines : List (List Char)} {made : List Machine}
    {other : Machine} (haccounts : Accounts program lines made machine)
    (hprogram : other.program = machine.program)
    (hunread : unread other.memory = unread machine.memory) :
    Accounts program lines made other := by
  have hline : other.memory.line = machine.memory.line := congrArg Prod.fst hunread
  have hlines : other.linesLeft = machine.linesLeft := linesLeft_of_unread hunread
  constructor
  case program_eq => rw [hprogram, haccounts.program_eq]
  case legible => exact legible_of_unread hunread haccounts.legible
  case programs => exact haccounts.programs
  case turns => exact haccounts.turns
  case lines_eq => rw [hlines, ← haccounts.lines_eq]
  case chars_eq => rw [hline, haccounts.chars_eq]
  case drained =>
      rw [hline, hlines]
      exact haccounts.drained

theorem accounts_carried (program : Program) (lines : List (List Char)) :
    Carried (Accounts program lines) where
  step := fun _made _machine haccounts => haccounts.step
  withHost := fun _made _machine _host haccounts => haccounts.quiet rfl rfl
  seedStack := fun _made _machine _values haccounts => haccounts.quiet rfl rfl
  seedHeap := fun _made _machine _cells haccounts => haccounts.quiet rfl rfl
  raiseInterrupt := fun _made _machine haccounts => haccounts.quiet rfl rfl
  stopInterrupted := fun _made _machine haccounts => haccounts.quiet rfl rfl
  flushed := fun _made _machine haccounts => haccounts.quiet rfl rfl

theorem accounts_withConsole (program : Program) (text : String) (output : Output) :
    Accounts program (Text.rawLines text.toList) []
      (withConsole program (Input.ofString text) output) where
  program_eq := rfl
  legible := Input.legible_ofString text
  programs := fun _earlier hmem => absurd hmem List.not_mem_nil
  turns := fun _earlier hmem => absurd hmem List.not_mem_nil
  lines_eq := congrArg Text.rawLines (Input.text_ofString text).symm
  chars_eq := rfl
  drained := fun _earlier hmem => absurd hmem List.not_mem_nil

theorem taken_eq_takenBy {program : Program} {lines : List (List Char)} {made : List Machine}
    (haccounts : Accounts program lines made machine)
    (hnumbers : Instruction.plain .readNumber ∉ program) :
    made.flatMap taken = made.flatMap (takenBy .char) := by
  apply List.flatMap_congr
  intro earlier hmem
  cases hreading : earlier.reading? with
  | none =>
      have hnothing := taken_of_not_needsLine (needsLine_of_none hreading)
      rw [hnothing, takenBy_of_nil hnothing]
  | some reader =>
      cases reader with
      | char => rw [takenBy_of_reading hreading]
      | number =>
          have hat := (reading?_eq_some hreading).right.left
          rw [haccounts.programs earlier hmem] at hat
          exact absurd (Array.mem_of_getElem? hat) hnumbers

theorem input_in_order (program : Program) (text : String) (output : Output)
    (operations : List Operation)
    (hkeeps : forall operation, operation ∈ operations -> operation ≠ .reset) :
    let start := withConsole program (Input.ofString text) output
    let made := start.attempts operations
    let last := start.replay operations
    (forall machine, machine ∈ made -> ReadsInTurn machine) ∧
      Text.rawLines text.toList = made.flatMap taken ++ last.linesLeft ∧
      made.flatMap delivered ++ last.memory.line =
        (made.flatMap (takenBy .char)).flatMap asDelivered ∧
      (Instruction.plain .readNumber ∉ program ->
        made.flatMap delivered ++ last.memory.line ++
            Text.closeLast (Text.dropReturns last.memory.input.text) =
          Text.closeLast (Text.dropReturns text.toList) ∧
        ((exists machine, machine ∈ made ∧ machine.reading? = some .char ∧
            machine.step.1 = .error (.input .ended)) ->
          made.flatMap delivered = Text.closeLast (Text.dropReturns text.toList))) := by
  intro start made last
  have haccounts : Accounts program (Text.rawLines text.toList) ([] ++ made) last :=
    (accounts_carried program _).replay (accounts_withConsole program text output) hkeeps
  rw [List.nil_append] at haccounts
  refine ⟨haccounts.turns, haccounts.lines_eq, haccounts.chars_eq, ?_⟩
  intro hnumbers
  have hwhole : made.flatMap delivered ++ last.memory.line ++
      Text.closeLast (Text.dropReturns last.memory.input.text) =
        Text.closeLast (Text.dropReturns text.toList) := by
    rw [← Text.flatMap_chomp_rawLines, ← Text.flatMap_chomp_rawLines, haccounts.lines_eq,
      List.flatMap_append, taken_eq_takenBy haccounts hnumbers, haccounts.chars_eq]
    rfl
  refine ⟨hwhole, ?_⟩
  rintro ⟨machine, hmem, hreading, hended⟩
  rcases haccounts.drained machine hmem hreading hended with ⟨hline, hlines⟩
  have hrest : last.memory.input.text = [] := Text.rawLines_eq_nil_iff.mp hlines
  rw [hline, hrest] at hwhole
  rw [← hwhole, List.append_nil]
  exact (List.append_nil _).symm

def reads (readers : List Reader) : Machine :=
  withConsole (readers.map Reader.instruction).toArray (Input.ofString "a\r\n12\nc") Output.empty

theorem input_in_order_reads :
    let operations : List Operation := [.seedStack [0, 1, 2, 3, 4, 5, 6, 7], .runLimited 9]
    let mixed := reads [.char, .number, .char, .char, .number]
    let chars := reads [.char, .char, .char, .char, .char, .char, .char, .char]
    (mixed.attempts operations).flatMap delivered ++ (mixed.replay operations).memory.line =
        "a\nc\n".toList ∧
      (exists machine, machine ∈ mixed.attempts operations ∧ machine.memory.line = ['\n'] ∧
        machine.step.1 = .error (.input .ended)) ∧
      (chars.attempts operations).flatMap delivered = "a\n12\nc\n".toList := by
  intro operations mixed chars
  have hkeeps : forall operation, operation ∈ operations -> operation ≠ .reset := by
    simp [operations]
  have hmixed := input_in_order mixed.program "a\r\n12\nc" Output.empty operations hkeeps
  have hchars := input_in_order chars.program "a\r\n12\nc" Output.empty operations hkeeps
  have hlines : (mixed.attempts operations).flatMap (takenBy .char) =
      ["a\r\n".toList, "c".toList] := by
    decide +kernel
  refine ⟨?_, ?_, ?_⟩
  · exact hmixed.right.right.left.trans (congrArg (List.flatMap asDelivered) hlines)
  · decide +kernel
  · refine ((hchars.right.right.right ?_).right ?_).trans ?_
    -- no number is read, the eighth character is wanted in vain, and the text made plain
    · decide +kernel
    · decide +kernel
    · decide +kernel

end Machine
end Whitespace
