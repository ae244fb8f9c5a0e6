import Whitespace.Proofs.Endings
import Whitespace.Proofs.Expansion
import Whitespace.Proofs.Lines
import Whitespace.Proofs.Reading
import Whitespace.Proofs.Sequences

/-!
# Printing a text

A quoted text is pushed by one assembly line and printed by a line for each of
its characters.  The characters come off the stack in the order opposite to that
of their pushes, so the text is printed as it stands if it was pushed reversed.
-/

namespace Whitespace

/-!
# Straight-line code

Instructions that all let control go on to the next one are executed from first
to last, and a program that ends with them is finished then.
-/

inductive Performs (host : Host) : List Instruction -> Memory -> Memory -> Prop where
  | nil (memory : Memory) : Performs host [] memory memory
  | cons {instruction : Instruction} {rest : List Instruction} {memory middle after : Memory}
      (hperform : instruction.perform host memory = (.ok .next, middle))
      (hrest : Performs host rest middle after) :
      Performs host (instruction :: rest) memory after

theorem Performs.append {host : Host} {first second : List Instruction}
    {memory middle after : Memory} (hfirst : Performs host first memory middle)
    (hsecond : Performs host second middle after) :
    Performs host (first ++ second) memory after := by
  induction hfirst with
  | nil memory => exact hsecond
  | cons hperform _hrest ih => exact .cons hperform (ih hsecond)

namespace Machine

structure StandsBefore (machine : Machine) (code : List Instruction) : Prop where
  program : exists front, machine.program.toList = front ++ code ∧ machine.pc = front.length
  status : machine.status = if code = [] then .finished else .running

theorem standsBefore_withConsole (program : Program) (input : Input) (output : Output) :
    StandsBefore (withConsole program input output) program.toList where
  program := ⟨[], rfl, rfl⟩
  status := by
    show initialStatus program = _
    unfold initialStatus
    simp only [Array.isEmpty_iff, Array.toList_eq_nil_iff]

theorem StandsBefore.step {machine : Machine} {instruction : Instruction}
    {rest : List Instruction} {memory : Memory}
    (hstands : StandsBefore machine (instruction :: rest))
    (hperform : instruction.perform machine.host machine.memory = (.ok .next, memory)) :
    exists next, machine.step = (.ok instruction, next) ∧ StandsBefore next rest ∧
      next.host = machine.host ∧ next.memory = memory := by
  rcases hstands.program with ⟨front, hprogram, hpc⟩
  have hrunning : machine.status = .running := by
    rw [hstands.status, if_neg (List.cons_ne_nil _ _)]
  have hat : machine.program[machine.pc]? = some instruction := by
    rw [← Array.getElem?_toList, hprogram, hpc]
    simp
  have hsize : machine.program.size = front.length + 1 + rest.length := by
    rw [← Array.length_toList, hprogram, List.length_append, List.length_cons]
    omega
  have hstep : machine.step =
      (.ok instruction,
        { machine with pc := machine.pc + 1, memory := memory }.complete instruction) := by
    rw [step_of_running hrunning hat]
    exact execute_of_done hperform rfl
  refine ⟨_, hstep, ⟨⟨front ++ [instruction], ?_, ?_⟩, ?_⟩, rfl, rfl⟩
  · rw [List.append_assoc]
    exact hprogram
  · show machine.pc + 1 = _
    rw [hpc, List.length_append, List.length_singleton]
  · simp only [complete, hrunning, hsize, hpc, true_and]
    cases rest with
    | nil => simp
    | cons next rest => simp

theorem executes_of_performs {machine : Machine} {code : List Instruction} {after : Memory}
    (hstands : StandsBefore machine code)
    (hperforms : Performs machine.host code machine.memory after) :
    exists last, Executes machine code last ∧ last.status = .finished ∧ last.memory = after := by
  induction code generalizing machine with
  | nil =>
      cases hperforms
      exact ⟨machine, .nil machine, by rw [hstands.status, if_pos rfl], rfl⟩
  | cons instruction rest ih =>
      cases hperforms with
      | cons hperform hrest =>
          rcases hstands.step hperform with ⟨next, hstep, hnext, hhost, hmemory⟩
          rw [← hhost, ← hmemory] at hrest
          rcases ih hnext hrest with ⟨last, hexecutes, hfinished, hlast⟩
          exact ⟨last, .cons hstep hexecutes, hfinished, hlast⟩

end Machine

/-!
# Pushes and prints
-/

theorem performs_pushes (host : Host) (values : List Int) (memory : Memory) :
    Performs host (values.map pushing) memory
      { memory with stack := memory.stack.pushAll values } := by
  induction values generalizing memory with
  | nil => exact .nil memory
  | cons value values ih =>
      have hpush : (pushing value).perform host memory =
          (.ok .next, { memory with stack := memory.stack.push value }) := by
        rw [pushing, Instruction.perform, Number.value_ofInt]
        rfl
      have hrest := ih { memory with stack := memory.stack.push value }
      have hstack : (memory.stack.push value).pushAll values =
          memory.stack.pushAll (value :: values) := by
        simp [Stack.push, Stack.pushAll]
      rw [hstack] at hrest
      exact .cons hpush hrest

def codes (chars : List Char) : List Int :=
  chars.map fun c => (c.toNat : Int)

theorem codes_reverse (chars : List Char) : codes chars.reverse = (codes chars).reverse :=
  List.map_reverse

theorem charOfCode?_toNat (c : Char) : charOfCode? (c.toNat : Int) = some c := by
  have hvalid : c.toNat.isValidChar := c.valid
  rw [charOfCode?, if_pos ⟨Int.natCast_nonneg _, hvalid⟩, Int.toNat_natCast, Char.ofNat_toNat]

def Output.Collects (output : Output) : Prop :=
  forall text, output.destination.write output.state text = (none, output.state)

theorem Output.Collects.write {output : Output} (hcollects : output.Collects) (text : String) :
    output.write text = (.ok (), { output with text := output.text ++ text }) := by
  rw [Output.write, hcollects text]

theorem perform_printChar (host : Host) {c : Char} {rest : List Int} {memory : Memory}
    (hstack : memory.stack.items = (c.toNat : Int) :: rest)
    (hcollects : memory.output.Collects) :
    (Instruction.plain .printChar).perform host memory =
      (.ok .next,
        { memory with
          stack := ⟨rest⟩
          output := { memory.output with text := memory.output.text ++ c.toString } }) := by
  have hprint : Instruction.printChar memory =
      (.ok (),
        { memory with
          stack := ⟨rest⟩
          output := { memory.output with text := memory.output.text ++ c.toString } }) := by
    rw [Instruction.printChar, Action.bind_eq_of_ok (Action.pop_of_cons hstack)]
    simp only [charOfCode?_toNat]
    have hwrite := hcollects.write c.toString
    rw [Action.write, Action.onOutput_of_ok (by rw [hwrite]), hwrite]
  exact Action.bind_eq_of_ok hprint

theorem performs_prints (host : Host) {chars : List Char} {rest : List Int} {memory : Memory}
    (hstack : memory.stack.items = codes chars ++ rest)
    (hcollects : memory.output.Collects) :
    Performs host (List.replicate chars.length (.plain .printChar)) memory
      { memory with
        stack := ⟨rest⟩
        output := { memory.output with text := memory.output.text ++ String.ofList chars } } := by
  induction chars generalizing memory with
  | nil =>
      have hsame : { memory with
          stack := ⟨rest⟩
          output := { memory.output with text := memory.output.text ++ String.ofList [] } } =
            memory := by
        have hitems : memory.stack = ⟨rest⟩ := by
          rw [← List.nil_append rest]
          exact congrArg Stack.mk hstack
        rw [← hitems]
        simp
      rw [hsame]
      exact .nil memory
  | cons c chars ih =>
      have hrest := @ih
        { memory with
          stack := ⟨codes chars ++ rest⟩
          output := { memory.output with text := memory.output.text ++ c.toString } } rfl hcollects
      have htext : memory.output.text ++ c.toString ++ String.ofList chars =
          memory.output.text ++ String.ofList (c :: chars) := by
        rw [String.append_assoc, String.ofList_cons]
        rfl
      rw [htext] at hrest
      exact .cons (perform_printChar host hstack hcollects) hrest

/-- Instructions that print characters; the last of them is pushed first. -/
def printer (chars : List Char) : List Instruction :=
  (codes chars.reverse).map pushing ++
    List.replicate chars.length (Instruction.plain .printChar)

theorem performs_printer (host : Host) (chars : List Char) (input : Input) :
    Performs host (printer chars) ⟨.empty, .empty, [], input, .empty⟩
      ⟨.empty, .empty, [], input, { Output.empty with text := String.ofList chars }⟩ := by
  have hpushed : (Stack.empty.pushAll (codes chars.reverse)).items = codes chars ++ [] := by
    simp [Stack.pushAll, Stack.empty, codes_reverse]
  have hprints := @performs_prints host chars []
    ⟨Stack.empty.pushAll (codes chars.reverse), .empty, [], input, .empty⟩ hpushed fun _text => rfl
  have htext : "" ++ String.ofList chars = String.ofList chars := String.empty_append
  exact (performs_pushes host (codes chars.reverse) _).append (htext ▸ hprints)

/-!
# Quoted arguments

Comment marks and other quotes inside a quoted text are no marks.  A backslash
before the closing quote hides that quote, which is the last character all the
same.
-/

def quotedArgument (tilde : Bool) (chars : List Char) : List Char :=
  (if tilde then ['~'] else []) ++ '"' :: (chars ++ ['"'])

theorem uncommented_quoted {chars : List Char} (hquote : '"' ∉ chars) :
    uncommented (.inside '"') (chars ++ ['"']) = chars ++ ['"'] ∧
      uncommented (.escaped '"') (chars ++ ['"']) = chars ++ ['"'] := by
  induction chars with
  | nil => exact ⟨rfl, rfl⟩
  | cons c chars ih =>
      rw [List.mem_cons, not_or] at hquote
      rcases ih hquote.right with ⟨hinside, hescaped⟩
      rw [List.cons_append]
      refine ⟨?_, ?_⟩
      · rw [uncommented, if_neg (Ne.symm hquote.left), hinside, hescaped, ite_self]
      · rw [uncommented, hinside]

theorem quotedArgument_ne_nil (tilde : Bool) (chars : List Char) :
    quotedArgument tilde chars ≠ [] := by
  simp [quotedArgument]

theorem getLast?_quotedArgument (tilde : Bool) (chars : List Char) :
    (quotedArgument tilde chars).getLast? = some '"' := by
  rw [quotedArgument, ← List.cons_append, ← List.append_assoc]
  exact List.getLast?_concat

theorem trim_quotedArgument (tilde : Bool) (chars : List Char) :
    Text.trim (quotedArgument tilde chars) = quotedArgument tilde chars := by
  apply Text.trim_eq_self
  · intro c hfirst
    cases tilde with
    | true =>
        cases hfirst
        decide
    | false =>
        cases hfirst
        decide
  · intro c hlast
    rw [getLast?_quotedArgument] at hlast
    cases hlast
    decide

namespace PushSequence

theorem values_quotedArgument (tilde : Bool) {chars : List Char} (hline : '\n' ∉ chars) :
    values (quotedArgument tilde chars) =
      .ok (if tilde then (codes chars).reverse else codes chars) := by
  have hreversal : reversal (quotedArgument tilde chars) =
      (tilde, '"' :: (chars ++ ['"'])) := by
    cases tilde with
    | true => exact congrArg (Prod.mk true) (Text.trimStart_cons (by decide) _)
    | false => rfl
  have hbody : Sequence (reversal (Text.trim (quotedArgument tilde chars))).2 (codes chars) := by
    rw [trim_quotedArgument, hreversal]
    exact .text hline
  rw [values_of_sequence hbody, trim_quotedArgument, hreversal]

theorem expand_quotedArgument (tilde : Bool) {chars : List Char} (hline : '\n' ∉ chars) :
    expand (some (quotedArgument tilde chars)) =
      .ok ((if tilde then (codes chars).reverse else codes chars).map line) := by
  have hnonempty : (quotedArgument tilde chars).isEmpty = false :=
    List.isEmpty_eq_false_iff.mpr (quotedArgument_ne_nil tilde chars)
  unfold expand
  rw [Option.map_some, trim_quotedArgument, Option.filter_some, hnonempty]
  simp only [Bool.not_false, if_true, values_quotedArgument tilde hline]
  rfl

end PushSequence

/-!
# The lines of the source
-/

theorem uncommented_quotedArgument {front chars : List Char} (tilde : Bool)
    (hfront : forall c, c ∈ front -> isMark c = false) (hquote : '"' ∉ chars) :
    uncommented .outside (front ++ quotedArgument tilde chars) =
      front ++ quotedArgument tilde chars := by
  have htilde : forall c, c ∈ (if tilde then ['~'] else []) -> isMark c = false := by
    intro c hmem
    cases tilde with
    | true =>
        rw [List.mem_singleton.mp hmem]
        decide
    | false => cases hmem
  have hquoted : uncommented .outside ('"' :: (chars ++ ['"'])) = '"' :: (chars ++ ['"']) := by
    rw [uncommented, if_pos (Or.inl rfl), (uncommented_quoted hquote).left]
  rw [uncommented_append hfront, quotedArgument, uncommented_append htilde, hquoted]

theorem ofLine?_quotedArgument {word chars : List Char} (tilde : Bool) (hword : word ≠ [])
    (hordinary : forall c, c ∈ word -> isOrdinary c = true) (hquote : '"' ∉ chars) :
    Statement.ofLine? (word ++ ' ' :: quotedArgument tilde chars) =
      some ⟨word, some (quotedArgument tilde chars)⟩ := by
  have hmark : forall c, c ∈ word ++ [' '] -> isMark c = false := by
    intro c hmem
    rcases List.mem_append.mp hmem with hinWord | hspace
    · exact isMark_of_isOrdinary (hordinary c hinWord)
    · rw [List.mem_singleton.mp hspace]
      decide
  have hkept := uncommented_quotedArgument tilde hmark hquote
  rw [List.append_assoc, List.singleton_append] at hkept
  have htrim : Text.trim (word ++ ' ' :: quotedArgument tilde chars) =
      word ++ ' ' :: quotedArgument tilde chars := by
    apply Text.trim_eq_self
    · intro c hfirst
      rw [List.head?_append_of_ne_nil word hword] at hfirst
      exact isBlank_of_isOrdinary (hordinary c (List.mem_of_head? hfirst))
    · intro c hlast
      rw [List.getLast?_append_of_ne_nil word (List.cons_ne_nil _ _),
        List.getLast?_cons_of_ne_nil (quotedArgument_ne_nil tilde chars),
        getLast?_quotedArgument] at hlast
      cases hlast
      decide
  have hsplit : Text.splitWord (word ++ ' ' :: quotedArgument tilde chars) =
      (word, quotedArgument tilde chars) :=
    Text.splitWord_append (fun c hmem => isBlank_of_isOrdinary (hordinary c hmem)) (by decide) _
  rw [Statement.ofLine?_of_splitWord (by rw [hkept, htrim]) (by simp) hsplit,
    trim_quotedArgument, if_neg (quotedArgument_ne_nil tilde chars)]

theorem assembleLine_quotedArgument (tilde : Bool) {chars : List Char} (hquote : '"' ∉ chars)
    (hline : '\n' ∉ chars) :
    assembleLine (PushSequence.name.toList ++ ' ' :: quotedArgument tilde chars) =
      .ok ((if tilde then (codes chars).reverse else codes chars).map pushing) := by
  have hname : PushSequence.isName PushSequence.name.toList = true := by decide
  have hordinary : PushSequence.name.toList.all isOrdinary = true := by decide
  rw [assembleLine,
    ofLine?_quotedArgument tilde (by decide) (List.all_eq_true.mp hordinary) hquote]
  simp only [hname, if_true, PushSequence.expand_quotedArgument tilde hline, expandedLines_line]

/-!
# The source
-/

def printingLines (tilde : Bool) (text : String) : List String :=
  ("PUSHS " ++ (if tilde then "~" else "") ++ "\"" ++ text ++ "\"") ::
    List.replicate text.length "PCHR"

def printing (tilde closed : Bool) (text : String) : String :=
  "\n".intercalate (printingLines tilde text) ++ if closed then "\n" else ""

theorem toList_printingLines (tilde : Bool) (text : String) :
    (printingLines tilde text).map String.toList =
      (PushSequence.name.toList ++ ' ' :: quotedArgument tilde text.toList) ::
        (List.replicate text.toList.length (Instruction.plain .printChar)).map
          fun instruction => instruction.text.toList := by
  have hword : "PUSHS ".toList = PushSequence.name.toList ++ [' '] := by decide
  have htilde : (if tilde then "~" else "").toList = if tilde then ['~'] else [] := by
    cases tilde <;> rfl
  have hfirst : ("PUSHS " ++ (if tilde then "~" else "") ++ "\"" ++ text ++ "\"").toList =
      PushSequence.name.toList ++ ' ' :: quotedArgument tilde text.toList := by
    simp [hword, htilde, quotedArgument]
  rw [printingLines, List.map_cons, hfirst, List.map_replicate, List.map_replicate,
    String.length_toList]
  rfl

theorem isContent_printingLines (tilde : Bool) {chars : List Char} (hline : '\n' ∉ chars)
    {content : List Char}
    (hmem : content ∈ (PushSequence.name.toList ++ ' ' :: quotedArgument tilde chars) ::
      (List.replicate chars.length (Instruction.plain .printChar)).map
        fun instruction => instruction.text.toList) : Text.IsContent content := by
  rcases List.mem_cons.mp hmem with hfirst | hrest
  · have hname : '\n' ∉ PushSequence.name.toList := by decide
    rw [hfirst]
    constructor
    case nonempty => simp
    case lineFeed =>
      cases tilde with
      | true => simp [hname, quotedArgument, hline]
      | false => simp [hname, quotedArgument, hline]
    case last =>
      rw [List.getLast?_append_of_ne_nil _ (List.cons_ne_nil _ _),
        List.getLast?_cons_of_ne_nil (quotedArgument_ne_nil tilde chars),
        getLast?_quotedArgument]
      decide
  · rw [List.map_replicate] at hrest
    rw [List.eq_of_mem_replicate hrest]
    exact ⟨by decide, by decide, by decide⟩

theorem lines_printing (tilde closed : Bool) {text : String} (hline : '\n' ∉ text.toList) :
    Text.lines (printing tilde closed text).toList =
      (PushSequence.name.toList ++ ' ' :: quotedArgument tilde text.toList) ::
        (List.replicate text.toList.length (Instruction.plain .printChar)).map
          fun instruction => instruction.text.toList := by
  have hclosed : (if closed then "\n" else "").toList = if closed then ['\n'] else [] := by
    cases closed <;> rfl
  rw [printing, String.toList_append, String.toList_intercalate, toList_printingLines, hclosed]
  exact Text.lines_intercalate closed fun content hmem =>
    isContent_printingLines tilde hline hmem

theorem assemble_printing (tilde closed : Bool) {text : String} (hquote : '"' ∉ text.toList)
    (hline : '\n' ∉ text.toList) :
    assemble (printing tilde closed text) =
      .ok (.ofInstructions (printer (if tilde then text.toList else text.toList.reverse))) := by
  have hprints : forall count : Nat,
      (List.replicate count (Instruction.plain .printChar)).map Instruction.canonical =
        List.replicate count (Instruction.plain .printChar) := by
    intro count
    rw [List.map_replicate]
    rfl
  apply assemble_of_lines
  rw [lines_printing tilde closed hline,
    assembleLines_cons (assembleLine_quotedArgument tilde hquote hline), assembleLines_texts,
    hprints]
  cases tilde with
  | true =>
      rw [if_pos rfl, if_pos rfl, printer, codes_reverse]
      rfl
  | false =>
      rw [if_neg Bool.false_ne_true, if_neg Bool.false_ne_true, printer, List.reverse_reverse,
        List.length_reverse]
      rfl

/-!
# Printed texts
-/

namespace Machine

/-- The source makes a program that writes the output and nothing else: whatever it could read
or call, it is finished with an empty stack and an empty heap. -/
def Prints (source output : String) : Prop :=
  exists assembly, assemble source = .ok assembly ∧
    forall (input : Input) (host : Host), exists last,
      RunsTo ((withConsole assembly.program input .empty).withHost host) (.ok ()) last ∧
        ((withConsole assembly.program input .empty).withHost host).run =
          (.ok assembly.program.size, last) ∧
        last.status = .finished ∧ last.memory.stack = .empty ∧ last.memory.heap = .empty ∧
          last.memory.output.text = output

theorem prints_of_printer {source : String} {chars : List Char}
    (hassembled : assemble source = .ok (.ofInstructions (printer chars))) :
    Prints source (String.ofList chars) := by
  refine ⟨_, hassembled, ?_⟩
  intro input host
  have hstands := standsBefore_withConsole (printer chars).toArray input .empty
  rcases @executes_of_performs
    ((withConsole (printer chars).toArray input .empty).withHost host) _ _
    ⟨hstands.program, hstands.status⟩ (performs_printer host chars input) with
    ⟨last, hexecutes, hfinished, hmemory⟩
  have hends := Ends.stopped hexecutes (by rw [hfinished]; decide)
  have hplace : last.memory.output.destination.IsMemory := by
    rw [hmemory]
    exact Destination.isMemory_steady
  rcases flush_of_memory hplace with ⟨haccepted, hflushed⟩
  have hruns := runsTo_of_stopped hends haccepted
  have hrun := run_of_stopped hends rfl haccepted
  rw [hflushed] at hruns hrun
  refine ⟨last, hruns, hrun, hfinished, ?_, ?_, ?_⟩
  · rw [hmemory]
  · rw [hmemory]
  · rw [hmemory]

theorem printing_prints_text (text : String) (closed : Bool) (hquote : '"' ∉ text.toList)
    (hline : '\n' ∉ text.toList) :
    Prints (printing true closed text) text ∧
      Prints (printing false closed text) (String.ofList text.toList.reverse) := by
  have hforward := prints_of_printer (assemble_printing true closed hquote hline)
  have hbackward := prints_of_printer (assemble_printing false closed hquote hline)
  rw [if_pos rfl, String.ofList_toList] at hforward
  exact ⟨hforward, hbackward⟩

/-- Comment marks, quotes, a backslash at the end: none of them disturbs the text. -/
theorem printing_prints_text_marks :
    '"' ∉ "a#;'~[\t\x00\r\\".toList ∧ '\n' ∉ "a#;'~[\t\x00\r\\".toList ∧
      Prints (printing true false "a#;'~[\t\x00\r\\") "a#;'~[\t\x00\r\\" ∧
        Prints (printing false true "a#;'~[\t\x00\r\\") "\\\r\x00\t[~';#a" := by
  refine ⟨by decide, by decide, ?_, ?_⟩
  · exact (printing_prints_text _ false (by decide) (by decide)).left
  · exact (printing_prints_text "a#;'~[\t\x00\r\\" true (by decide) (by decide)).right

end Machine
end Whitespace
