import Whitespace.Proofs.Scanning
import Whitespace.Warning

/-!
# Reading undoes writing

A word is read as a program exactly when it is the symbols of that program,
followed in lenient mode by an instruction that is cut off.  Both directions
rest on one description of the scanner: which instructions it gives and in
which state it ends.
-/

namespace Whitespace

/-!
# Words that are cut off

The states in which the end of a word may find the scanner are the words that
stop inside an instruction.
-/

/-- A word that stops inside the symbols of some instruction. -/
def Cut (word : List Symbol) : Prop :=
  exists instruction : Instruction,
    word <+: instruction.symbols ∧ word ≠ instruction.symbols

theorem cut_of_append (instruction : Instruction) {word more : List Symbol}
    (hmore : more ≠ []) (hsymbols : word ++ more = instruction.symbols) : Cut word := by
  refine ⟨instruction, ⟨more, hsymbols⟩, ?_⟩
  intro hwhole
  rw [← hwhole] at hsymbols
  exact hmore (List.append_right_eq_self.mp hsymbols)

theorem exists_append_of_cut {word : List Symbol} (hcut : Cut word) :
    exists (instruction : Instruction) (more : List Symbol),
      more ≠ [] ∧ word ++ more = instruction.symbols := by
  rcases hcut with ⟨instruction, ⟨more, hsymbols⟩, hshort⟩
  refine ⟨instruction, more, ?_, hsymbols⟩
  intro hmore
  rw [hmore, List.append_nil] at hsymbols
  exact hshort hsymbols

theorem Instruction.exists_opcode (op : Opcode) :
    exists instruction : Instruction, instruction.opcode = op := by
  cases op with
  | plain op => exact ⟨.plain op, rfl⟩
  | number op => exact ⟨.number op ⟨[]⟩, rfl⟩
  | label op => exact ⟨.label op ⟨[]⟩, rfl⟩

theorem cut_of_inner {word : List Symbol} (hinner : Opcode.Inner word) : Cut word := by
  rcases hinner with ⟨op, ⟨more, hpath⟩, hshort⟩
  rcases Instruction.exists_opcode op with ⟨instruction, hop⟩
  have hmore : more ≠ [] := by
    intro hnil
    rw [hnil, List.append_nil] at hpath
    exact hshort hpath
  have hsymbols : word ++ (more ++ instruction.operandSymbols) = instruction.symbols := by
    rw [← List.append_assoc, hpath, Instruction.symbols, hop]
  exact cut_of_append instruction (List.append_ne_nil_of_left_ne_nil hmore _) hsymbols

namespace Scan

theorem cut_consumed {scan : Scan} (hopen : scan.Open) : Cut scan.consumed := by
  cases scan with
  | walking start node seen => exact cut_of_inner (inner_of_open hopen)
  | capturing start op digits =>
      -- Lenient reading makes an instruction of the digits.
      cases completes .lenient start op (mt List.mem_reverse.mp hopen) with
      | instruction instruction _hadmits hsymbols _hcomplete =>
          exact cut_of_append instruction (List.cons_ne_nil Symbol.lineFeed []) hsymbols.symm
      | emptyLabel _labelOp _hop hmode _hdigits _hcomplete => cases hmode

theorem exists_scan_of_operand {instruction : Instruction} {word more : List Symbol}
    (start : Nat) (hmore : more ≠ []) (hsymbols : word ++ more = instruction.operandSymbols) :
    exists scan : Scan, scan.Open ∧ scan.start = start ∧
      scan.consumed = instruction.opcode.path ++ word := by
  have hcapturing : forall (op : LiteralOp) (digits : List Bool),
      word ++ more = symbolsOfDigits digits ++ [Symbol.lineFeed] ->
        exists scan : Scan, scan.Open ∧ scan.start = start ∧
          scan.consumed = op.opcode.path ++ word := by
    intro op digits hdigits
    refine ⟨capturing start op word.reverse,
      mt List.mem_reverse.mp (lineFeed_not_mem_of_append hmore hdigits), rfl, ?_⟩
    rw [consumed, List.reverse_reverse]
  cases instruction with
  | plain op => exact absurd (List.append_eq_nil_iff.mp hsymbols).right hmore
  | number op operand => exact hcapturing (.number op) operand.digits hsymbols
  | label op operand => exact hcapturing (.label op) operand.digits hsymbols

theorem exists_scan_of_cut {word : List Symbol} (hcut : Cut word) (start : Nat) :
    exists scan : Scan, scan.Open ∧ scan.start = start ∧ scan.consumed = word := by
  rcases exists_append_of_cut hcut with ⟨instruction, more, hmore, hsymbols⟩
  rcases List.append_eq_append_iff.mp hsymbols with hinside | hafter
  · rcases hinside with ⟨gap, hpath, hrest⟩
    cases gap with
    | nil =>
        rw [List.append_nil] at hpath
        rw [← hpath, ← List.append_nil instruction.opcode.path]
        exact exists_scan_of_operand start hmore hrest
    | cons symbol gap =>
        have hinner : Opcode.Inner word := by
          refine ⟨instruction.opcode, ⟨_, hpath.symm⟩, ?_⟩
          intro hwhole
          rw [hwhole] at hpath
          exact List.cons_ne_nil symbol gap (List.append_right_eq_self.mp hpath.symm)
        rcases Opcode.exists_walk_eq_branch_iff.mpr hinner with ⟨node, hnode⟩
        exact ⟨walking start node word, hnode, rfl, rfl⟩
  · rcases hafter with ⟨read, hword, hoperand⟩
    rw [hword]
    exact exists_scan_of_operand start hmore hoperand.symm

/-!
# Whole words

A run that succeeds cuts what was consumed before it and the word after that
into instructions and the consumed part of the last state; every such cut is a
run.
-/

/-- Reading a word in one state gives instructions and ends in another state. -/
structure Reads (mode : Mode) (scan : Scan) (word : List Symbol)
    (instructions : List Instruction) (last : Scan) : Prop where
  last_open : last.Open
  last_start : last.start = scan.start + (instructions.flatMap Instruction.symbols).length
  split : scan.consumed ++ word = instructions.flatMap Instruction.symbols ++ last.consumed
  admits : forall instruction, instruction ∈ instructions -> mode.Admits instruction

theorem reads_nil (mode : Mode) {scan : Scan} (hopen : scan.Open) :
    Reads mode scan [] [] scan where
  last_open := hopen
  last_start := rfl
  split := List.append_nil _
  admits := by
    intro instruction hmem
    cases hmem

theorem Reads.longer {mode : Mode} {scan next last : Scan} {symbol : Symbol}
    {rest : List Symbol} {instructions : List Instruction}
    (hstart : next.start = scan.start) (hconsumed : next.consumed = scan.consumed ++ [symbol])
    (hreads : Reads mode next rest instructions last) :
    Reads mode scan (symbol :: rest) instructions last where
  last_open := hreads.last_open
  last_start := by
    rw [← hstart]
    exact hreads.last_start
  split := by
    rw [← hreads.split, hconsumed, List.append_assoc, List.singleton_append]
  admits := hreads.admits

theorem Reads.complete {mode : Mode} {scan last : Scan} {symbol : Symbol}
    {rest : List Symbol} {instruction : Instruction} {instructions : List Instruction}
    (hadmits : mode.Admits instruction)
    (hsymbols : instruction.symbols = scan.consumed ++ [symbol])
    (hreads : Reads mode (before (scan.offset + 1)) rest instructions last) :
    Reads mode scan (symbol :: rest) (instruction :: instructions) last where
  last_open := hreads.last_open
  last_start := by
    rw [hreads.last_start, List.flatMap_cons, List.length_append, hsymbols,
      List.length_append, List.length_singleton, ← Nat.add_assoc, ← Nat.add_assoc]
    rfl
  split := by
    have hrest : rest = instructions.flatMap Instruction.symbols ++ last.consumed :=
      hreads.split
    rw [List.flatMap_cons, hsymbols, List.append_assoc, List.append_assoc, ← hrest,
      List.singleton_append]
  admits := by
    intro other hmem
    cases hmem with
    | head => exact hadmits
    | tail _ hothers => exact hreads.admits other hothers

theorem finish_eq_ok_iff {mode : Mode} {scan : Scan} {instructions : List Instruction}
    {remnant : Option Remnant} :
    scan.finish mode = .ok (instructions, remnant) ↔
      instructions = [] ∧ remnant = scan.remnant ∧ (mode = .strict -> scan.remnant = none) := by
  cases mode with
  | lenient =>
      cases hremnant : scan.remnant with
      | none => simp [finish, hremnant, eq_comm]
      | some cut => simp [finish, hremnant, eq_comm]
  | strict =>
      cases hremnant : scan.remnant with
      | none => simp [finish, hremnant, eq_comm]
      | some cut =>
          cases cut with
          | opcode offset seen => simp [finish, hremnant]
          | literal offset op => simp [finish, hremnant]

theorem exists_of_emit_eq_ok {instruction : Instruction} {instructions : List Instruction}
    {remnant : Option Remnant}
    {result : Except DecodeError (List Instruction × Option Remnant)}
    (hemit : emit instruction result = .ok (instructions, remnant)) :
    exists others, instructions = instruction :: others ∧ result = .ok (others, remnant) := by
  cases result with
  | error error => cases hemit
  | ok pair =>
      rcases pair with ⟨others, left⟩
      cases hemit
      exact ⟨others, rfl, rfl⟩

theorem reads_of_run {mode : Mode} {scan : Scan} {word : List Symbol}
    {instructions : List Instruction} {remnant : Option Remnant} (hopen : scan.Open)
    (hrun : run mode scan scan.offset word = .ok (instructions, remnant)) :
    exists last : Scan, Reads mode scan word instructions last ∧
      last.finish mode = .ok ([], remnant) := by
  induction word generalizing scan instructions with
  | nil =>
      rw [run] at hrun
      have hnone : instructions = [] := (finish_eq_ok_iff.mp hrun).left
      subst hnone
      exact ⟨scan, reads_nil mode hopen, hrun⟩
  | cons symbol rest ih =>
      cases reaction mode hopen symbol rest with
      | longer next hnext hstart hconsumed hstep =>
          rw [hstep] at hrun
          rcases ih hnext hrun with ⟨last, hreads, hfinish⟩
          exact ⟨last, hreads.longer hstart hconsumed, hfinish⟩
      | complete instruction hadmits hsymbols hstep =>
          rw [hstep] at hrun
          rcases exists_of_emit_eq_ok hrun with ⟨others, hinstructions, hothers⟩
          have hbetween : (before (scan.offset + 1)).Open := open_before _
          rcases ih hbetween hothers with ⟨last, hreads, hfinish⟩
          rw [hinstructions]
          exact ⟨last, hreads.complete hadmits hsymbols, hfinish⟩
      | refused error hrefuses hstep =>
          rw [hstep] at hrun
          cases hrun

theorem run_append_of_reads {mode : Mode} {scan last : Scan} {word : List Symbol}
    {instructions : List Instruction} (hopen : scan.Open)
    (hreads : Reads mode scan word instructions last) (rest : List Symbol) :
    run mode scan scan.offset (word ++ rest) =
      instructions.foldr emit (run mode last last.offset rest) := by
  rw [← run_resume mode hopen, ← List.append_assoc, hreads.split, List.append_assoc,
    run_flatMap_symbols hreads.admits, ← hreads.last_start, run_resume mode hreads.last_open]

theorem run_of_reads {mode : Mode} {scan last : Scan} {word : List Symbol}
    {instructions : List Instruction} (hopen : scan.Open)
    (hreads : Reads mode scan word instructions last) :
    run mode scan scan.offset word = instructions.foldr emit (last.finish mode) := by
  have hwhole := run_append_of_reads hopen hreads []
  rw [List.append_nil, run] at hwhole
  exact hwhole

end Scan

/-!
# Reports and labels

The report of a cut instruction names the offset of its start, and strict reading
asks that the labels of a program have digits.
-/

def Remnant.offset : Remnant -> Nat
  | opcode offset _ => offset
  | literal offset _ => offset

theorem Scan.exists_remnant {scan : Scan} (hopen : scan.Open) (hconsumed : scan.consumed ≠ []) :
    exists remnant, scan.remnant = some remnant ∧ remnant.offset = scan.start := by
  cases scan with
  | walking start node seen =>
      exact ⟨_, if_neg (mt (eq_root_iff hopen).mp hconsumed), rfl⟩
  | capturing start op digits => exact ⟨_, rfl, rfl⟩

/-- No label of the program is written without digits. -/
def Program.LabelsWritten (program : Program) : Prop :=
  forall (op : LabelOp) (operand : Label),
    Instruction.label op operand ∈ program.toList -> operand.digits ≠ []

theorem Program.labelsWritten_iff {program : Program} :
    program.LabelsWritten ↔
      forall instruction, instruction ∈ program.toList -> Mode.strict.Admits instruction := by
  constructor
  · intro hwritten instruction hmem
    cases instruction with
    | plain op => trivial
    | number op operand => trivial
    | label op operand =>
        rintro ⟨_hmode, hdigits⟩
        exact hwritten op operand hmem hdigits
  · intro hadmits op operand hmem hdigits
    exact hadmits _ hmem ⟨rfl, hdigits⟩

/-!
# Programs

The two modes differ in what they make of the last state: lenient reading drops
what is cut off, strict reading wants nothing cut off, no empty label and an end
of the program.
-/

namespace Program

theorem decode_eq_ok_iff {mode : Mode} {word : List Symbol} {program : Program}
    {dropped : Option Remnant} :
    Program.decode mode word = .ok ⟨program, dropped⟩ ↔
      exists last : Scan, Scan.Reads mode (.before 0) word program.toList last ∧
        dropped = last.remnant ∧
          (mode = .strict -> last.remnant = none ∧ program.hasEnd = true) := by
  have hopen : (Scan.before 0).Open := Scan.open_before 0
  constructor
  · intro hdecode
    unfold decode at hdecode
    cases hrun : Scan.run mode (.before 0) 0 word with
    | error error =>
        rw [hrun] at hdecode
        cases hdecode
    | ok pair =>
        rcases pair with ⟨instructions, remnant⟩
        rw [hrun] at hdecode
        rcases Scan.reads_of_run hopen hrun with ⟨last, hreads, hfinish⟩
        rcases Scan.finish_eq_ok_iff.mp hfinish with ⟨_hnil, hremnant, hstrict⟩
        by_cases hend : mode = .strict ∧ Program.hasEnd instructions.toArray = false
        · simp only [if_pos hend] at hdecode
          cases hdecode
        · simp only [if_neg hend] at hdecode
          cases hdecode
          refine ⟨last, hreads, hremnant, ?_⟩
          intro hmode
          refine ⟨hstrict hmode, ?_⟩
          simpa [hmode] using hend
  · rintro ⟨last, hreads, hdropped, hstrict⟩
    have hfinish : last.finish mode = .ok ([], last.remnant) := by
      rw [Scan.finish_eq_ok_iff]
      exact ⟨rfl, rfl, fun hmode => (hstrict hmode).left⟩
    have hrun : Scan.run mode (.before 0) 0 word = .ok (program.toList, last.remnant) := by
      have hwhole := Scan.run_of_reads hopen hreads
      rw [hfinish, Scan.foldr_emit_ok, List.append_nil] at hwhole
      exact hwhole
    have hend : ¬(mode = .strict ∧ program.hasEnd = false) := by
      rintro ⟨hmode, hnoEnd⟩
      rw [(hstrict hmode).right] at hnoEnd
      cases hnoEnd
    unfold decode
    rw [hrun, hdropped]
    simp [hend]

theorem decode_lenient_eq_ok_iff {word : List Symbol} {program : Program}
    {dropped : Option Remnant} :
    Program.decode .lenient word = .ok ⟨program, dropped⟩ ↔
      exists last : Scan, last.Open ∧ last.start = program.symbols.length ∧
        word = program.symbols ++ last.consumed ∧ dropped = last.remnant := by
  rw [decode_eq_ok_iff]
  constructor
  · rintro ⟨last, hreads, hdropped, _hstrict⟩
    refine ⟨last, hreads.last_open, ?_, hreads.split, hdropped⟩
    rw [hreads.last_start]
    exact Nat.zero_add _
  · rintro ⟨last, hopen, hstart, hword, hdropped⟩
    refine ⟨last, ⟨hopen, ?_, hword, ?_⟩, hdropped, ?_⟩
    · rw [hstart]
      exact (Nat.zero_add _).symm
    · intro instruction _hmem
      exact Mode.lenient_admits instruction
    · intro hmode
      cases hmode

theorem decode_strict_eq_ok_iff {word : List Symbol} {program : Program}
    {dropped : Option Remnant} :
    Program.decode .strict word = .ok ⟨program, dropped⟩ ↔
      dropped = none ∧ word = program.symbols ∧ program.hasEnd = true ∧
        program.LabelsWritten := by
  rw [decode_eq_ok_iff, labelsWritten_iff]
  constructor
  · rintro ⟨last, hreads, hdropped, hstrict⟩
    rcases hstrict rfl with ⟨hnone, hend⟩
    have hword : word = program.symbols ++ last.consumed := hreads.split
    rw [(Scan.remnant_eq_none_iff hreads.last_open).mp hnone, List.append_nil] at hword
    exact ⟨hdropped.trans hnone, hword, hend, hreads.admits⟩
  · rintro ⟨hdropped, hword, hend, hadmits⟩
    refine ⟨.before program.symbols.length, ⟨Scan.open_before _, ?_, ?_, hadmits⟩, hdropped, ?_⟩
    · exact (Nat.zero_add _).symm
    · rw [hword]
      exact (List.append_nil _).symm
    · intro _hmode
      exact ⟨rfl, hend⟩

theorem decode_symbols_append (program : Program) {rest : List Symbol} (hcut : Cut rest) :
    exists last : Scan, last.Open ∧ last.start = program.symbols.length ∧ last.consumed = rest ∧
      Program.decode .lenient (program.symbols ++ rest) = .ok ⟨program, last.remnant⟩ := by
  rcases Scan.exists_scan_of_cut hcut program.symbols.length with
    ⟨last, hopen, hstart, hconsumed⟩
  refine ⟨last, hopen, hstart, hconsumed, ?_⟩
  rw [decode_lenient_eq_ok_iff]
  exact ⟨last, hopen, hstart, by rw [hconsumed], rfl⟩

theorem eq_of_symbols_append {left right : Program} {leftRest rightRest : List Symbol}
    (hleft : Cut leftRest) (hright : Cut rightRest)
    (hword : left.symbols ++ leftRest = right.symbols ++ rightRest) :
    left = right ∧ leftRest = rightRest := by
  rcases decode_symbols_append left hleft with ⟨_, _, _, _, hleftDecode⟩
  rcases decode_symbols_append right hright with ⟨_, _, _, _, hrightDecode⟩
  rw [hword, hrightDecode] at hleftDecode
  have hprogram : left = right := by
    injection hleftDecode with hreading
    injection hreading with hsame
    exact hsame.symm
  refine ⟨hprogram, ?_⟩
  rw [hprogram] at hword
  exact List.append_cancel_left hword

theorem decode_symbols (program : Program) :
    Program.decode .lenient program.symbols = .ok ⟨program, none⟩ := by
  rw [decode_lenient_eq_ok_iff]
  refine ⟨.before program.symbols.length, Scan.open_before _, rfl, ?_, rfl⟩
  exact (List.append_nil _).symm

/-!
# Writing and reading back

Digits are part of a program, so equal programs have the same digit strings.
-/

theorem decode_symbols_verbatim (program : Program) :
    Program.decode .lenient program.symbols = .ok ⟨program, none⟩ ∧
      forall dropped : Option Remnant,
        Program.decode .strict program.symbols = .ok ⟨program, dropped⟩ ↔
          dropped = none ∧ program.hasEnd = true ∧ program.LabelsWritten := by
  constructor
  · exact decode_symbols program
  · intro dropped
    rw [decode_strict_eq_ok_iff]
    constructor
    · rintro ⟨hdropped, _hword, hend, hwritten⟩
      exact ⟨hdropped, hend, hwritten⟩
    · rintro ⟨hdropped, hend, hwritten⟩
      exact ⟨hdropped, rfl, hend, hwritten⟩

/-!
# The grammar of words

What follows a program in a word that lenient reading accepts is cut off and is
reported once, at the offset where the program stops.
-/

theorem decode_grammar (word : List Symbol) (program : Program) :
    ((exists dropped, Program.decode .lenient word = .ok ⟨program, dropped⟩) ↔
      exists rest, word = program.symbols ++ rest ∧ Cut rest) ∧
    (forall (other : Program) (rest otherRest : List Symbol),
      word = program.symbols ++ rest -> Cut rest ->
      word = other.symbols ++ otherRest -> Cut otherRest ->
        other = program ∧ otherRest = rest) ∧
    (forall rest, word = program.symbols ++ rest -> Cut rest -> rest ≠ [] ->
      exists (reading : Reading) (remnant : Remnant),
        Program.decode .lenient word = .ok reading ∧ reading.program = program ∧
          reading.warnings = [Warning.dropped remnant] ∧
            remnant.offset = program.symbols.length) ∧
    ((exists dropped, Program.decode .strict word = .ok ⟨program, dropped⟩) ↔
      word = program.symbols ∧ program.hasEnd = true ∧ program.LabelsWritten) := by
  refine ⟨?_, ?_, ?_, ?_⟩
  · constructor
    · rintro ⟨dropped, hdecode⟩
      rcases decode_lenient_eq_ok_iff.mp hdecode with ⟨last, hopen, _hstart, hword, _hdropped⟩
      exact ⟨last.consumed, hword, Scan.cut_consumed hopen⟩
    · rintro ⟨rest, hword, hcut⟩
      rcases decode_symbols_append program hcut with ⟨last, _hopen, _hstart, _hconsumed, hdecode⟩
      rw [hword]
      exact ⟨last.remnant, hdecode⟩
  · intro other rest otherRest hword hcut hotherWord hotherCut
    exact eq_of_symbols_append hotherCut hcut (hotherWord.symm.trans hword)
  · intro rest hword hcut hrest
    rcases decode_symbols_append program hcut with ⟨last, hopen, hstart, hconsumed, hdecode⟩
    rw [← hconsumed] at hrest
    rcases Scan.exists_remnant hopen hrest with ⟨remnant, hremnant, hoffset⟩
    refine ⟨⟨program, last.remnant⟩, remnant, ?_, rfl, ?_, hoffset.trans hstart⟩
    · rw [hword]
      exact hdecode
    · rw [Reading.warnings, hremnant]
      rfl
  · constructor
    · rintro ⟨dropped, hdecode⟩
      exact (decode_strict_eq_ok_iff.mp hdecode).right
    · intro haccepted
      exact ⟨none, decode_strict_eq_ok_iff.mpr ⟨rfl, haccepted⟩⟩

/-- An addition, and two symbols that start another arithmetic instruction. -/
theorem decode_grammar_addition_cut :
    exists (reading : Reading) (remnant : Remnant),
      Program.decode .lenient (ofLetters "TSSSTS") = .ok reading ∧
        reading.program = #[.plain (.arithmetic .add)] ∧
          reading.warnings = [Warning.dropped remnant] ∧ remnant.offset = 4 := by
  have hcut : Cut [.tab, .space] :=
    ⟨.plain (.arithmetic .sub), by decide, by decide⟩
  exact (decode_grammar (ofLetters "TSSSTS") #[.plain (.arithmetic .add)]).right.right.left
    [.tab, .space] (by decide) hcut (by decide)

end Program
end Whitespace
