import Whitespace.Proofs.Decoding

/-!
# Where reading fails

A word is rejected at the first symbol that the scanner refuses, or at its end.
Either way the part before the instruction in question is the word of a program,
and the report names the offset where that part stops.
-/

namespace Whitespace
namespace Scan

/-!
# Rejected words
-/

inductive Rejects (mode : Mode) (scan : Scan) : List Symbol -> DecodeError -> Prop where
  | symbol {front : List Symbol} {symbol : Symbol} (rest : List Symbol)
      {instructions : List Instruction} {last : Scan} {error : DecodeError}
      (hreads : Reads mode scan front instructions last)
      (hrefuses : Refuses mode last symbol error) :
      Rejects mode scan (front ++ symbol :: rest) error
  | ending {word : List Symbol} {instructions : List Instruction} {last : Scan}
      {error : DecodeError} (hreads : Reads mode scan word instructions last)
      (hfinish : last.finish mode = .error error) :
      Rejects mode scan word error

theorem Rejects.longer {mode : Mode} {scan next : Scan} {symbol : Symbol} {rest : List Symbol}
    {error : DecodeError} (hstart : next.start = scan.start)
    (hconsumed : next.consumed = scan.consumed ++ [symbol])
    (hrejects : Rejects mode next rest error) : Rejects mode scan (symbol :: rest) error := by
  cases hrejects with
  | symbol rest hreads hrefuses => exact .symbol rest (hreads.longer hstart hconsumed) hrefuses
  | ending hreads hfinish => exact .ending (hreads.longer hstart hconsumed) hfinish

theorem Rejects.complete {mode : Mode} {scan : Scan} {symbol : Symbol} {rest : List Symbol}
    {instruction : Instruction} {error : DecodeError} (hadmits : mode.Admits instruction)
    (hsymbols : instruction.symbols = scan.consumed ++ [symbol])
    (hrejects : Rejects mode (before (scan.offset + 1)) rest error) :
    Rejects mode scan (symbol :: rest) error := by
  cases hrejects with
  | symbol rest hreads hrefuses => exact .symbol rest (hreads.complete hadmits hsymbols) hrefuses
  | ending hreads hfinish => exact .ending (hreads.complete hadmits hsymbols) hfinish

theorem eq_error_of_emit {instruction : Instruction} {error : DecodeError}
    {result : Except DecodeError (List Instruction × Option Remnant)}
    (hemit : emit instruction result = .error error) : result = .error error := by
  cases result with
  | error other =>
      cases hemit
      rfl
  | ok pair => cases hemit

theorem foldr_emit_error (instructions : List Instruction) (error : DecodeError) :
    instructions.foldr emit (.error error) = .error error := by
  induction instructions with
  | nil => rfl
  | cons instruction instructions ih =>
      rw [List.foldr_cons, ih]
      rfl

theorem rejects_of_run {mode : Mode} {scan : Scan} {word : List Symbol} {error : DecodeError}
    (hopen : scan.Open) (hrun : run mode scan scan.offset word = .error error) :
    Rejects mode scan word error := by
  induction word generalizing scan with
  | nil =>
      rw [run] at hrun
      exact .ending (reads_nil mode hopen) hrun
  | cons symbol rest ih =>
      cases reaction mode hopen symbol rest with
      | longer next hnext hstart hconsumed hstep =>
          rw [hstep] at hrun
          exact (ih hnext hrun).longer hstart hconsumed
      | complete instruction hadmits hsymbols hstep =>
          rw [hstep] at hrun
          have hbetween : (before (scan.offset + 1)).Open := open_before _
          exact (ih hbetween (eq_error_of_emit hrun)).complete hadmits hsymbols
      | refused other hrefuses hstep =>
          rw [hstep] at hrun
          cases hrun
          exact .symbol rest (reads_nil mode hopen) hrefuses

theorem run_eq_error_iff {mode : Mode} {scan : Scan} {word : List Symbol} {error : DecodeError}
    (hopen : scan.Open) :
    run mode scan scan.offset word = .error error ↔ Rejects mode scan word error := by
  constructor
  · exact rejects_of_run hopen
  · intro hrejects
    cases hrejects with
    | symbol rest hreads hrefuses =>
        rw [run_append_of_reads hopen hreads, run_of_refuses hrefuses, foldr_emit_error]
    | ending hreads hfinish => rw [run_of_reads hopen hreads, hfinish, foldr_emit_error]

/-!
# Ends that are refused

Lenient reading refuses no end; strict reading refuses every end inside an
instruction.
-/

inductive CutOff : Scan -> DecodeError -> Prop where
  | opcode {start node : Nat} {seen : List Symbol} (hnode : node ≠ CodeTree.root) :
      CutOff (walking start node seen) (.cutOpcode start seen)
  | literal {start : Nat} {op : LiteralOp} {digits : List Symbol} :
      CutOff (capturing start op digits) (.cutLiteral start op.opcode)

theorem finish_eq_error_iff {mode : Mode} {scan : Scan} {error : DecodeError} :
    scan.finish mode = .error error ↔ mode = .strict ∧ CutOff scan error := by
  constructor
  · intro hfinish
    cases mode with
    | lenient =>
        cases hremnant : scan.remnant <;> simp [finish, hremnant] at hfinish
    | strict =>
        refine ⟨rfl, ?_⟩
        cases scan with
        | walking start node seen =>
            by_cases hnode : node = CodeTree.root
            · have hremnant : (walking start node seen).remnant = none := if_pos hnode
              simp only [finish, hremnant] at hfinish
              cases hfinish
            · have hremnant : (walking start node seen).remnant = some (.opcode start seen) :=
                if_neg hnode
              simp only [finish, hremnant] at hfinish
              cases hfinish
              exact .opcode hnode
        | capturing start op digits =>
            cases hfinish
            exact .literal
  · rintro ⟨hmode, hcut⟩
    rw [hmode]
    cases hcut with
    | @opcode start node seen hnode =>
        have hremnant : (walking start node seen).remnant = some (.opcode start seen) :=
          if_neg hnode
        simp only [finish, hremnant]
    | literal => rfl

end Scan

/-!
# Programs before the fault

From the start of a word the scanner reads the word of a program and what the
last state has consumed after it.
-/

namespace Program

theorem exists_program_of_reads {mode : Mode} {word : List Symbol}
    {instructions : List Instruction} {last : Scan}
    (hreads : Scan.Reads mode (.before 0) word instructions last) :
    exists program : Program,
      (forall instruction, instruction ∈ program.toList -> mode.Admits instruction) ∧
        program.symbols.length = last.start ∧ word = program.symbols ++ last.consumed := by
  refine ⟨instructions.toArray, hreads.admits, ?_, hreads.split⟩
  rw [hreads.last_start]
  exact (Nat.zero_add _).symm

theorem reads_symbols {mode : Mode} {program : Program} (last : Scan) (hopen : last.Open)
    (hstart : program.symbols.length = last.start)
    (hadmits : forall instruction, instruction ∈ program.toList -> mode.Admits instruction) :
    Scan.Reads mode (.before 0) (program.symbols ++ last.consumed) program.toList last where
  last_open := hopen
  last_start := by
    rw [← hstart]
    exact (Nat.zero_add _).symm
  split := rfl
  admits := hadmits

theorem decode_of_rejects {mode : Mode} {word : List Symbol} {error : DecodeError}
    (hrejects : Scan.Rejects mode (.before 0) word error) :
    Program.decode mode word = .error error := by
  have hopen : (Scan.before 0).Open := Scan.open_before 0
  have hrun : Scan.run mode (.before 0) 0 word = .error error :=
    (Scan.run_eq_error_iff hopen).mpr hrejects
  rw [decode, hrun]

/-- A word that is not rejected can still be a program that never ends. -/
theorem rejects_of_decode {mode : Mode} {word : List Symbol} {error : DecodeError}
    (hdecode : Program.decode mode word = .error error) :
    Scan.Rejects mode (.before 0) word error ∨ mode = .strict ∧ error = .missingEnd := by
  have hopen : (Scan.before 0).Open := Scan.open_before 0
  unfold decode at hdecode
  cases hrun : Scan.run mode (.before 0) 0 word with
  | error other =>
      rw [hrun] at hdecode
      cases hdecode
      exact Or.inl ((Scan.run_eq_error_iff hopen).mp hrun)
  | ok pair =>
      rcases pair with ⟨instructions, dropped⟩
      rw [hrun] at hdecode
      by_cases hend : mode = .strict ∧ Program.hasEnd instructions.toArray = false
      · simp only [if_pos hend] at hdecode
        cases hdecode
        exact Or.inr ⟨hend.left, rfl⟩
      · simp only [if_neg hend] at hdecode
        cases hdecode

theorem decode_eq_error_iff {mode : Mode} {word : List Symbol} {error : DecodeError}
    (hfault : error ≠ .missingEnd) :
    Program.decode mode word = .error error ↔ Scan.Rejects mode (.before 0) word error := by
  constructor
  · intro hdecode
    exact (rejects_of_decode hdecode).resolve_right fun hmissing => hfault hmissing.right
  · exact decode_of_rejects

/-!
# What each report says
-/

theorem eq_unknownOpcode_of_lenient {word : List Symbol} {error : DecodeError}
    (hdecode : Program.decode .lenient word = .error error) :
    exists (offset : Nat) (path : List Symbol), error = .unknownOpcode offset path := by
  rcases rejects_of_decode hdecode with hrejects | ⟨hmode, _hmissing⟩
  · cases hrejects with
    | symbol rest hreads hrefuses =>
        cases hrefuses with
        | opcode hcloses => exact ⟨_, _, rfl⟩
        | label hmode => cases hmode
    | ending hreads hfinish => cases (Scan.finish_eq_error_iff.mp hfinish).left
  · cases hmode

theorem decode_ne_badLiteral (mode : Mode) (word : List Symbol) (offset : Nat) (op : Opcode)
    (error : LiteralError) :
    Program.decode mode word ≠ .error (.badLiteral offset op error) := by
  intro hdecode
  cases (decode_eq_error_iff DecodeError.noConfusion).mp hdecode with
  | symbol rest hreads hrefuses => cases hrefuses
  | ending hreads hfinish => cases (Scan.finish_eq_error_iff.mp hfinish).right

theorem decode_eq_unknownOpcode_iff {mode : Mode} {word : List Symbol} {offset : Nat}
    {path : List Symbol} :
    Program.decode mode word = .error (.unknownOpcode offset path) ↔
      exists (program : Program) (rest : List Symbol),
        (forall instruction, instruction ∈ program.toList -> mode.Admits instruction) ∧
          program.symbols.length = offset ∧ word = program.symbols ++ path ++ rest ∧
            Opcode.Inner path.dropLast ∧ forall op : Opcode, ¬ path <+: op.path := by
  rw [decode_eq_error_iff DecodeError.noConfusion]
  constructor
  · intro hrejects
    cases hrejects with
    | symbol rest hreads hrefuses =>
        cases hrefuses with
        | opcode hslot =>
            rcases exists_program_of_reads hreads with ⟨program, hadmits, hstart, hfront⟩
            have hwalk := CodeTree.walk_of_branch hreads.last_open
            refine ⟨program, rest, hadmits, hstart, ?_, ?_, ?_⟩
            · rw [hfront, Scan.consumed, List.append_cons, List.append_assoc program.symbols]
            · rw [List.dropLast_concat]
              exact Scan.inner_of_open hreads.last_open
            · exact Opcode.walk_eq_empty_iff.mp ((hwalk _).trans hslot)
    | ending hreads hfinish => cases (Scan.finish_eq_error_iff.mp hfinish).right
  · rintro ⟨program, rest, hadmits, hstart, hword, hinner, hastray⟩
    have hpath : path ≠ [] := by
      intro hnil
      rw [hnil] at hastray
      exact hastray (.number .push) List.nil_prefix
    have hlast : path.dropLast ++ [path.getLast hpath] = path :=
      List.dropLast_concat_getLast hpath
    rcases Opcode.exists_walk_eq_branch_iff.mpr hinner with ⟨node, hnode⟩
    have hslot : Opcode.tree.slot node (path.getLast hpath) = .empty := by
      rw [← CodeTree.walk_of_branch hnode, hlast]
      exact Opcode.walk_eq_empty_iff.mpr hastray
    have hreads : Scan.Reads mode (.before 0) (program.symbols ++ path.dropLast)
        program.toList (.walking offset node path.dropLast) :=
      reads_symbols (.walking offset node path.dropLast) hnode hstart hadmits
    have hrejects := Scan.Rejects.symbol rest hreads (.opcode hslot)
    rw [List.append_cons, List.append_assoc program.symbols, hlast] at hrejects
    rw [hword]
    exact hrejects

theorem decode_eq_emptyLabel_iff {word : List Symbol} {offset : Nat} {op : Opcode} :
    Program.decode .strict word = .error (.emptyLabel offset op) ↔
      exists (program : Program) (rest : List Symbol) (labelOp : LabelOp),
        program.LabelsWritten ∧ program.symbols.length = offset ∧ op = .label labelOp ∧
          word = program.symbols ++ op.path ++ Symbol.lineFeed :: rest := by
  rw [decode_eq_error_iff DecodeError.noConfusion]
  constructor
  · intro hrejects
    cases hrejects with
    | symbol rest hreads hrefuses =>
        cases hrefuses with
        | label hmode =>
            rcases exists_program_of_reads hreads with ⟨program, hadmits, hstart, hfront⟩
            refine ⟨program, rest, _, labelsWritten_iff.mpr hadmits, hstart, rfl, ?_⟩
            rw [hfront, Scan.consumed, List.reverse_nil, List.append_nil, LiteralOp.opcode]
    | ending hreads hfinish => cases (Scan.finish_eq_error_iff.mp hfinish).right
  · rintro ⟨program, rest, labelOp, hwritten, hstart, hop, hword⟩
    have hreads := reads_symbols (.capturing offset (.label labelOp) []) List.not_mem_nil hstart
      (labelsWritten_iff.mp hwritten)
    rw [Scan.consumed, List.reverse_nil, List.append_nil] at hreads
    rw [hword, hop]
    exact .symbol rest hreads (.label rfl)

theorem decode_eq_cutOpcode_iff {word : List Symbol} {offset : Nat} {path : List Symbol} :
    Program.decode .strict word = .error (.cutOpcode offset path) ↔
      exists program : Program, program.LabelsWritten ∧ program.symbols.length = offset ∧
        word = program.symbols ++ path ∧ path ≠ [] ∧ Opcode.Inner path := by
  rw [decode_eq_error_iff DecodeError.noConfusion]
  constructor
  · intro hrejects
    cases hrejects with
    | symbol rest hreads hrefuses => cases hrefuses
    | ending hreads hfinish =>
        cases (Scan.finish_eq_error_iff.mp hfinish).right with
        | opcode hnode =>
            rcases exists_program_of_reads hreads with ⟨program, hadmits, hstart, hword⟩
            exact ⟨program, labelsWritten_iff.mpr hadmits, hstart, hword,
              mt (Scan.eq_root_iff hreads.last_open).mpr hnode,
              Scan.inner_of_open hreads.last_open⟩
  · rintro ⟨program, hwritten, hstart, hword, hpath, hinner⟩
    rcases Opcode.exists_walk_eq_branch_iff.mpr hinner with ⟨node, hnode⟩
    have hopen : (Scan.walking offset node path).Open := hnode
    have hreads : Scan.Reads .strict (.before 0) (program.symbols ++ path) program.toList
        (.walking offset node path) :=
      reads_symbols (.walking offset node path) hopen hstart (labelsWritten_iff.mp hwritten)
    have hinside : node ≠ CodeTree.root := mt (Scan.eq_root_iff hopen).mp hpath
    rw [hword]
    exact .ending hreads (Scan.finish_eq_error_iff.mpr ⟨rfl, .opcode hinside⟩)

theorem decode_eq_cutLiteral_iff {word : List Symbol} {offset : Nat} {op : Opcode} :
    Program.decode .strict word = .error (.cutLiteral offset op) ↔
      exists (program : Program) (digits : List Symbol), program.LabelsWritten ∧
        program.symbols.length = offset ∧ (forall plain, op ≠ .plain plain) ∧
          Symbol.lineFeed ∉ digits ∧ word = program.symbols ++ op.path ++ digits := by
  rw [decode_eq_error_iff DecodeError.noConfusion]
  constructor
  · intro hrejects
    cases hrejects with
    | symbol rest hreads hrefuses => cases hrefuses
    | ending hreads hfinish =>
        rcases exists_program_of_reads hreads with ⟨program, hadmits, hstart, hword⟩
        have hwritten := labelsWritten_iff.mpr hadmits
        have hopen := hreads.last_open
        cases (Scan.finish_eq_error_iff.mp hfinish).right with
        | @literal _ op digits =>
            refine ⟨program, digits.reverse, hwritten, hstart, ?_, mt List.mem_reverse.mp hopen, ?_⟩
            · intro plain
              cases op <;> exact Opcode.noConfusion
            · rw [hword, Scan.consumed, List.append_assoc]
  · rintro ⟨program, digits, hwritten, hstart, hoperand, hfree, hword⟩
    have hliteral : exists literal : LiteralOp, literal.opcode = op := by
      cases op with
      | plain plain => exact absurd rfl (hoperand plain)
      | number op => exact ⟨.number op, rfl⟩
      | label op => exact ⟨.label op, rfl⟩
    rcases hliteral with ⟨literal, hop⟩
    have hreads := @reads_symbols .strict program (.capturing offset literal digits.reverse)
      (mt List.mem_reverse.mp hfree) hstart (labelsWritten_iff.mp hwritten)
    rw [Scan.consumed, List.reverse_reverse, hop] at hreads
    rw [hword, List.append_assoc, ← hop]
    rw [← hop] at hreads
    exact .ending hreads (Scan.finish_eq_error_iff.mpr ⟨rfl, .literal⟩)

/-!
# Offsets of faults
-/

/-- From an offset on, a word leaves the paths of all opcodes: what stands before is the word of
a program, and the path there goes astray with its last symbol. -/
structure StraysAt (word : List Symbol) (offset : Nat) (path : List Symbol) : Prop where
  before : exists program : Program, word.take offset = program.symbols
  spelled : (word.drop offset).take path.length = path
  astray : forall op : Opcode, ¬ path <+: op.path
  inner : Opcode.Inner path.dropLast

theorem straysAt_of_split {program : Program} {path rest : List Symbol}
    (hinner : Opcode.Inner path.dropLast) (hastray : forall op : Opcode, ¬ path <+: op.path) :
    StraysAt (program.symbols ++ path ++ rest) program.symbols.length path where
  before := ⟨program, by rw [List.append_assoc, List.take_left]⟩
  spelled := by rw [List.append_assoc, List.drop_left, List.take_left]
  astray := hastray
  inner := hinner

theorem decode_errors_located (word : List Symbol) :
    (forall error : DecodeError, Program.decode .lenient word = .error error ->
      exists (offset : Nat) (path : List Symbol), error = .unknownOpcode offset path) ∧
    (forall (mode : Mode) (offset : Nat) (path : List Symbol),
      Program.decode mode word = .error (.unknownOpcode offset path) ->
        StraysAt word offset path ∧
          forall stream : List Symbol, word.take (offset + path.length) <+: stream ->
            Program.decode mode stream = .error (.unknownOpcode offset path)) ∧
    (forall (offset : Nat) (op : Opcode),
      Program.decode .strict word = .error (.emptyLabel offset op) ↔
        exists (program : Program) (rest : List Symbol) (labelOp : LabelOp),
          program.LabelsWritten ∧ program.symbols.length = offset ∧ op = .label labelOp ∧
            word = program.symbols ++ op.path ++ Symbol.lineFeed :: rest) ∧
    (forall (offset : Nat) (path : List Symbol),
      Program.decode .strict word = .error (.cutOpcode offset path) ↔
        exists program : Program, program.LabelsWritten ∧ program.symbols.length = offset ∧
          word = program.symbols ++ path ∧ path ≠ [] ∧ Opcode.Inner path) ∧
    (forall (offset : Nat) (op : Opcode),
      Program.decode .strict word = .error (.cutLiteral offset op) ↔
        exists (program : Program) (digits : List Symbol), program.LabelsWritten ∧
          program.symbols.length = offset ∧ (forall plain, op ≠ .plain plain) ∧
            Symbol.lineFeed ∉ digits ∧ word = program.symbols ++ op.path ++ digits) ∧
    (forall (mode : Mode) (offset : Nat) (op : Opcode) (error : LiteralError),
      Program.decode mode word ≠ .error (.badLiteral offset op error)) := by
  refine ⟨fun error => eq_unknownOpcode_of_lenient, ?_, fun offset op => decode_eq_emptyLabel_iff,
    fun offset path => decode_eq_cutOpcode_iff, fun offset op => decode_eq_cutLiteral_iff,
    fun mode => decode_ne_badLiteral mode word⟩
  intro mode offset path hdecode
  rcases decode_eq_unknownOpcode_iff.mp hdecode with
    ⟨program, rest, hadmits, hstart, hword, hinner, hastray⟩
  rw [hword, ← hstart]
  refine ⟨straysAt_of_split hinner hastray, ?_⟩
  intro stream hstream
  rw [← List.length_append, List.take_left] at hstream
  rcases hstream with ⟨more, hmore⟩
  exact decode_eq_unknownOpcode_iff.mpr
    ⟨program, more, hadmits, rfl, hmore.symm, hinner, hastray⟩

end Program
end Whitespace
