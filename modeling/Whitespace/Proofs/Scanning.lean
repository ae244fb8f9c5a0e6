import Mathlib.Data.List.Induction
import Whitespace.Program.Decoding
import Whitespace.Proofs.CodeTree
import Whitespace.Proofs.Spelling

/-!
# What the scanner has read

A state of the scanner stands for the symbols of the current instruction that
were read so far.  Reading on from a state is the same as reading those symbols
again from the start of the instruction, so a word can be cut into instructions
without looking at the states in between.
-/

namespace Whitespace

/-!
# Paths
-/

namespace Opcode

theorem inner_of_append_singleton {seen : List Symbol} {symbol : Symbol} {op : Opcode}
    (hpath : op.path = seen ++ [symbol]) : Inner seen := by
  refine ⟨op, ?_, ?_⟩
  · rw [hpath]
    exact List.prefix_append seen [symbol]
  · intro hsame
    have hlength := congrArg List.length (hsame.trans hpath)
    rw [List.length_append, List.length_singleton] at hlength
    omega

theorem exists_path_snoc (op : Opcode) :
    exists (seen : List Symbol) (symbol : Symbol), op.path = seen ++ [symbol] :=
  ⟨_, _, (List.dropLast_concat_getLast op.path_ne_nil).symm⟩

end Opcode

/-!
# Digits

The digits of an operand are symbols other than the line feed that ends them.
-/

theorem Number.lineFeed_not_mem_symbols (number : Number) :
    Symbol.lineFeed ∉ number.symbols :=
  (exists_digits_iff _).mp ⟨number.digits, rfl⟩

theorem Number.exists_symbols_eq {word : List Symbol} (hfree : Symbol.lineFeed ∉ word) :
    exists number : Number, number.symbols = word := by
  rcases (exists_digits_iff word).mpr hfree with ⟨digits, hword⟩
  exact ⟨⟨digits⟩, hword.symm⟩

theorem Label.exists_symbols_eq {word : List Symbol} (hfree : Symbol.lineFeed ∉ word) :
    exists label : Label, label.symbols = word := by
  rcases (exists_digits_iff word).mpr hfree with ⟨digits, hword⟩
  exact ⟨⟨digits⟩, hword.symm⟩

theorem Label.lineFeed_not_mem_symbols (label : Label) : Symbol.lineFeed ∉ label.symbols :=
  (exists_digits_iff _).mp ⟨label.digits, rfl⟩

theorem Label.symbols_eq_nil_iff (label : Label) : label.symbols = [] ↔ label.digits = [] :=
  List.map_eq_nil_iff

theorem lineFeed_not_mem_of_append {word more : List Symbol} {digits : List Bool}
    (hmore : more ≠ []) (hsymbols : word ++ more = symbolsOfDigits digits ++ [Symbol.lineFeed]) :
    Symbol.lineFeed ∉ word := by
  rcases List.prefix_concat_iff.mp ⟨more, hsymbols⟩ with hwhole | hinside
  · rw [hwhole] at hsymbols
    exact absurd (List.append_right_eq_self.mp hsymbols) hmore
  · intro hmem
    exact (exists_digits_iff _).mp ⟨digits, rfl⟩ (hinside.subset hmem)

/-!
# Instructions and modes

Strict reading refuses labels without digits; lenient reading takes every
instruction.
-/

def Mode.Admits (mode : Mode) : Instruction -> Prop
  | .label _ operand => ¬(mode = .strict ∧ operand.digits = [])
  | _ => True

theorem Mode.lenient_admits (instruction : Instruction) : Mode.lenient.Admits instruction := by
  cases instruction with
  | plain op => trivial
  | number op operand => trivial
  | label op operand =>
      rintro ⟨hmode, _hdigits⟩
      cases hmode

namespace Scan

/-!
# States as words

The offset of a state is the number of symbols in front of it.  A state is open
when it stands inside an instruction: what it has read of a path is inside some
path, and what it has read of an operand holds no line feed.
-/

def start : Scan -> Nat
  | walking start _ _ => start
  | capturing start _ _ => start

def consumed : Scan -> List Symbol
  | walking _ _ seen => seen
  | capturing _ op digits => op.opcode.path ++ digits.reverse

def offset (scan : Scan) : Nat :=
  scan.start + scan.consumed.length

def Open : Scan -> Prop
  | walking _ node seen => Opcode.tree.walk seen = .branch node
  | capturing _ _ digits => Symbol.lineFeed ∉ digits

theorem open_before (start : Nat) : (before start).Open :=
  rfl

theorem inner_of_open {start node : Nat} {seen : List Symbol}
    (hopen : (walking start node seen).Open) : Opcode.Inner seen :=
  Opcode.exists_walk_eq_branch_iff.mp ⟨node, hopen⟩

theorem consumed_capturing_cons (start : Nat) (op : LiteralOp) (symbol : Symbol)
    (digits : List Symbol) :
    (capturing start op (symbol :: digits)).consumed =
      (capturing start op digits).consumed ++ [symbol] := by
  simp [consumed]

theorem offset_of_consumed {scan next : Scan} {symbol : Symbol}
    (hstart : next.start = scan.start) (hconsumed : next.consumed = scan.consumed ++ [symbol]) :
    next.offset = scan.offset + 1 := by
  rw [offset, hstart, hconsumed, List.length_append, List.length_singleton, ← Nat.add_assoc]
  rfl

theorem eq_root_iff {start node : Nat} {seen : List Symbol}
    (hopen : (walking start node seen).Open) : node = CodeTree.root ↔ seen = [] := by
  have hopen : Opcode.tree.walk seen = .branch node := hopen
  constructor
  · intro hroot
    rw [hroot] at hopen
    exact Opcode.codes_tree.formed.apart hopen rfl
  · intro hnil
    rw [hnil] at hopen
    cases hopen
    rfl

theorem remnant_eq_none_iff {scan : Scan} (hopen : scan.Open) :
    scan.remnant = none ↔ scan.consumed = [] := by
  cases scan with
  | walking start node seen =>
      rw [consumed, ← eq_root_iff hopen]
      simp [remnant]
  | capturing start op digits => simp [remnant, consumed, Opcode.path_ne_nil]

/-!
# One symbol

Each lemma reads one symbol: inside a path, at the end of a path, inside the
digits of a literal, and at the line feed that ends them.
-/

section Reading

variable (mode : Mode) (start offset : Nat) (rest : List Symbol)

theorem run_walking_branch {node next : Nat} (seen : List Symbol) {symbol : Symbol}
    (hslot : Opcode.tree.slot node symbol = .branch next) :
    run mode (walking start node seen) offset (symbol :: rest) =
      run mode (walking start next (seen ++ [symbol])) (offset + 1) rest := by
  rw [run, hslot]

theorem run_walking_plain {node : Nat} (seen : List Symbol) {symbol : Symbol} {op : PlainOp}
    (hslot : Opcode.tree.slot node symbol = .leaf (.plain op)) :
    run mode (walking start node seen) offset (symbol :: rest) =
      emit (.plain op) (run mode (before (offset + 1)) (offset + 1) rest) := by
  rw [run, hslot]

theorem run_walking_literal {node : Nat} (seen : List Symbol) {symbol : Symbol} {op : LiteralOp}
    (hslot : Opcode.tree.slot node symbol = .leaf op.opcode) :
    run mode (walking start node seen) offset (symbol :: rest) =
      run mode (capturing start op []) (offset + 1) rest := by
  cases op with
  | number op => rw [run, hslot, LiteralOp.opcode]
  | label op => rw [run, hslot, LiteralOp.opcode]

theorem run_capturing_digit (op : LiteralOp) (digits : List Symbol) {symbol : Symbol}
    (hdigit : symbol ≠ Symbol.lineFeed) :
    run mode (capturing start op digits) offset (symbol :: rest) =
      run mode (capturing start op (symbol :: digits)) (offset + 1) rest := by
  rw [run, if_neg hdigit]

theorem run_capturing_lineFeed {op : LiteralOp} {digits : List Symbol} {instruction : Instruction}
    (hcomplete : complete mode start digits.reverse op = .ok instruction) :
    run mode (capturing start op digits) offset (Symbol.lineFeed :: rest) =
      emit instruction (run mode (before (offset + 1)) (offset + 1) rest) := by
  rw [run, if_pos rfl, hcomplete]

end Reading

/-!
# Literals
-/

/-- What becomes of a literal: an instruction with its digits, or in strict mode the report of a
label without any. -/
inductive Completes (mode : Mode) (start : Nat) (digits : List Symbol) (op : LiteralOp) : Prop where
  | instruction (instruction : Instruction) (hadmits : mode.Admits instruction)
      (hsymbols : instruction.symbols = op.opcode.path ++ digits ++ [Symbol.lineFeed])
      (hcomplete : complete mode start digits op = .ok instruction)
  | emptyLabel (labelOp : LabelOp) (hop : op = .label labelOp) (hmode : mode = .strict)
      (hdigits : digits = [])
      (hcomplete : complete mode start digits op = .error (.emptyLabel start (.label labelOp)))

theorem complete_number {mode : Mode} {start : Nat} {op : NumberOp} {operand : Number} :
    complete mode start operand.symbols (.number op) = .ok (.number op operand) := by
  rw [complete, Number.ofSymbols_symbols]

theorem complete_label {mode : Mode} {start : Nat} {op : LabelOp} {operand : Label}
    (hadmits : mode.Admits (.label op operand)) :
    complete mode start operand.symbols (.label op) = .ok (.label op operand) := by
  rw [complete, Label.ofSymbols_symbols, if_neg]
  rw [Label.symbols_eq_nil_iff]
  exact hadmits

theorem completes (mode : Mode) (start : Nat) {digits : List Symbol} (op : LiteralOp)
    (hfree : Symbol.lineFeed ∉ digits) : Completes mode start digits op := by
  cases op with
  | number op =>
      rcases Number.exists_symbols_eq hfree with ⟨operand, hoperand⟩
      rw [← hoperand]
      exact .instruction (.number op operand) trivial (List.append_assoc _ _ _).symm complete_number
  | label op =>
      by_cases hempty : mode = .strict ∧ digits = []
      · refine .emptyLabel op rfl hempty.left hempty.right ?_
        rw [complete, if_pos hempty]
      · rcases Label.exists_symbols_eq hfree with ⟨operand, hoperand⟩
        have hadmits : mode.Admits (.label op operand) := by
          rintro ⟨hmode, hdigits⟩
          rw [← Label.symbols_eq_nil_iff, hoperand] at hdigits
          exact hempty ⟨hmode, hdigits⟩
        rw [← hoperand]
        exact .instruction (.label op operand) hadmits (List.append_assoc _ _ _).symm
          (complete_label hadmits)

theorem exists_literal {mode : Mode} {instruction : Instruction}
    (hadmits : mode.Admits instruction) (hoperand : forall op, instruction ≠ .plain op) :
    exists (op : LiteralOp) (digits : List Symbol), Symbol.lineFeed ∉ digits ∧
      instruction.symbols = op.opcode.path ++ digits ++ [Symbol.lineFeed] ∧
        forall start, complete mode start digits op = .ok instruction := by
  cases instruction with
  | plain op => exact absurd rfl (hoperand op)
  | number op operand =>
      exact ⟨.number op, operand.symbols, operand.lineFeed_not_mem_symbols,
        (List.append_assoc _ _ _).symm, fun _start => complete_number⟩
  | label op operand =>
      exact ⟨.label op, operand.symbols, operand.lineFeed_not_mem_symbols,
        (List.append_assoc _ _ _).symm, fun _start => complete_label hadmits⟩

/-!
# Reading again

An open state is reached by reading what it has consumed, from the start of the
instruction.  Inside a path the induction takes symbols off the end of what was
seen; inside digits it takes off the newest digit.
-/

theorem run_walking_resume (mode : Mode) (start : Nat) {node : Nat} {seen : List Symbol}
    (hopen : (walking start node seen).Open) (rest : List Symbol) :
    run mode (before start) start (seen ++ rest) =
      run mode (walking start node seen) (start + seen.length) rest := by
  induction seen using List.reverseRecOn generalizing node rest with
  | nil =>
      rw [(eq_root_iff hopen).mpr rfl]
      rfl
  | append_singleton seen symbol ih =>
      have hopen : Opcode.tree.walk (seen ++ [symbol]) = .branch node := hopen
      rcases CodeTree.exists_branch_of_append ⟨node, hopen⟩ with ⟨middle, hmiddle⟩
      rw [CodeTree.walk_of_branch hmiddle] at hopen
      rw [List.append_assoc, List.singleton_append, ih hmiddle (symbol :: rest),
        run_walking_branch mode start _ rest seen hopen, List.length_append,
        List.length_singleton, Nat.add_assoc]

theorem run_whole_path (mode : Mode) (start : Nat) (op : Opcode)
    (next : Nat -> List Symbol -> Except DecodeError (List Instruction × Option Remnant))
    (hlast : forall (node : Nat) (seen : List Symbol) (symbol : Symbol),
      Opcode.tree.slot node symbol = .leaf op -> forall (offset : Nat) (rest : List Symbol),
        run mode (walking start node seen) offset (symbol :: rest) = next (offset + 1) rest)
    (rest : List Symbol) :
    run mode (before start) start (op.path ++ rest) = next (start + op.path.length) rest := by
  rcases op.exists_path_snoc with ⟨seen, symbol, hpath⟩
  rcases Opcode.exists_walk_eq_branch_iff.mpr (Opcode.inner_of_append_singleton hpath) with
    ⟨node, hnode⟩
  have hleaf := Opcode.walk_eq_leaf_iff.mpr hpath
  rw [CodeTree.walk_of_branch hnode] at hleaf
  rw [hpath, List.append_assoc, List.singleton_append,
    run_walking_resume mode start hnode (symbol :: rest), hlast node seen symbol hleaf,
    List.length_append, List.length_singleton, Nat.add_assoc]

theorem run_capturing_resume (mode : Mode) (start : Nat) (op : LiteralOp) {digits : List Symbol}
    (hdigits : Symbol.lineFeed ∉ digits) (rest : List Symbol) :
    run mode (before start) start ((capturing start op digits).consumed ++ rest) =
      run mode (capturing start op digits) (capturing start op digits).offset rest := by
  induction digits generalizing rest with
  | nil =>
      have hconsumed : (capturing start op []).consumed = op.opcode.path :=
        List.append_nil _
      rw [offset, hconsumed]
      exact run_whole_path mode start op.opcode (run mode (capturing start op []))
        (fun node seen symbol hslot offset rest =>
          run_walking_literal mode start offset rest seen hslot) rest
  | cons symbol digits ih =>
      rw [List.mem_cons, not_or] at hdigits
      have hconsumed := consumed_capturing_cons start op symbol digits
      have hoffset : (capturing start op (symbol :: digits)).offset =
          (capturing start op digits).offset + 1 :=
        offset_of_consumed rfl hconsumed
      rw [hconsumed, List.append_assoc, List.singleton_append, ih hdigits.right,
        run_capturing_digit mode start _ rest op digits (Ne.symm hdigits.left), hoffset]

theorem run_resume (mode : Mode) {scan : Scan} (hopen : scan.Open) (rest : List Symbol) :
    run mode (before scan.start) scan.start (scan.consumed ++ rest) =
      run mode scan scan.offset rest := by
  cases scan with
  | walking start node seen => exact run_walking_resume mode start hopen rest
  | capturing start op digits => exact run_capturing_resume mode start op hopen rest

/-!
# Whole instructions

From between two instructions the scanner reads the symbols of an instruction
that its mode admits, gives the instruction and stands between two again.
-/

theorem run_symbols {mode : Mode} {instruction : Instruction}
    (hadmits : mode.Admits instruction) (start : Nat) (rest : List Symbol) :
    run mode (before start) start (instruction.symbols ++ rest) =
      emit instruction
        (run mode (before (start + instruction.symbols.length))
          (start + instruction.symbols.length) rest) := by
  by_cases hplain : exists op, instruction = .plain op
  · rcases hplain with ⟨op, hop⟩
    have hsymbols : (Instruction.plain op).symbols = (Opcode.plain op).path :=
      List.append_nil _
    rw [hop, hsymbols]
    -- The last symbol of the path already gives the instruction.
    exact run_whole_path mode start (.plain op)
      (fun offset rest => emit (.plain op) (run mode (before offset) offset rest))
      (fun node seen symbol hslot offset rest =>
        run_walking_plain mode start offset rest seen hslot) rest
  · rcases exists_literal hadmits (not_exists.mp hplain) with
      ⟨op, digits, hfree, hsymbols, hcomplete⟩
    have hconsumed : (capturing start op digits.reverse).consumed = op.opcode.path ++ digits := by
      rw [consumed, List.reverse_reverse]
    have hdigits : Symbol.lineFeed ∉ digits.reverse := mt List.mem_reverse.mp hfree
    have hread : complete mode start digits.reverse.reverse op = .ok instruction := by
      rw [List.reverse_reverse]
      exact hcomplete start
    rw [hsymbols, ← hconsumed, List.append_assoc, List.singleton_append,
      run_capturing_resume mode start op hdigits, run_capturing_lineFeed mode start _ rest hread,
      List.length_append, List.length_singleton, ← Nat.add_assoc]
    rfl

theorem foldr_emit_ok (instructions more : List Instruction) (remnant : Option Remnant) :
    instructions.foldr emit (.ok (more, remnant)) = .ok (instructions ++ more, remnant) := by
  induction instructions with
  | nil => rfl
  | cons instruction instructions ih =>
      rw [List.foldr_cons, ih]
      rfl

theorem run_flatMap_symbols {mode : Mode} {instructions : List Instruction}
    (hadmits : forall instruction, instruction ∈ instructions -> mode.Admits instruction)
    (start : Nat) (rest : List Symbol) :
    run mode (before start) start (instructions.flatMap Instruction.symbols ++ rest) =
      instructions.foldr emit
        (run mode (before (start + (instructions.flatMap Instruction.symbols).length))
          (start + (instructions.flatMap Instruction.symbols).length) rest) := by
  induction instructions generalizing start with
  | nil => rfl
  | cons instruction instructions ih =>
      have hfirst : mode.Admits instruction := hadmits instruction List.mem_cons_self
      have hothers : forall other, other ∈ instructions -> mode.Admits other := by
        intro other hmem
        exact hadmits other (List.mem_cons_of_mem instruction hmem)
      rw [List.flatMap_cons, List.append_assoc, run_symbols hfirst, ih hothers,
        List.foldr_cons, List.length_append, ← Nat.add_assoc]

/-!
# What one symbol can do

A symbol lengthens the current instruction, completes it or is refused.
-/

inductive Refuses (mode : Mode) : Scan -> Symbol -> DecodeError -> Prop where
  | opcode {start node : Nat} {seen : List Symbol} {symbol : Symbol} :
      Opcode.tree.slot node symbol = .empty ->
      Refuses mode (walking start node seen) symbol (.unknownOpcode start (seen ++ [symbol]))
  | label {start : Nat} {op : LabelOp} :
      mode = .strict ->
      Refuses mode (capturing start (.label op) []) .lineFeed (.emptyLabel start (.label op))

theorem run_of_refuses {mode : Mode} {scan : Scan} {symbol : Symbol} {error : DecodeError}
    (hrefuses : Refuses mode scan symbol error) (offset : Nat) (rest : List Symbol) :
    run mode scan offset (symbol :: rest) = .error error := by
  cases hrefuses with
  | opcode hslot => rw [run, hslot]
  | label hmode => rw [run, if_pos rfl, complete, List.reverse_nil, if_pos ⟨hmode, rfl⟩]

/-- The reaction of a state to one symbol, with the rest of the word still to be read. -/
inductive Reaction (mode : Mode) (scan : Scan) (symbol : Symbol) (rest : List Symbol) : Prop where
  | longer (next : Scan) (hopen : next.Open) (hstart : next.start = scan.start)
      (hconsumed : next.consumed = scan.consumed ++ [symbol])
      (hrun : run mode scan scan.offset (symbol :: rest) = run mode next next.offset rest)
  | complete (instruction : Instruction) (hadmits : mode.Admits instruction)
      (hsymbols : instruction.symbols = scan.consumed ++ [symbol])
      (hrun : run mode scan scan.offset (symbol :: rest) =
        emit instruction (run mode (before (scan.offset + 1)) (scan.offset + 1) rest))
  | refused (error : DecodeError) (hrefuses : Refuses mode scan symbol error)
      (hrun : run mode scan scan.offset (symbol :: rest) = .error error)

theorem literal_reaction (mode : Mode) {start node : Nat} {seen : List Symbol} {symbol : Symbol}
    {op : LiteralOp} (hslot : Opcode.tree.slot node symbol = .leaf op.opcode)
    (hpath : op.opcode.path = seen ++ [symbol]) (rest : List Symbol) :
    Reaction mode (walking start node seen) symbol rest := by
  have hconsumed : (capturing start op []).consumed = seen ++ [symbol] := by
    rw [← hpath]
    exact List.append_nil _
  have hoffset : (capturing start op []).offset = (walking start node seen).offset + 1 :=
    offset_of_consumed rfl hconsumed
  refine .longer (capturing start op []) List.not_mem_nil rfl hconsumed ?_
  rw [hoffset, run_walking_literal mode start _ rest seen hslot]

theorem walking_reaction (mode : Mode) {start node : Nat} {seen : List Symbol}
    (hopen : (walking start node seen).Open) (symbol : Symbol) (rest : List Symbol) :
    Reaction mode (walking start node seen) symbol rest := by
  have hwalk := CodeTree.walk_of_branch hopen symbol
  cases hslot : Opcode.tree.slot node symbol with
  | empty => exact .refused _ (.opcode hslot) (run_of_refuses (.opcode hslot) _ rest)
  | branch next =>
      have hoffset : (walking start next (seen ++ [symbol])).offset =
          (walking start node seen).offset + 1 :=
        offset_of_consumed rfl rfl
      refine .longer (walking start next (seen ++ [symbol])) (hwalk.trans hslot) rfl rfl ?_
      rw [hoffset, run_walking_branch mode start _ rest seen hslot]
  | leaf op =>
      have hpath : op.path = seen ++ [symbol] := Opcode.walk_eq_leaf_iff.mp (hwalk.trans hslot)
      cases op with
      | plain op =>
          refine .complete (.plain op) trivial ?_ (run_walking_plain mode start _ rest seen hslot)
          rw [consumed, ← hpath]
          exact List.append_nil _
      | number op => exact @literal_reaction mode _ _ _ _ (.number op) hslot hpath rest
      | label op => exact @literal_reaction mode _ _ _ _ (.label op) hslot hpath rest

theorem capturing_reaction (mode : Mode) (start : Nat) (op : LiteralOp) {digits : List Symbol}
    (hopen : Symbol.lineFeed ∉ digits) (symbol : Symbol) (rest : List Symbol) :
    Reaction mode (capturing start op digits) symbol rest := by
  by_cases hends : symbol = Symbol.lineFeed
  · rw [hends]
    cases completes mode start op (mt List.mem_reverse.mp hopen) with
    | instruction instruction hadmits hsymbols hcomplete =>
        exact .complete instruction hadmits hsymbols
          (run_capturing_lineFeed mode start _ rest hcomplete)
    | emptyLabel labelOp hop hmode hdigits hcomplete =>
        rw [hop, List.reverse_eq_nil_iff.mp hdigits]
        exact .refused _ (.label hmode) (run_of_refuses (.label hmode) _ rest)
  · have hconsumed := consumed_capturing_cons start op symbol digits
    have hoffset : (capturing start op (symbol :: digits)).offset =
        (capturing start op digits).offset + 1 :=
      offset_of_consumed rfl hconsumed
    refine .longer (capturing start op (symbol :: digits)) ?_ rfl hconsumed ?_
    · exact List.not_mem_cons_of_ne_of_not_mem (Ne.symm hends) hopen
    · rw [hoffset, run_capturing_digit mode start _ rest op digits hends]

theorem reaction (mode : Mode) {scan : Scan} (hopen : scan.Open) (symbol : Symbol)
    (rest : List Symbol) : Reaction mode scan symbol rest := by
  cases scan with
  | walking start node seen => exact walking_reaction mode hopen symbol rest
  | capturing start op digits => exact capturing_reaction mode start op hopen symbol rest

end Scan
end Whitespace
