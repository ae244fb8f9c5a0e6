import Whitespace.Proofs.Rejection

/-!
# Words put together and words cut short

Between two instructions the scanner keeps nothing but the offset.  So a word
behind a whole program is read as if it stood alone, with every reported offset
moved along, and a word that stops earlier gives the first instructions of the
longer one.
-/

namespace Whitespace

/-!
# Moving a word along

Reports name offsets from the start of the word.  Putting symbols in front moves
each of them by the number of these symbols.
-/

def Remnant.shift (distance : Nat) : Remnant -> Remnant
  | opcode offset path => opcode (distance + offset) path
  | literal offset op => literal (distance + offset) op

def DecodeError.shift (distance : Nat) : DecodeError -> DecodeError
  | unknownOpcode offset path => unknownOpcode (distance + offset) path
  | cutOpcode offset path => cutOpcode (distance + offset) path
  | cutLiteral offset op => cutLiteral (distance + offset) op
  | emptyLabel offset op => emptyLabel (distance + offset) op
  | badLiteral offset op error => badLiteral (distance + offset) op error
  | missingEnd => missingEnd

namespace Scan

def shift (distance : Nat) : Scan -> Scan
  | walking start node seen => walking (distance + start) node seen
  | capturing start op digits => capturing (distance + start) op digits

def shiftResult (distance : Nat) :
    Except DecodeError (List Instruction × Option Remnant) ->
      Except DecodeError (List Instruction × Option Remnant)
  | .ok (instructions, remnant) => .ok (instructions, remnant.map (Remnant.shift distance))
  | .error error => .error (error.shift distance)

theorem shiftResult_emit (distance : Nat) (instruction : Instruction)
    (result : Except DecodeError (List Instruction × Option Remnant)) :
    shiftResult distance (emit instruction result) =
      emit instruction (shiftResult distance result) := by
  cases result with
  | error error => rfl
  | ok pair => rfl

theorem remnant_shift (distance : Nat) (scan : Scan) :
    (scan.shift distance).remnant = scan.remnant.map (Remnant.shift distance) := by
  cases scan with
  | walking start node seen =>
      rw [shift, remnant, remnant]
      split <;> rfl
  | capturing start op digits => rfl

theorem finish_shift (mode : Mode) (distance : Nat) (scan : Scan) :
    (scan.shift distance).finish mode = shiftResult distance (scan.finish mode) := by
  unfold finish
  rw [remnant_shift]
  cases mode with
  | lenient => rfl
  | strict =>
      cases scan.remnant with
      | none => rfl
      | some remnant =>
          cases remnant with
          | opcode offset path => rfl
          | literal offset op => rfl

theorem complete_shift (mode : Mode) (distance start : Nat) (digits : List Symbol)
    (op : LiteralOp) :
    complete mode (distance + start) digits op =
      match complete mode start digits op with
      | .error error => .error (error.shift distance)
      | .ok instruction => .ok instruction := by
  cases op with
  | number op =>
      rw [complete, complete]
      cases Number.ofSymbols digits with
      | error error => rfl
      | ok operand => rfl
  | label op =>
      rw [complete, complete]
      by_cases hempty : mode = .strict ∧ digits = []
      · rw [if_pos hempty, if_pos hempty]
        rfl
      · rw [if_neg hempty, if_neg hempty]
        cases Label.ofSymbols digits with
        | error error => rfl
        | ok operand => rfl

theorem run_shift (mode : Mode) (distance : Nat) (scan : Scan) (offset : Nat)
    (word : List Symbol) :
    run mode (scan.shift distance) (distance + offset) word =
      shiftResult distance (run mode scan offset word) := by
  induction word generalizing scan offset with
  | nil =>
      rw [run, run]
      exact finish_shift mode distance scan
  | cons symbol rest ih =>
      have hbetween : run mode (before (distance + offset + 1)) (distance + offset + 1) rest =
          shiftResult distance (run mode (before (offset + 1)) (offset + 1) rest) :=
        ih (before (offset + 1)) (offset + 1)
      cases scan with
      | walking start node seen =>
          rw [shift, run, run]
          cases Opcode.tree.slot node symbol with
          | empty => rfl
          | branch next => exact ih (walking start next (seen ++ [symbol])) (offset + 1)
          | leaf op =>
              cases op with
              | plain op =>
                  simp only [shiftResult_emit]
                  rw [hbetween]
              | number op => exact ih (capturing start (.number op) []) (offset + 1)
              | label op => exact ih (capturing start (.label op) []) (offset + 1)
      | capturing start op digits =>
          rw [shift, run, run]
          by_cases hend : symbol = .lineFeed
          · rw [if_pos hend, if_pos hend, complete_shift]
            cases complete mode start digits.reverse op with
            | error error => rfl
            | ok instruction =>
                simp only [shiftResult_emit]
                rw [hbetween]
          · rw [if_neg hend, if_neg hend]
            exact ih (capturing start op (symbol :: digits)) (offset + 1)

theorem exists_of_foldr_emit_eq_ok {front instructions : List Instruction}
    {remnant : Option Remnant}
    {result : Except DecodeError (List Instruction × Option Remnant)}
    (hemits : front.foldr emit result = .ok (instructions, remnant)) :
    exists others, instructions = front ++ others ∧ result = .ok (others, remnant) := by
  induction front generalizing instructions with
  | nil => exact ⟨instructions, rfl, hemits⟩
  | cons instruction front ih =>
      rcases exists_of_emit_eq_ok hemits with ⟨behind, hinstructions, hrest⟩
      rcases ih hrest with ⟨others, hbehind, hresult⟩
      refine ⟨others, ?_, hresult⟩
      rw [hinstructions, hbehind]
      rfl

end Scan

namespace Program

/-!
# Programs
-/

theorem decode_lenient_eq (word : List Symbol) :
    Program.decode .lenient word =
      (Scan.run .lenient (.before 0) 0 word).map fun pair => ⟨pair.1.toArray, pair.2⟩ := by
  unfold decode
  cases Scan.run .lenient (.before 0) 0 word with
  | error error => rfl
  | ok pair => rfl

theorem run_append_of_decode {first : List Symbol} {program : Program}
    (hfirst : Program.decode .lenient first = .ok ⟨program, none⟩) (second : List Symbol) :
    Scan.run .lenient (.before 0) 0 (first ++ second) =
      program.toList.foldr Scan.emit
        (Scan.shiftResult first.length (Scan.run .lenient (.before 0) 0 second)) := by
  rcases decode_eq_ok_iff.mp hfirst with ⟨last, hreads, hnone, _hstrict⟩
  have hconsumed : last.consumed = [] := (Scan.remnant_eq_none_iff hreads.last_open).mp hnone.symm
  have hword : first = program.symbols := by
    have hsplit : first = program.symbols ++ last.consumed := hreads.split
    rw [hsplit, hconsumed, List.append_nil]
  have hwhole : Scan.Reads .lenient (.before 0) first program.toList
      ((Scan.before 0).shift first.length) := by
    have hbetween : (Scan.before first.length).Open := Scan.open_before _
    have hreads := reads_symbols (Scan.before first.length) hbetween (by rw [hword]; rfl)
      hreads.admits
    have hnothing : (Scan.before first.length).consumed = [] := rfl
    rw [hnothing, List.append_nil, ← hword] at hreads
    exact hreads
  have hopen : (Scan.before 0).Open := Scan.open_before 0
  have hrun := Scan.run_append_of_reads hopen hwhole second
  rw [← Scan.run_shift]
  exact hrun

theorem decode_append_of_ok {first second : List Symbol} {program other : Program}
    {dropped : Option Remnant}
    (hfirst : Program.decode .lenient first = .ok ⟨program, none⟩)
    (hsecond : Program.decode .lenient second = .ok ⟨other, dropped⟩) :
    Program.decode .lenient (first ++ second) =
      .ok ⟨program ++ other, dropped.map (Remnant.shift first.length)⟩ := by
  rw [decode_lenient_eq] at hsecond ⊢
  rw [run_append_of_decode hfirst]
  cases hrun : Scan.run .lenient (.before 0) 0 second with
  | error error =>
      rw [hrun] at hsecond
      cases hsecond
  | ok pair =>
      rw [hrun] at hsecond
      cases hsecond
      rw [Scan.shiftResult, Scan.foldr_emit_ok]
      show Except.ok (Reading.mk (program.toList ++ pair.1).toArray _) = _
      rw [← List.append_toArray, Array.toArray_toList]

theorem decode_append_of_error {first second : List Symbol} {program : Program}
    {error : DecodeError} (hfirst : Program.decode .lenient first = .ok ⟨program, none⟩)
    (hsecond : Program.decode .lenient second = .error error) :
    Program.decode .lenient (first ++ second) = .error (error.shift first.length) := by
  rw [decode_lenient_eq] at hsecond ⊢
  rw [run_append_of_decode hfirst]
  cases hrun : Scan.run .lenient (.before 0) 0 second with
  | error other =>
      rw [hrun] at hsecond
      cases hsecond
      rw [Scan.shiftResult, Scan.foldr_emit_error]
      rfl
  | ok pair =>
      rw [hrun] at hsecond
      cases hsecond

/-- A path that goes astray does so in every longer word, so a word that is read has only parts
that are read. -/
theorem exists_decode_of_isPrefix {part word : List Symbol} {program : Program}
    {dropped : Option Remnant} (hpart : part <+: word)
    (hword : Program.decode .lenient word = .ok ⟨program, dropped⟩) :
    exists (front : Program) (left : Option Remnant),
      Program.decode .lenient part = .ok ⟨front, left⟩ := by
  rcases hpart with ⟨rest, hrest⟩
  cases hdecode : Program.decode .lenient part with
  | ok reading => exact ⟨reading.program, reading.dropped, rfl⟩
  | error error =>
      rcases eq_unknownOpcode_of_lenient hdecode with ⟨offset, path, herror⟩
      rw [herror] at hdecode
      rcases decode_eq_unknownOpcode_iff.mp hdecode with
        ⟨before, more, hadmits, hstart, hsplit, hinner, hcloses⟩
      have hfails : Program.decode .lenient word = .error (.unknownOpcode offset path) := by
        apply decode_eq_unknownOpcode_iff.mpr
        refine ⟨before, more ++ rest, hadmits, hstart, ?_, hinner, hcloses⟩
        rw [← hrest, hsplit, List.append_assoc _ more]
      rw [hfails] at hword
      cases hword

theorem isPrefix_of_decode {part word : List Symbol} {front program : Program}
    {left dropped : Option Remnant} (hpart : part <+: word)
    (hfront : Program.decode .lenient part = .ok ⟨front, left⟩)
    (hword : Program.decode .lenient word = .ok ⟨program, dropped⟩) :
    front.toList <+: program.toList := by
  rcases hpart with ⟨rest, hrest⟩
  rcases decode_eq_ok_iff.mp hfront with ⟨middle, hreads, _hleft, _hstrict⟩
  have hopen : (Scan.before 0).Open := Scan.open_before 0
  have hrun := Scan.run_append_of_reads hopen hreads rest
  rw [hrest] at hrun
  rcases decode_eq_ok_iff.mp hword with ⟨last, hwhole, _hdropped, _hstrict⟩
  have hfinish : last.finish .lenient = .ok ([], last.remnant) := by
    rw [Scan.finish_eq_ok_iff]
    exact ⟨rfl, rfl, fun hmode => by cases hmode⟩
  have hread := Scan.run_of_reads hopen hwhole
  rw [hfinish, Scan.foldr_emit_ok, List.append_nil, hrun] at hread
  rcases Scan.exists_of_foldr_emit_eq_ok hread with ⟨others, hprogram, _hothers⟩
  exact ⟨others, hprogram.symm⟩

/-!
# Reading in parts
-/

theorem decode_compositional :
    (forall (first second : List Symbol) (program : Program),
      Program.decode .lenient first = .ok ⟨program, none⟩ ->
        (forall (other : Program) (dropped : Option Remnant),
          Program.decode .lenient second = .ok ⟨other, dropped⟩ ->
            Program.decode .lenient (first ++ second) =
              .ok ⟨program ++ other, dropped.map (Remnant.shift first.length)⟩) ∧
        (forall error : DecodeError, Program.decode .lenient second = .error error ->
          Program.decode .lenient (first ++ second) = .error (error.shift first.length))) ∧
    (forall (word part : List Symbol) (program : Program) (dropped : Option Remnant),
      Program.decode .lenient word = .ok ⟨program, dropped⟩ -> part <+: word ->
        exists (front : Program) (left : Option Remnant),
          Program.decode .lenient part = .ok ⟨front, left⟩ ∧
            front.toList <+: program.toList) := by
  constructor
  · intro first second program hfirst
    constructor
    · intro other dropped hsecond
      exact decode_append_of_ok hfirst hsecond
    · intro error hsecond
      exact decode_append_of_error hfirst hsecond
  · intro word part program dropped hword hpart
    rcases exists_decode_of_isPrefix hpart hword with ⟨front, left, hfront⟩
    exact ⟨front, left, hfront, isPrefix_of_decode hpart hfront hword⟩

/-- A push in front of an addition and a cut path, in front of a path that goes astray, and cut
inside its own operand. -/
theorem decode_compositional_push :
    Program.decode .lenient (ofLetters "SSSTL") = .ok ⟨#[.number .push ⟨[false, true]⟩], none⟩ ∧
      Program.decode .lenient (ofLetters "SSSTLTSSSLT") =
        .ok ⟨#[.number .push ⟨[false, true]⟩, .plain (.arithmetic .add)],
          some (.opcode 9 [.lineFeed, .tab])⟩ ∧
      Program.decode .lenient (ofLetters "SSSTLTSSSTTL") =
        .error (.unknownOpcode 9 [.tab, .tab, .lineFeed]) ∧
      exists (front : Program) (left : Option Remnant),
        Program.decode .lenient (ofLetters "SSS") = .ok ⟨front, left⟩ ∧
          front.toList <+: [.number .push ⟨[false, true]⟩] := by
  have hpush : Program.decode .lenient (ofLetters "SSSTL") =
      .ok ⟨#[.number .push ⟨[false, true]⟩], none⟩ := by
    rfl
  refine ⟨hpush, ?_, ?_, ?_⟩
  · exact (decode_compositional.left (ofLetters "SSSTL") (ofLetters "TSSSLT") _ hpush).left
      #[.plain (.arithmetic .add)] (some (.opcode 4 [.lineFeed, .tab])) rfl
  · exact (decode_compositional.left (ofLetters "SSSTL") (ofLetters "TSSSTTL") _ hpush).right
      (.unknownOpcode 4 [.tab, .tab, .lineFeed]) rfl
  · exact decode_compositional.right (ofLetters "SSSTL") (ofLetters "SSS") _ none hpush (by decide)

end Program
end Whitespace
