import Mathlib.Data.List.Basic
import Whitespace.Assembly
import Whitespace.Program.Listing
import Whitespace.Proofs.Text

/-!
# Disassembly is assembled back

The text of an instruction is a mnemonic and at most one decimal integer, neither
of which holds a blank, a quote or a comment mark.  Such a line is read as one
statement, and the statement as the same instruction with canonical digits.
-/

namespace Whitespace

/-!
# Ordinary characters

A line of ordinary words is not cut at quotes or comments, and it is cut at blanks
between the words only.
-/

def isMark (c : Char) : Bool :=
  c == '"' || c == '\'' || c == '#' || c == ';'

def isOrdinary (c : Char) : Bool :=
  !Text.isBlank c && !isMark c

theorem isBlank_of_isOrdinary {c : Char} (hc : isOrdinary c = true) :
    Text.isBlank c = false := by
  simp only [isOrdinary, Bool.and_eq_true, Bool.not_eq_true'] at hc
  exact hc.left

theorem isMark_of_isOrdinary {c : Char} (hc : isOrdinary c = true) : isMark c = false := by
  simp only [isOrdinary, Bool.and_eq_true, Bool.not_eq_true'] at hc
  exact hc.right

theorem isOrdinary_digit {c : Char} (hc : c.isDigit = true) : isOrdinary c = true := by
  have hbounds := Text.digit_bounds hc
  have hblank : Text.isBlank c = false := by
    simp only [Text.isBlank, Bool.or_eq_false_iff, Bool.and_eq_false_iff, beq_eq_false_iff_ne,
      decide_eq_false_iff_not]
    omega
  have hmark : isMark c = false := by
    simp only [isMark, Bool.or_eq_false_iff, beq_eq_false_iff_ne]
    exact ⟨⟨⟨Text.digit_ne hc (by decide), Text.digit_ne hc (by decide)⟩,
      Text.digit_ne hc (by decide)⟩, Text.digit_ne hc (by decide)⟩
  simp [isOrdinary, hblank, hmark]

theorem uncommented_append {front : List Char}
    (hfront : forall c, c ∈ front -> isMark c = false) (rest : List Char) :
    uncommented .outside (front ++ rest) = front ++ uncommented .outside rest := by
  induction front with
  | nil => rfl
  | cons c front ih =>
      have hc := hfront c List.mem_cons_self
      simp only [isMark, Bool.or_eq_false_iff, beq_eq_false_iff_ne] at hc
      have hquote : ¬(c = '"' ∨ c = '\'') := by
        rintro (hdouble | hsingle)
        · exact hc.left.left.left hdouble
        · exact hc.left.left.right hsingle
      have hcomment : ¬(c = '#' ∨ c = ';') := by
        rintro (hhash | hsemicolon)
        · exact hc.left.right hhash
        · exact hc.right hsemicolon
      have hothers := ih (fun d hmem => hfront d (List.mem_cons_of_mem c hmem))
      rw [List.cons_append, uncommented, if_neg hquote, if_neg hcomment, hothers]
      rfl

theorem uncommented_eq_self {text : List Char}
    (htext : forall c, c ∈ text -> isMark c = false) : uncommented .outside text = text := by
  have happend := uncommented_append htext []
  rw [uncommented, List.append_nil] at happend
  exact happend

/-!
# Lines of ordinary words
-/

namespace Statement

theorem ofLine?_of_splitWord {line text word rest : List Char}
    (htrim : Text.trim (uncommented .outside line) = text) (htext : text ≠ [])
    (hsplit : Text.splitWord text = (word, rest)) :
    ofLine? line =
      some ⟨word, if Text.trim rest = [] then none else some (Text.trim rest)⟩ := by
  unfold ofLine?
  rw [htrim]
  cases text with
  | nil => exact absurd rfl htext
  | cons c others =>
      cases hrest : Text.trim rest with
      | nil => simp [hsplit, hrest]
      | cons d argument => simp [hsplit, hrest]

theorem trim_of_isOrdinary {word : List Char}
    (hordinary : forall c, c ∈ word -> isOrdinary c = true) : Text.trim word = word := by
  apply Text.trim_eq_self
  · intro c hfirst
    exact isBlank_of_isOrdinary (hordinary c (List.mem_of_head? hfirst))
  · intro c hlast
    exact isBlank_of_isOrdinary (hordinary c (List.mem_of_getLast? hlast))

theorem ofLine?_word {word : List Char} (hword : word ≠ [])
    (hordinary : forall c, c ∈ word -> isOrdinary c = true) :
    ofLine? word = some ⟨word, none⟩ := by
  have htrim : Text.trim (uncommented .outside word) = word := by
    rw [uncommented_eq_self (fun c hmem => isMark_of_isOrdinary (hordinary c hmem))]
    exact trim_of_isOrdinary hordinary
  have hsplit : Text.splitWord word = (word, []) :=
    Text.splitWord_eq_self (fun c hmem => isBlank_of_isOrdinary (hordinary c hmem))
  rw [ofLine?_of_splitWord htrim hword hsplit]
  rfl

theorem ofLine?_argument {word argument : List Char} (hword : word ≠ [])
    (hargument : argument ≠ []) (hordinary : forall c, c ∈ word -> isOrdinary c = true)
    (hargumentOrdinary : forall c, c ∈ argument -> isOrdinary c = true) :
    ofLine? (word ++ ' ' :: argument) = some ⟨word, some argument⟩ := by
  have hmark : forall c, c ∈ word ++ ' ' :: argument -> isMark c = false := by
    intro c hmem
    rcases List.mem_append.mp hmem with hinWord | hrest
    · exact isMark_of_isOrdinary (hordinary c hinWord)
    · cases hrest with
      | head => rfl
      | tail _ hinArgument => exact isMark_of_isOrdinary (hargumentOrdinary c hinArgument)
  have htrim : Text.trim (uncommented .outside (word ++ ' ' :: argument)) =
      word ++ ' ' :: argument := by
    rw [uncommented_eq_self hmark]
    apply Text.trim_eq_self
    · intro c hfirst
      rw [List.head?_append_of_ne_nil word hword] at hfirst
      exact isBlank_of_isOrdinary (hordinary c (List.mem_of_head? hfirst))
    · intro c hlast
      rw [List.getLast?_append_of_ne_nil word (List.cons_ne_nil _ _),
        List.getLast?_cons_of_ne_nil hargument] at hlast
      exact isBlank_of_isOrdinary (hargumentOrdinary c (List.mem_of_getLast? hlast))
  have hsplit : Text.splitWord (word ++ ' ' :: argument) = (word, argument) :=
    Text.splitWord_append (fun c hmem => isBlank_of_isOrdinary (hordinary c hmem))
      (by decide) argument
  rw [ofLine?_of_splitWord htrim (by simp) hsplit, trim_of_isOrdinary hargumentOrdinary,
    if_neg hargument]

end Statement

/-!
# Decimal arguments

A decimal integer starts neither a character nor a word of binary digits, and its
second character is no sign of another radix.
-/

namespace Argument

theorem magnitude_toDigits (n : Nat) : magnitude (Nat.toDigits 10 n) = .ok n := by
  -- The sign of another radix stands second, after a zero, so the first character
  -- alone does not rule it out.
  have hradix : radixOf (Nat.toDigits 10 n) = (10, Nat.toDigits 10 n) := by
    unfold radixOf
    split
    case h_1 digits hshape =>
        have hx : 'x'.isDigit = true :=
          Text.isDigit_of_mem_toDigits (n := n) (by rw [hshape]; simp)
        cases hx
    case h_2 digits hshape =>
        have hx : 'X'.isDigit = true :=
          Text.isDigit_of_mem_toDigits (n := n) (by rw [hshape]; simp)
        cases hx
    case h_3 => rfl
  unfold magnitude
  rw [hradix]
  simp only [Text.readNatural?_toDigits]
  split
  case h_1 hnil => exact absurd hnil Nat.toDigits_ne_nil
  case h_2 rest hplus => exact absurd hplus (Text.toDigits_ne_cons (by decide))
  case h_3 rest hminus => exact absurd hminus (Text.toDigits_ne_cons (by decide))
  case h_4 => rfl

theorem integer_toDigits (n : Nat) : integer (Nat.toDigits 10 n) = .ok (n : Int) := by
  unfold integer
  split
  case h_1 rest hquote => exact absurd hquote (Text.toDigits_ne_cons (by decide))
  case h_2 rest hminus => exact absurd hminus (Text.toDigits_ne_cons (by decide))
  case h_3 =>
      rw [magnitude_toDigits]
      rfl

theorem integer_toString (value : Int) : integer (toString value).toList = .ok value := by
  cases value with
  | ofNat n =>
      rw [Int.ofNat_eq_natCast, Text.toList_toString_ofNat]
      exact integer_toDigits n
  | negSucc n =>
      rw [Text.toList_toString_negSucc]
      show (do return -((<- magnitude (Nat.toDigits 10 (n + 1))) : Int)) = _
      rw [magnitude_toDigits]
      rfl

theorem isDigit_or_minus_of_mem_toString {value : Int} {c : Char}
    (hmem : c ∈ (toString value).toList) : c.isDigit = true ∨ c = '-' := by
  cases value with
  | ofNat n =>
      rw [Int.ofNat_eq_natCast, Text.toList_toString_ofNat] at hmem
      exact Or.inl (Text.isDigit_of_mem_toDigits hmem)
  | negSucc n =>
      rw [Text.toList_toString_negSucc] at hmem
      cases hmem with
      | head => exact Or.inr rfl
      | tail _ hdigits => exact Or.inl (Text.isDigit_of_mem_toDigits hdigits)

theorem isOrdinary_of_mem_toString {value : Int} {c : Char}
    (hmem : c ∈ (toString value).toList) : isOrdinary c = true := by
  rcases isDigit_or_minus_of_mem_toString hmem with hdigit | hminus
  · exact isOrdinary_digit hdigit
  · rw [hminus]
    decide

theorem toString_ne_nil (value : Int) : (toString value).toList ≠ [] := by
  cases value with
  | ofNat n =>
      rw [Int.ofNat_eq_natCast, Text.toList_toString_ofNat]
      exact Nat.toDigits_ne_nil
  | negSucc n =>
      rw [Text.toList_toString_negSucc]
      exact List.cons_ne_nil _ _

theorem toString_ne_bits (value : Int) (digits : List Char) :
    (toString value).toList ≠ 'b' :: digits := by
  intro hbits
  have hmem : 'b' ∈ (toString value).toList := by
    rw [hbits]
    exact List.mem_cons_self
  rcases isDigit_or_minus_of_mem_toString hmem with hdigit | hminus
  · cases hdigit
  · cases hminus

theorem number_toString (value : Int) :
    number (toString value).toList = .ok (Number.ofInt value) := by
  unfold number
  split
  case h_1 digits hbits => exact absurd hbits (toString_ne_bits value digits)
  case h_2 =>
      rw [integer_toString]
      rfl

theorem label_toString (value : Nat) :
    label (toString (value : Int)).toList = .ok (Label.ofNat value) := by
  unfold label
  split
  case h_1 digits hbits => exact absurd hbits (toString_ne_bits value digits)
  case h_2 =>
      have hnatural : ¬((value : Int) < 0) := by
        omega
      rw [integer_toString]
      show (if (value : Int) < 0 then Except.error (AssemblyFault.outOfRange value)
        else Except.ok (Label.ofNat (value : Int).toNat)) = _
      rw [if_neg hnatural]
      rfl

end Argument

/-!
# Mnemonics
-/

namespace Opcode

theorem ofMnemonic?_mnemonic (op : Opcode) : ofMnemonic? op.mnemonic.toList = some op := by
  have hall : forall a, a ∈ catalog -> ofMnemonic? a.mnemonic.toList = some a := by
    decide
  exact hall op (mem_catalog op)

theorem isName_mnemonic (op : Opcode) : PushSequence.isName op.mnemonic.toList = false := by
  have hall : forall a, a ∈ catalog -> PushSequence.isName a.mnemonic.toList = false := by
    decide
  exact hall op (mem_catalog op)

theorem mnemonic_ne_nil (op : Opcode) : op.mnemonic.toList ≠ [] := by
  have hall : forall a, a ∈ catalog -> a.mnemonic.toList ≠ [] := by
    decide
  exact hall op (mem_catalog op)

theorem isOrdinary_of_mem_mnemonic {op : Opcode} {c : Char} (hmem : c ∈ op.mnemonic.toList) :
    isOrdinary c = true := by
  have hall : forall a, a ∈ catalog -> a.mnemonic.toList.all isOrdinary = true := by
    decide
  exact List.all_eq_true.mp (hall op (mem_catalog op)) c hmem

theorem isOrdinary_or_space_of_mem_line {op : Opcode} {value : Int} {c : Char}
    (hmem : c ∈ op.mnemonic.toList ++ ' ' :: (toString value).toList) :
    isOrdinary c = true ∨ c = ' ' := by
  rcases List.mem_append.mp hmem with hmnemonic | hrest
  · exact Or.inl (isOrdinary_of_mem_mnemonic hmnemonic)
  · cases hrest with
    | head => exact Or.inr rfl
    | tail _ hvalue => exact Or.inl (Argument.isOrdinary_of_mem_toString hvalue)

theorem ofLine?_mnemonic (op : Opcode) :
    Statement.ofLine? op.mnemonic.toList = some ⟨op.mnemonic.toList, none⟩ :=
  Statement.ofLine?_word (mnemonic_ne_nil op) (fun _c hmem => isOrdinary_of_mem_mnemonic hmem)

theorem ofLine?_mnemonic_integer (op : Opcode) (value : Int) :
    Statement.ofLine? (op.mnemonic.toList ++ ' ' :: (toString value).toList) =
      some ⟨op.mnemonic.toList, some (toString value).toList⟩ :=
  Statement.ofLine?_argument (mnemonic_ne_nil op) (Argument.toString_ne_nil value)
    (fun _c hmem => isOrdinary_of_mem_mnemonic hmem)
    (fun _c hmem => Argument.isOrdinary_of_mem_toString hmem)

end Opcode

/-!
# Instructions

The canonical form of an instruction has the same opcode and operand value.
-/

namespace Instruction

def canonical : Instruction -> Instruction
  | plain op => plain op
  | number op operand => number op (Number.ofInt operand.value)
  | label op operand => label op (Label.ofNat operand.value)

theorem text_canonical (instruction : Instruction) :
    instruction.canonical.text = instruction.text := by
  cases instruction with
  | plain op => rfl
  | number op operand => rw [canonical, text, text, Number.value_ofInt]
  | label op operand => rw [canonical, text, text, Label.value_ofNat]

theorem canonical_agrees (instruction : Instruction) :
    instruction.canonical.agrees instruction = true := by
  cases instruction with
  | plain op => simp [canonical, agrees]
  | number op operand => simp [canonical, agrees, opcode, operandValue?]
  | label op operand => simp [canonical, agrees, opcode, operandValue?]

theorem toList_text_number (op : NumberOp) (operand : Number) :
    (number op operand).text.toList =
      (Opcode.number op).mnemonic.toList ++ ' ' :: (toString operand.value).toList := by
  rw [text, String.toList_append, String.toList_append, List.append_assoc]
  rfl

theorem toList_text_label (op : LabelOp) (operand : Label) :
    (label op operand).text.toList =
      (Opcode.label op).mnemonic.toList ++ ' ' :: (toString (operand.value : Int)).toList := by
  rw [text, String.toList_append, String.toList_append, List.append_assoc]
  rfl

theorem isOrdinary_or_space_of_mem_text {instruction : Instruction} {c : Char}
    (hmem : c ∈ instruction.text.toList) : isOrdinary c = true ∨ c = ' ' := by
  cases instruction with
  | plain op => exact Or.inl (Opcode.isOrdinary_of_mem_mnemonic hmem)
  | number op operand =>
      rw [toList_text_number] at hmem
      exact Opcode.isOrdinary_or_space_of_mem_line hmem
  | label op operand =>
      rw [toList_text_label] at hmem
      exact Opcode.isOrdinary_or_space_of_mem_line hmem

end Instruction

/-!
# Lines of a disassembly
-/

theorem assembleLine_of_statement {line : List Char} {statement : Statement}
    {instruction : Instruction} (hline : Statement.ofLine? line = some statement)
    (hname : PushSequence.isName statement.word = false)
    (hinstruction : statement.instruction = .ok instruction) :
    assembleLine line = .ok [instruction] := by
  unfold assembleLine
  rw [hline]
  simp only [hname, hinstruction]
  rfl

theorem assembleLine_text (instruction : Instruction) :
    assembleLine instruction.text.toList = .ok [instruction.canonical] := by
  cases instruction with
  | plain op =>
      refine assembleLine_of_statement (Opcode.ofLine?_mnemonic (.plain op))
        (Opcode.isName_mnemonic _) ?_
      simp only [Statement.instruction, Opcode.ofMnemonic?_mnemonic]
      rfl
  | number op operand =>
      rw [Instruction.toList_text_number]
      refine assembleLine_of_statement (Opcode.ofLine?_mnemonic_integer (.number op) operand.value)
        (Opcode.isName_mnemonic _) ?_
      simp only [Statement.instruction, Opcode.ofMnemonic?_mnemonic, Argument.number_toString]
      rfl
  | label op operand =>
      rw [Instruction.toList_text_label]
      refine assembleLine_of_statement (Opcode.ofLine?_mnemonic_integer (.label op) operand.value)
        (Opcode.isName_mnemonic _) ?_
      simp only [Statement.instruction, Opcode.ofMnemonic?_mnemonic, Argument.label_toString]
      rfl

theorem assembleLine_comment (rest : List Char) : assembleLine ('#' :: rest) = .ok [] := by
  unfold assembleLine Statement.ofLine?
  rfl

theorem assembleLines_cons {number : Nat} {line : List Char} {instructions : List Instruction}
    (hline : assembleLine line = .ok instructions) (rest : List (List Char)) :
    assembleLines number (line :: rest) =
      (instructions ++ ·) <$> assembleLines (number + 1) rest := by
  rw [assembleLines, hline]
  cases assembleLines (number + 1) rest with
  | error error => rfl
  | ok others => rfl

theorem assembleLines_texts (number : Nat) (instructions : List Instruction) :
    assembleLines number (instructions.map fun instruction => instruction.text.toList) =
      .ok (instructions.map Instruction.canonical) := by
  induction instructions generalizing number with
  | nil => rfl
  | cons instruction instructions ih =>
      rw [List.map_cons, assembleLines_cons (assembleLine_text instruction), ih]
      rfl

/-!
# Disassemblies

A disassembly is made of lines: two comments and the texts of the instructions.
-/

theorem assemble_of_lines {source : String} {instructions : List Instruction}
    (hlines : assembleLines 1 (Text.lines source.toList) = .ok instructions) :
    assemble source = .ok (.ofInstructions instructions) := by
  rw [assemble, hlines]
  rfl

namespace Program

def disassemblyLines (program : Program) : List (List Char) :=
  "# Whitespace disassembly".toList ::
    ('#' :: ' ' :: (Nat.toDigits 10 program.size ++ " instructions".toList)) ::
      program.toList.map fun instruction => instruction.text.toList

theorem toList_disassembly (program : Program) :
    program.disassembly.toList = program.disassemblyLines.flatMap (· ++ ['\n']) := by
  have hfirst : "# Whitespace disassembly\n".toList =
      "# Whitespace disassembly".toList ++ ['\n'] := by
    decide
  have hsecond : (s!"# {program.size} instructions\n").toList =
      '#' :: ' ' :: (Nat.toDigits 10 program.size ++ " instructions".toList) ++ ['\n'] := by
    show ("# " ++ toString program.size ++ " instructions\n").toList = _
    rw [String.toList_append, String.toList_append, Text.toList_toString_nat]
    simp
  have htexts : (String.join (program.toList.map fun instruction =>
      instruction.text ++ "\n")).toList =
        (program.toList.map fun instruction => instruction.text.toList).flatMap
          (· ++ ['\n']) := by
    rw [String.toList_join, List.flatMap_map, List.flatMap_map]
    simp
  unfold disassembly disassemblyLines
  rw [String.toList_append, String.toList_append, hfirst, hsecond, htexts,
    List.flatMap_cons, List.flatMap_cons]
  exact List.append_assoc _ _ _

theorem disassembly_canonical (program : Program) :
    Program.disassembly (program.map Instruction.canonical) = program.disassembly := by
  have htexts : (program.map Instruction.canonical).toList.map
      (fun instruction => instruction.text ++ "\n") =
        program.toList.map fun instruction => instruction.text ++ "\n" := by
    rw [Array.toList_map, List.map_map]
    apply List.map_congr_left
    intro instruction _hmem
    show instruction.canonical.text ++ "\n" = _
    rw [Instruction.text_canonical]
  unfold disassembly
  rw [htexts, Array.size_map]

theorem canonical_agrees (program : Program) :
    Program.agrees (program.map Instruction.canonical) program = true := by
  have hpairs : forall instructions : List Instruction,
      ((instructions.map Instruction.canonical).zip instructions).all
        (fun pair => pair.1.agrees pair.2) = true := by
    intro instructions
    induction instructions with
    | nil => rfl
    | cons instruction instructions ih =>
        rw [List.map_cons, List.zip_cons_cons, List.all_cons, ih,
          Instruction.canonical_agrees]
        rfl
  unfold agrees
  rw [Array.toList_map, hpairs, Array.size_map, beq_self_eq_true]
  rfl

theorem isBlank_or_space_of_mem_line {program : Program} {line : List Char} {c : Char}
    (hline : line ∈ program.disassemblyLines) (hmem : c ∈ line) :
    Text.isBlank c = false ∨ c = ' ' := by
  have hall : ("# Whitespace disassembly".toList ++ " instructions".toList).all
      (fun d => decide (Text.isBlank d = false ∨ d = ' ')) = true := by
    decide
  have hwords : forall d, d ∈ "# Whitespace disassembly".toList ++ " instructions".toList ->
      Text.isBlank d = false ∨ d = ' ' := by
    intro d hd
    exact of_decide_eq_true (List.all_eq_true.mp hall d hd)
  rcases List.mem_cons.mp hline with hfirst | hrest
  · rw [hfirst] at hmem
    exact hwords c (List.mem_append_left _ hmem)
  · rcases List.mem_cons.mp hrest with hsecond | htexts
    · rw [hsecond] at hmem
      rcases List.mem_cons.mp hmem with hhash | hafterHash
      · rw [hhash]
        exact Or.inl (by decide)
      · rcases List.mem_cons.mp hafterHash with hspace | hafterSpace
        · exact Or.inr hspace
        · rcases List.mem_append.mp hafterSpace with hsize | hword
          · exact Or.inl (isBlank_of_isOrdinary
              (isOrdinary_digit (Text.isDigit_of_mem_toDigits hsize)))
          · exact hwords c (List.mem_append_right _ hword)
    · rcases List.mem_map.mp htexts with ⟨instruction, _hinstruction, htext⟩
      rw [← htext] at hmem
      rcases Instruction.isOrdinary_or_space_of_mem_text hmem with hordinary | hspace
      · exact Or.inl (isBlank_of_isOrdinary hordinary)
      · exact Or.inr hspace

theorem lines_disassembly (program : Program) :
    Text.lines program.disassembly.toList = program.disassemblyLines := by
  rw [toList_disassembly]
  apply Text.lines_flatMap
  · intro line hline hmem
    have hblank := isBlank_or_space_of_mem_line hline hmem
    revert hblank
    decide
  · intro line hline hmem
    have hblank := isBlank_or_space_of_mem_line hline hmem
    revert hblank
    decide

theorem assemble_disassembly_eq (program : Program) :
    assemble program.disassembly =
      .ok (.ofInstructions (program.toList.map Instruction.canonical)) := by
  have hlines : assembleLines 1 (Text.lines program.disassembly.toList) =
      .ok (program.toList.map Instruction.canonical) := by
    rw [lines_disassembly, disassemblyLines]
    have hfirst : assembleLine "# Whitespace disassembly".toList = .ok [] :=
      assembleLine_comment _
    rw [assembleLines_cons hfirst, assembleLines_cons (assembleLine_comment _),
      assembleLines_texts]
    rfl
  exact assemble_of_lines hlines

theorem program_ofInstructions_canonical (program : Program) :
    (Assembly.ofInstructions (program.toList.map Instruction.canonical)).program =
      program.map Instruction.canonical := by
  rw [Assembly.ofInstructions, ← List.map_toArray, Array.toArray_toList]

/-!
# Reassembly
-/

theorem assemble_disassembly (program : Program) :
    exists assembly : Assembly, assemble program.disassembly = .ok assembly ∧
      assembly.program = program.map Instruction.canonical ∧
      assembly.program.agrees program = true ∧
      assembly.program.disassembly = program.disassembly := by
  refine ⟨_, assemble_disassembly_eq program, ?_⟩
  rw [program_ofInstructions_canonical]
  exact ⟨rfl, canonical_agrees program, disassembly_canonical program⟩

end Program
end Whitespace
