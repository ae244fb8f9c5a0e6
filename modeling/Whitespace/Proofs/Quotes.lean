import Whitespace.Proofs.LineByLine
import Whitespace.Proofs.Sequences

/-!
# Quotes in arguments

A statement that has instructions holds quotes and comment marks in two kinds of
argument only: the character between single quotes, and the text between double
quotes that a push sequence takes.
-/

namespace Whitespace

/-!
# Text without marks
-/

def Unmarked (text : List Char) : Prop :=
  forall c, c ∈ text -> isMark c = false

theorem unmarked_nil : Unmarked [] :=
  List.forall_mem_nil _

theorem unmarked_cons {c : Char} {rest : List Char} :
    Unmarked (c :: rest) ↔ isMark c = false ∧ Unmarked rest :=
  List.forall_mem_cons

theorem unmarked_append {front rest : List Char} :
    Unmarked (front ++ rest) ↔ Unmarked front ∧ Unmarked rest :=
  List.forall_mem_append

theorem eq_of_isMark {c : Char} (hc : isMark c = true) :
    c = '"' ∨ c = '\'' ∨ c = '#' ∨ c = ';' := by
  simpa [isMark, or_assoc] using hc

theorem isBlank_of_isMark {c : Char} (hc : isMark c = true) : Text.isBlank c = false := by
  rcases eq_of_isMark hc with hc | hc | hc | hc <;> rw [hc] <;> decide

theorem unmarked_iff_not_mem {text : List Char} :
    Unmarked text ↔ forall c, isMark c = true -> c ∉ text := by
  constructor
  · intro hunmarked c hc hmem
    rw [hunmarked c hmem] at hc
    cases hc
  · intro habsent c hmem
    cases hc : isMark c with
    | false => rfl
    | true => exact absurd hmem (habsent c hc)

theorem unmarked_of_all {text : List Char} (hall : (text.all fun c => !isMark c) = true) :
    Unmarked text := by
  intro c hmem
  simpa using List.all_eq_true.mp hall c hmem

theorem unmarked_of_blanks {text : List Char}
    (hblanks : forall c, c ∈ text -> Text.isBlank c = true) : Unmarked text := by
  apply unmarked_iff_not_mem.mpr
  intro c hc hmem
  have hblank := hblanks c hmem
  rw [isBlank_of_isMark hc] at hblank
  cases hblank

theorem unmarked_of_trim {text : List Char} (htrim : Unmarked (Text.trim text)) :
    Unmarked text := by
  apply unmarked_iff_not_mem.mpr
  intro c hc hmem
  exact unmarked_iff_not_mem.mp htrim c hc (Text.mem_trim (isBlank_of_isMark hc) hmem)

theorem unmarked_of_toUpper {word : List Char} (hupper : Unmarked (word.map Char.toUpper)) :
    Unmarked word := by
  apply unmarked_iff_not_mem.mpr
  intro c hc hmem
  have hsame : c.toUpper = c := by
    rcases eq_of_isMark hc with hc | hc | hc | hc <;> rw [hc] <;> decide
  have hmapped : c.toUpper ∈ word.map Char.toUpper := List.mem_map_of_mem hmem
  rw [hsame] at hmapped
  exact unmarked_iff_not_mem.mp hupper c hc hmapped

/-!
# Words and digits
-/

theorem Opcode.unmarked_of_ofMnemonic? {word : List Char} {op : Opcode}
    (hop : Opcode.ofMnemonic? word = some op) : Unmarked word := by
  have hall : Opcode.mnemonics.all (fun pair => pair.1.toList.all fun c => !isMark c) = true := by
    decide
  rcases List.lookup_eq_some_iff.mp hop with ⟨front, rest, hsplit, _⟩
  have hkey := List.all_eq_true.mp hall (String.ofList (word.map Char.toUpper), op)
    (by rw [hsplit]; simp)
  rw [String.toList_ofList] at hkey
  exact unmarked_of_toUpper (unmarked_of_all hkey)

theorem PushSequence.unmarked_of_isName {word : List Char}
    (hname : PushSequence.isName word = true) : Unmarked word := by
  apply unmarked_of_toUpper
  rw [eq_of_beq hname]
  exact unmarked_of_all (by decide)

namespace Text

theorem isMark_of_digitValue? {c : Char} {digit : Nat} (hdigit : digitValue? c = some digit) :
    isMark c = false := by
  cases hc : isMark c with
  | false => rfl
  | true => rcases eq_of_isMark hc with hc | hc | hc | hc <;> rw [hc] at hdigit <;> cases hdigit

theorem unmarked_of_readDigits {radix value result : Nat} {text : List Char}
    (hread : readDigits radix value text = some result) : Unmarked text := by
  induction text generalizing value with
  | nil => exact unmarked_nil
  | cons c rest ih =>
      rw [readDigits] at hread
      by_cases hunderscore : c = '_'
      · rw [if_pos hunderscore] at hread
        refine unmarked_cons.mpr ⟨?_, ih hread⟩
        rw [hunderscore]
        decide
      · rw [if_neg hunderscore] at hread
        cases hdigit : digitValue? c with
        | none =>
            rw [hdigit] at hread
            cases hread
        | some digit =>
            rw [hdigit] at hread
            by_cases hsmall : digit < radix
            · simp only [if_pos hsmall] at hread
              exact unmarked_cons.mpr ⟨isMark_of_digitValue? hdigit, ih hread⟩
            · simp only [if_neg hsmall] at hread
              cases hread

theorem unmarked_of_readNatural? {radix result : Nat} {text : List Char}
    (hread : readNatural? radix text = some result) : Unmarked text := by
  unfold readNatural? at hread
  split at hread
  case h_1 => cases hread
  case h_2 => cases hread
  case h_3 => exact unmarked_of_readDigits hread

end Text

theorem unmarked_of_digitsOfBits {text : List Char} {digits : List Bool}
    (hdigits : digitsOfBits text = .ok digits) : Unmarked text := by
  fun_induction digitsOfBits text generalizing digits with
  | case1 => exact unmarked_nil
  | case2 rest ih =>
      rw [bind_pure_comp] at hdigits
      rcases map_eq_ok_iff.mp hdigits with ⟨others, hrest, _⟩
      exact unmarked_cons.mpr ⟨by decide, ih hrest⟩
  | case3 rest ih =>
      rw [bind_pure_comp] at hdigits
      rcases map_eq_ok_iff.mp hdigits with ⟨others, hrest, _⟩
      exact unmarked_cons.mpr ⟨by decide, ih hrest⟩
  | case4 => cases hdigits

/-!
# Literals

A literal without marks, or a character: no other text is read as an argument of an
instruction.
-/

namespace Argument

def IsCharacter (text : List Char) : Prop :=
  exists (rest : List Char) (char : Char), text = '\'' :: rest ∧ character rest = .ok char

theorem inLiteral_eq_ok_iff {α : Type} {text : List Char} {result : Except LiteralFault α}
    {value : α} : inLiteral text result = .ok value ↔ result = .ok value := by
  cases result with
  | error fault => simp [inLiteral]
  | ok found => simp [inLiteral]

theorem unmarked_of_radixOf {body : List Char} (hdigits : Unmarked (radixOf body).2) :
    Unmarked body := by
  unfold radixOf at hdigits
  split at hdigits
  case h_1 => exact unmarked_cons.mpr ⟨by decide, unmarked_cons.mpr ⟨by decide, hdigits⟩⟩
  case h_2 => exact unmarked_cons.mpr ⟨by decide, unmarked_cons.mpr ⟨by decide, hdigits⟩⟩
  case h_3 => exact hdigits

theorem unmarked_of_magnitude {body : List Char} {value : Nat}
    (hvalue : magnitude body = .ok value) : Unmarked body := by
  apply unmarked_of_radixOf
  unfold magnitude at hvalue
  dsimp only at hvalue
  split at hvalue
  case h_4 =>
      cases hread : Text.readNatural? (radixOf body).1 (radixOf body).2 with
      | none =>
          rw [hread] at hvalue
          cases hvalue
      | some result => exact Text.unmarked_of_readNatural? hread
  all_goals cases hvalue

theorem unmarked_or_isCharacter_of_integer {text : List Char} {value : Int}
    (hvalue : integer text = .ok value) : Unmarked text ∨ IsCharacter text := by
  unfold integer at hvalue
  split at hvalue
  case h_1 rest =>
      rw [bind_pure_comp] at hvalue
      rcases map_eq_ok_iff.mp hvalue with ⟨char, hchar, _⟩
      exact Or.inr ⟨rest, char, rfl, hchar⟩
  case h_2 body =>
      rw [bind_pure_comp] at hvalue
      rcases map_eq_ok_iff.mp hvalue with ⟨magnitude, hmagnitude, _⟩
      exact Or.inl (unmarked_cons.mpr ⟨by decide, unmarked_of_magnitude hmagnitude⟩)
  case h_3 =>
      rw [bind_pure_comp] at hvalue
      rcases map_eq_ok_iff.mp hvalue with ⟨magnitude, hmagnitude, _⟩
      exact Or.inl (unmarked_of_magnitude hmagnitude)

theorem unmarked_of_bits {digits : List Char} {found : List Bool}
    (hbits : bits digits = .ok found) : Unmarked ('b' :: digits) := by
  unfold bits at hbits
  cases hdigits : digitsOfBits digits with
  | error error =>
      rw [hdigits] at hbits
      cases hbits
  | ok others => exact unmarked_cons.mpr ⟨by decide, unmarked_of_digitsOfBits hdigits⟩

theorem unmarked_or_isCharacter_of_number {text : List Char} {found : Number}
    (hnumber : number text = .ok found) : Unmarked text ∨ IsCharacter text := by
  unfold number at hnumber
  split at hnumber
  case h_1 digits =>
      rcases map_eq_ok_iff.mp hnumber with ⟨others, hbits, _⟩
      exact Or.inl (unmarked_of_bits (inLiteral_eq_ok_iff.mp hbits))
  case h_2 =>
      rcases map_eq_ok_iff.mp hnumber with ⟨value, hvalue, _⟩
      exact unmarked_or_isCharacter_of_integer (inLiteral_eq_ok_iff.mp hvalue)

theorem unmarked_or_isCharacter_of_label {text : List Char} {found : Label}
    (hlabel : label text = .ok found) : Unmarked text ∨ IsCharacter text := by
  unfold label at hlabel
  split at hlabel
  case h_1 digits =>
      rcases map_eq_ok_iff.mp hlabel with ⟨others, hbits, _⟩
      exact Or.inl (unmarked_of_bits (inLiteral_eq_ok_iff.mp hbits))
  case h_2 =>
      cases hvalue : inLiteral text (integer text) with
      | error fault =>
          rw [hvalue] at hlabel
          cases hlabel
      | ok value => exact unmarked_or_isCharacter_of_integer (inLiteral_eq_ok_iff.mp hvalue)

theorem eq_of_quotedChar {inner : List Char} {char : Char} (hchar : quotedChar inner = .ok char) :
    (exists c, c ≠ '\\' ∧ inner = [c]) ∨ exists c, inner = ['\\', c] := by
  unfold quotedChar at hchar
  split at hchar
  case h_1 => cases hchar
  case h_2 c =>
      by_cases hc : c = '\\'
      · rw [if_pos hc] at hchar
        cases hchar
      · exact Or.inl ⟨c, hc, rfl⟩
  case h_3 c => exact Or.inr ⟨c, rfl⟩
  case h_4 => cases hchar

theorem eq_of_character {rest : List Char} {char : Char} (hchar : character rest = .ok char) :
    (exists c, c ≠ '\\' ∧ rest = [c, '\'']) ∨ exists c, rest = ['\\', c, '\''] := by
  unfold character at hchar
  by_cases hlast : rest.getLast? = some '\''
  · rw [if_pos hlast] at hchar
    rcases List.getLast?_eq_some_iff.mp hlast with ⟨inner, hrest⟩
    rw [hrest, List.dropLast_concat] at hchar
    rcases eq_of_quotedChar hchar with ⟨c, hc, hinner⟩ | ⟨c, hinner⟩
    · rw [hinner] at hrest
      exact Or.inl ⟨c, hc, hrest⟩
    · rw [hinner] at hrest
      exact Or.inr ⟨c, hrest⟩
  · rw [if_neg hlast] at hchar
    cases hchar

theorem IsCharacter.eq_nil_of_append {text tail : List Char} (htext : IsCharacter text)
    (hwhole : IsCharacter (text ++ tail)) : tail = [] := by
  rcases htext with ⟨rest, char, htext, hchar⟩
  rcases hwhole with ⟨others, other, hwhole, hother⟩
  rw [htext, List.cons_append] at hwhole
  cases hwhole
  rcases eq_of_character hchar with ⟨c, hc, hrest⟩ | ⟨c, hrest⟩
  · rw [hrest] at hother
    rcases eq_of_character hother with ⟨d, _, hothers⟩ | ⟨d, hothers⟩
    · injection hothers with _ hothers
      injection hothers
    · injection hothers with hsame
      exact absurd hsame hc
  · rw [hrest] at hother
    rcases eq_of_character hother with ⟨d, _, hothers⟩ | ⟨d, hothers⟩
    · simp at hothers
    · injection hothers with _ hothers
      injection hothers with _ hothers
      injection hothers

end Argument

/-!
# Statements
-/

namespace Statement

theorem unmarked_or_isCharacter {statement : Statement} {instruction : Instruction}
    {argument : List Char} (hinstruction : statement.instruction = .ok instruction)
    (hargument : statement.argument = some argument) :
    Unmarked argument ∨ Argument.IsCharacter argument := by
  unfold Statement.instruction at hinstruction
  rw [hargument] at hinstruction
  cases hop : Opcode.ofMnemonic? statement.word with
  | none =>
      rw [hop] at hinstruction
      cases hinstruction
  | some op =>
      rw [hop] at hinstruction
      cases op with
      | plain op => cases hinstruction
      | number op =>
          rcases map_eq_ok_iff.mp hinstruction with ⟨found, hnumber, _⟩
          exact Argument.unmarked_or_isCharacter_of_number hnumber
      | label op =>
          rcases map_eq_ok_iff.mp hinstruction with ⟨found, hlabel, _⟩
          exact Argument.unmarked_or_isCharacter_of_label hlabel

theorem instructions_eq_ok {statement : Statement} {instructions : List Instruction}
    (hinstructions : statement.instructions = .ok instructions) :
    (PushSequence.isName statement.word = false ∧
      exists instruction, statement.instruction = .ok instruction) ∨
    PushSequence.isName statement.word = true ∧
      exists (argument : List Char) (values : List Int), statement.argument = some argument ∧
        PushSequence.values argument = .ok values ∧ instructions = values.map pushing := by
  cases hname : PushSequence.isName statement.word with
  | false =>
      cases hinstruction : statement.instruction with
      | error fault =>
          rw [instructions_of_error hname hinstruction] at hinstructions
          cases hinstructions
      | ok instruction => exact Or.inl ⟨rfl, instruction, rfl⟩
  | true =>
      cases hexpand : PushSequence.expand statement.argument with
      | error error =>
          rw [instructions_of_expand_error hname hexpand] at hinstructions
          cases hinstructions
      | ok lines =>
          rcases PushSequence.exists_values_of_expand hexpand with
            ⟨argument, values, hargument, hvalues, hpushes⟩
          rw [hpushes] at hexpand
          rw [instructions_of_expand hname hexpand] at hinstructions
          cases hinstructions
          exact Or.inr ⟨rfl, argument, values, hargument, hvalues, rfl⟩

theorem unmarked_word {statement : Statement} {instructions : List Instruction}
    (hinstructions : statement.instructions = .ok instructions) : Unmarked statement.word := by
  rcases instructions_eq_ok hinstructions with ⟨_, instruction, hinstruction⟩ | ⟨hname, _⟩
  · cases hop : Opcode.ofMnemonic? statement.word with
    | none =>
        rw [Statement.instruction, hop] at hinstruction
        cases hinstruction
    | some op => exact Opcode.unmarked_of_ofMnemonic? hop
  · exact PushSequence.unmarked_of_isName hname

end Statement

/-!
# Sequences

The values of a sequence come from a list, which has no marks, or from a text.
-/

namespace PushSequence

theorem unmarked_of_item {text : List Char} {value : Int} (hitem : Item text value) :
    Unmarked text := by
  have hdigits : forall {digits : List Char} {value : Nat}, Text.Numeral 10 digits value ->
      '_' ∉ digits -> Unmarked digits := by
    intro digits value hnumeral hplain c hmem
    exact isMark_of_isOrdinary (isOrdinary_digit (isDigit_of_mem_numeral hnumeral hplain hmem))
  cases hitem with
  | natural hnumeral hplain => exact hdigits hnumeral hplain
  | negated hnumeral hplain => exact unmarked_cons.mpr ⟨by decide, hdigits hnumeral hplain⟩

theorem unmarked_of_spaced {core text : List Char} (hspaced : Text.Spaced core text)
    (hcore : Unmarked core) : Unmarked text := by
  rcases hspaced with ⟨front, back, htext, hfront, hback⟩
  rw [htext]
  exact unmarked_append.mpr
    ⟨unmarked_append.mpr ⟨unmarked_of_blanks hfront, hcore⟩, unmarked_of_blanks hback⟩

theorem unmarked_of_items {text : List Char} {values : List Int} (hitems : Items text values) :
    Unmarked text := by
  induction hitems with
  | last hspaced hitem => exact unmarked_of_spaced hspaced (unmarked_of_item hitem)
  | more hspaced hitem _hrest ih =>
      exact unmarked_append.mpr ⟨unmarked_of_spaced hspaced (unmarked_of_item hitem),
        unmarked_cons.mpr ⟨by decide, ih⟩⟩

/-- The argument without its tilde is the text between double quotes. -/
def IsText (argument inner : List Char) : Prop :=
  (reversal argument).2 = '"' :: (inner ++ ['"'])

theorem exists_reversal_append (argument : List Char) :
    exists front : List Char, argument = front ++ (reversal argument).2 ∧ Unmarked front := by
  unfold reversal
  split
  case h_1 rest =>
      refine ⟨'~' :: rest.takeWhile Text.isBlank, ?_, ?_⟩
      · rw [List.cons_append, Text.trimStart, List.takeWhile_append_dropWhile]
      · refine unmarked_cons.mpr ⟨by decide, ?_⟩
        exact unmarked_of_blanks fun c hmem => List.mem_takeWhile_imp hmem
  case h_2 => exact ⟨[], rfl, unmarked_nil⟩

theorem reversal_append {argument : List Char} (hbody : (reversal argument).2 ≠ [])
    (tail : List Char) : (reversal (argument ++ tail)).2 = (reversal argument).2 ++ tail := by
  cases argument with
  | nil => exact absurd rfl hbody
  | cons c rest =>
      by_cases htilde : c = '~'
      · rw [htilde, reversal_tilde] at hbody ⊢
        rw [List.cons_append, reversal_tilde]
        exact Text.trimStart_append hbody tail
      · rw [List.cons_append, reversal_of_ne htilde, reversal_of_ne htilde]
        rfl

theorem IsText.length_append {argument tail inner longer : List Char}
    (htext : IsText argument inner) (hlonger : IsText (argument ++ tail) longer) :
    longer.length = inner.length + tail.length := by
  unfold IsText at htext hlonger
  have hnonempty : (reversal argument).2 ≠ [] := by
    rw [htext]
    exact List.cons_ne_nil _ _
  rw [reversal_append hnonempty, htext] at hlonger
  have hlengths := congrArg List.length hlonger
  simp only [List.cons_append, List.length_cons, List.length_append, List.length_nil] at hlengths
  omega

theorem unmarked_or_isText {argument : List Char} {values : List Int}
    (htrim : Text.trim argument = argument) (hvalues : PushSequence.values argument = .ok values) :
    Unmarked argument ∨
      exists inner : List Char, IsText argument inner ∧ values.length = inner.length := by
  rcases written_iff.mp (values_eq_ok_iff.mp hvalues) with ⟨found, hsequence, hvalues⟩
  rw [htrim] at hsequence hvalues
  have hlength : values.length = found.length := by
    rw [hvalues]
    split
    · exact List.length_reverse
    · rfl
  generalize hbody : (reversal argument).2 = body at hsequence
  cases hsequence with
  | list hitems =>
      rcases exists_reversal_append argument with ⟨front, hsplit, hfront⟩
      rw [hsplit, hbody]
      have hclosing : Unmarked [']'] := unmarked_of_all (by decide)
      exact Or.inl (unmarked_append.mpr ⟨hfront, unmarked_cons.mpr
        ⟨by decide, unmarked_append.mpr ⟨unmarked_of_items hitems, hclosing⟩⟩⟩)
  | text hline =>
      rw [List.length_map] at hlength
      exact Or.inr ⟨_, hbody, hlength⟩

end PushSequence

/-- The marks of a statement that has instructions belong to a character or to a text. -/
theorem Statement.isCharacter_or_isText {statement : Statement} {argument : List Char}
    {instructions : List Instruction}
    (hinstructions : statement.instructions = .ok instructions)
    (hargument : statement.argument = some argument) (htrim : Text.trim argument = argument)
    (hmarked : ¬Unmarked argument) :
    (PushSequence.isName statement.word = false ∧ Argument.IsCharacter argument) ∨
    PushSequence.isName statement.word = true ∧
      exists inner : List Char,
        PushSequence.IsText argument inner ∧ instructions.length = inner.length := by
  rcases instructions_eq_ok hinstructions with
    ⟨hname, instruction, hinstruction⟩ | ⟨hname, text, values, htext, hvalues, hpushes⟩
  · rcases unmarked_or_isCharacter hinstruction hargument with hunmarked | hcharacter
    · exact absurd hunmarked hmarked
    · exact Or.inl ⟨hname, hcharacter⟩
  · rw [hargument] at htext
    cases htext
    rcases PushSequence.unmarked_or_isText htrim hvalues with hunmarked | ⟨inner, hinner, hlength⟩
    · exact absurd hunmarked hmarked
    · refine Or.inr ⟨hname, inner, hinner, ?_⟩
      rw [hpushes, List.length_map]
      exact hlength

/-!
# Lines with an argument

The word and the argument of a statement stand on its line with nothing but
blanks around them.
-/

namespace Statement

theorem ofLine?_eq_some {line : List Char} {statement : Statement}
    (hline : ofLine? line = some statement) :
    exists rest : List Char, Text.trim (uncommented .outside line) ≠ [] ∧
      Text.splitWord (Text.trim (uncommented .outside line)) = (statement.word, rest) ∧
      statement.argument = if Text.trim rest = [] then none else some (Text.trim rest) := by
  have htext : Text.trim (uncommented .outside line) ≠ [] := by
    intro hempty
    rw [ofLine?, hempty] at hline
    cases hline
  rw [ofLine?_of_splitWord rfl htext rfl] at hline
  cases hline
  exact ⟨_, htext, rfl, rfl⟩

theorem trim_of_ofLine?_eq_none {line : List Char} (hline : ofLine? line = none) :
    Text.trim (uncommented .outside line) = [] := by
  by_contra htext
  rw [ofLine?_of_splitWord rfl htext rfl] at hline
  cases hline

theorem exists_of_argument {line argument : List Char} {statement : Statement}
    (hline : ofLine? line = some statement) (hargument : statement.argument = some argument) :
    exists (blank : Char) (rest : List Char), Text.isBlank blank = true ∧
      (forall c, c ∈ statement.word -> Text.isBlank c = false) ∧
      Text.trim (uncommented .outside line) = statement.word ++ blank :: rest ∧
      Text.trim rest = argument ∧ argument ≠ [] := by
  rcases ofLine?_eq_some hline with ⟨rest, _, hsplit, hrest⟩
  rw [hargument] at hrest
  by_cases hempty : Text.trim rest = []
  · rw [if_pos hempty] at hrest
    cases hrest
  · rw [if_neg hempty] at hrest
    cases hrest
    rcases Text.eq_of_splitWord hsplit with ⟨hword, ⟨_, hnil⟩ | ⟨blank, hblank, htext⟩⟩
    · rw [hnil] at hempty
      exact absurd rfl hempty
    · exact ⟨blank, rest, hblank, hword, htext, rfl, hempty⟩

theorem trim_argument {line argument : List Char} {statement : Statement}
    (hline : ofLine? line = some statement) (hargument : statement.argument = some argument) :
    Text.trim argument = argument := by
  rcases exists_of_argument hline hargument with ⟨_, rest, _, _, _, hrest, _⟩
  rw [← hrest]
  exact Text.trim_trim rest

theorem exists_eq_append {line argument : List Char} {statement : Statement}
    (hline : ofLine? line = some statement) (hargument : statement.argument = some argument) :
    exists front blanks back : List Char,
      uncommented .outside line = front ++ statement.word ++ blanks ++ argument ++ back ∧
        forall c, c ∈ front ++ blanks ++ back -> Text.isBlank c = true := by
  rcases exists_of_argument hline hargument with ⟨blank, rest, hblank, _, htext, hrest, _⟩
  rcases Text.exists_trim_append (uncommented .outside line) with
    ⟨front, back, hwhole, hfront, hback⟩
  rcases Text.exists_trim_append rest with ⟨others, behind, hsplit, hothers, hbehind⟩
  refine ⟨front, blank :: others, behind ++ back, ?_, ?_⟩
  · rw [htext] at hwhole
    rw [hrest] at hsplit
    rw [hwhole, hsplit]
    simp only [List.append_assoc, List.cons_append]
  · intro c hmem
    simp only [List.mem_append, List.mem_cons] at hmem
    rcases hmem with (hmem | hmem | hmem) | hmem | hmem
    · exact hfront c hmem
    · rw [hmem]
      exact hblank
    · exact hothers c hmem
    · exact hbehind c hmem
    · exact hback c hmem

theorem mem_word {line : List Char} {statement : Statement} {c : Char}
    (hline : ofLine? line = some statement) (hargument : statement.argument = none)
    (hc : Text.isBlank c = false) (hmem : c ∈ uncommented .outside line) :
    c ∈ statement.word := by
  rcases ofLine?_eq_some hline with ⟨rest, _, hsplit, hrest⟩
  have hempty : Text.trim rest = [] := by
    by_contra hnonempty
    rw [hargument, if_neg hnonempty] at hrest
    cases hrest
  have hinside := Text.mem_trim hc hmem
  rcases Text.eq_of_splitWord hsplit with ⟨_, ⟨htext, _⟩ | ⟨blank, hblank, htext⟩⟩
  · rw [htext] at hinside
    exact hinside
  · rw [htext, List.mem_append, List.mem_cons] at hinside
    rcases hinside with hinside | hsame | hinside
    · exact hinside
    · rw [hsame, hblank] at hc
      cases hc
    · have hlost := Text.mem_trim hc hinside
      rw [hempty] at hlost
      cases hlost

theorem exists_ofLine?_append {line longer more argument : List Char} {statement : Statement}
    {c : Char} (hline : ofLine? line = some statement)
    (hargument : statement.argument = some argument)
    (hlonger : uncommented .outside longer = uncommented .outside line ++ more)
    (hc : Text.isBlank c = false) (hmem : c ∈ more) :
    exists tail : List Char,
      ofLine? longer = some ⟨statement.word, some (argument ++ tail)⟩ ∧ c ∈ tail := by
  rcases exists_of_argument hline hargument with
    ⟨blank, rest, hblank, hword, htext, hrest, hnonempty⟩
  have hline : Text.trim (uncommented .outside line) ≠ [] := by
    rw [htext]
    exact List.append_ne_nil_of_right_ne_nil _ (List.cons_ne_nil blank rest)
  rcases Text.exists_trim_append_of_mem hline hc hmem with ⟨others, hwhole, hothers⟩
  rw [← hlonger, htext, List.append_assoc, List.cons_append] at hwhole
  rw [← hrest] at hnonempty
  rcases Text.exists_trim_append_of_mem hnonempty hc hothers with ⟨tail, htail, hinside⟩
  rw [hrest] at htail hnonempty
  refine ⟨tail, ?_, hinside⟩
  rw [ofLine?_of_splitWord hwhole
    (List.append_ne_nil_of_right_ne_nil _ (List.cons_ne_nil blank _))
    (Text.splitWord_append hword hblank _), htail,
    if_neg (List.append_ne_nil_of_left_ne_nil hnonempty tail)]

end Statement

end Whitespace
