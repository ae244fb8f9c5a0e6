import Whitespace.Proofs.Quotes

/-!
# Trailing comments

A comment mark inside quotes is no mark.  The scan for comments has its own idea
of quotes: a backslash takes the next character with it, and every quote that
stands outside opens.  A line whose argument ends a quote in another way leaves
it open, and what follows on the line is then no comment.
-/

namespace Whitespace

/-!
# Where the scan stands
-/

namespace Quoting

def next : Quoting -> Char -> Option Quoting
  | escaped quote, _ => some (inside quote)
  | inside quote, c =>
      if c = '\\' then some (escaped quote)
      else if c = quote then some outside
      else some (inside quote)
  | outside, c =>
      if c = '"' ∨ c = '\'' then some (inside c)
      else if c = '#' ∨ c = ';' then none
      else some outside

def after : Quoting -> List Char -> Option Quoting
  | quoting, [] => some quoting
  | quoting, c :: rest => (quoting.next c).bind fun state => state.after rest

def quote? : Quoting -> Option Char
  | outside => none
  | inside quote => some quote
  | escaped quote => some quote

end Quoting

def closesQuotes (line : List Char) : Bool :=
  (Quoting.outside.after line).all fun state => state.quote?.isNone

def isQuote (c : Char) : Bool :=
  c == '"' || c == '\''

namespace Quoting

theorem after_append (quoting : Quoting) (front rest : List Char) :
    quoting.after (front ++ rest) =
      (quoting.after front).bind fun state => state.after rest := by
  induction front generalizing quoting with
  | nil => rfl
  | cons c front ih =>
      rw [List.cons_append, after, after]
      cases quoting.next c with
      | none => rfl
      | some state => exact ih state

theorem uncommented_cons (quoting : Quoting) (c : Char) (rest : List Char) :
    uncommented quoting (c :: rest) =
      (quoting.next c).elim [] fun state => c :: uncommented state rest := by
  cases quoting with
  | outside =>
      rw [uncommented, next]
      by_cases hquote : c = '"' ∨ c = '\''
      · rw [if_pos hquote, if_pos hquote]
        rfl
      · rw [if_neg hquote, if_neg hquote]
        by_cases hmark : c = '#' ∨ c = ';'
        · rw [if_pos hmark, if_pos hmark]
          rfl
        · rw [if_neg hmark, if_neg hmark]
          rfl
  | inside quote =>
      rw [uncommented, next]
      by_cases hbackslash : c = '\\'
      · rw [if_pos hbackslash, if_pos hbackslash]
        rfl
      · rw [if_neg hbackslash, if_neg hbackslash]
        by_cases hquote : c = quote
        · rw [if_pos hquote, if_pos hquote]
          rfl
        · rw [if_neg hquote, if_neg hquote]
          rfl
  | escaped quote => rfl

theorem uncommented_of_next {quoting state : Quoting} {c : Char}
    (hnext : quoting.next c = some state) (rest : List Char) :
    uncommented quoting (c :: rest) = c :: uncommented state rest := by
  rw [uncommented_cons, hnext]
  rfl

theorem uncommented_of_mark {quoting : Quoting} {c : Char} (hnext : quoting.next c = none)
    (rest : List Char) : uncommented quoting (c :: rest) = [] := by
  rw [uncommented_cons, hnext]
  rfl

theorem uncommented_append_of_after {quoting state : Quoting} {text : List Char}
    (hafter : quoting.after text = some state) (rest : List Char) :
    uncommented quoting (text ++ rest) = text ++ uncommented state rest := by
  induction text generalizing quoting with
  | nil =>
      cases hafter
      rfl
  | cons c text ih =>
      rw [after] at hafter
      rcases Option.bind_eq_some_iff.mp hafter with ⟨middle, hnext, hafter⟩
      rw [List.cons_append, uncommented_of_next hnext, ih hafter]
      rfl

theorem uncommented_append_of_comment {quoting : Quoting} {text : List Char}
    (hafter : quoting.after text = none) (rest : List Char) :
    uncommented quoting (text ++ rest) = uncommented quoting text := by
  induction text generalizing quoting with
  | nil => cases hafter
  | cons c text ih =>
      rw [after] at hafter
      rw [List.cons_append]
      cases hnext : quoting.next c with
      | none => rw [uncommented_of_mark hnext, uncommented_of_mark hnext]
      | some state =>
          rw [hnext] at hafter
          rw [uncommented_of_next hnext, uncommented_of_next hnext, ih hafter]

theorem uncommented_of_after {quoting state : Quoting} {text : List Char}
    (hafter : quoting.after text = some state) : uncommented quoting text = text := by
  have hwhole := uncommented_append_of_after hafter []
  rw [List.append_nil, uncommented, List.append_nil] at hwhole
  exact hwhole

/-!
# Open quotes
-/

theorem isQuote_of_next {quoting state : Quoting} {c quote : Char}
    (hnext : quoting.next c = some state) (hquote : state.quote? = some quote) :
    quoting.quote? = some quote ∨ isQuote quote = true := by
  cases quoting with
  | outside =>
      rw [next] at hnext
      by_cases hopens : c = '"' ∨ c = '\''
      · rw [if_pos hopens] at hnext
        cases hnext
        cases hquote
        exact Or.inr (by simpa [isQuote] using hopens)
      · rw [if_neg hopens] at hnext
        split at hnext
        all_goals cases hnext
        cases hquote
  | inside other =>
      rw [next] at hnext
      split at hnext
      case isTrue =>
          cases hnext
          exact Or.inl hquote
      case isFalse =>
          split at hnext
          case isTrue =>
              cases hnext
              cases hquote
          case isFalse =>
              cases hnext
              exact Or.inl hquote
  | escaped other =>
      cases hnext
      exact Or.inl hquote

theorem isQuote_of_after {quoting state : Quoting} {text : List Char} {quote : Char}
    (hafter : quoting.after text = some state) (hquote : state.quote? = some quote) :
    quoting.quote? = some quote ∨ isQuote quote = true := by
  induction text generalizing quoting with
  | nil =>
      cases hafter
      exact Or.inl hquote
  | cons c text ih =>
      rw [after] at hafter
      rcases Option.bind_eq_some_iff.mp hafter with ⟨middle, hnext, hafter⟩
      rcases ih hafter with hmiddle | hisQuote
      · exact isQuote_of_next hnext hmiddle
      · exact Or.inr hisQuote

theorem uncommented_of_quote? {quoting : Quoting} {quote c : Char}
    (hquote : quoting.quote? = some quote) (hc : c ≠ '\\') (hother : c ≠ quote)
    (rest : List Char) :
    uncommented quoting (c :: rest) = c :: uncommented (inside quote) rest := by
  cases quoting with
  | outside => cases hquote
  | inside other =>
      cases hquote
      rw [uncommented, if_neg hc, if_neg hother]
  | escaped other =>
      cases hquote
      rw [uncommented]

theorem after_of_unmarked {text : List Char} (htext : Unmarked text) :
    outside.after text = some outside := by
  induction text with
  | nil => rfl
  | cons c rest ih =>
      rcases unmarked_cons.mp htext with ⟨hc, hrest⟩
      have hnext : outside.next c = some outside := by
        simp only [isMark, Bool.or_eq_false_iff, beq_eq_false_iff_ne] at hc
        rw [next, if_neg (not_or.mpr hc.left.left), if_neg (not_or.mpr ⟨hc.left.right, hc.right⟩)]
      rw [after, hnext]
      exact ih hrest

theorem after_inside {quote : Char} {text : List Char} (hquote : quote ∉ text)
    (hbackslash : '\\' ∉ text) : (inside quote).after text = some (inside quote) := by
  induction text with
  | nil => rfl
  | cons c rest ih =>
      rw [List.mem_cons, not_or] at hquote hbackslash
      have hnext : (inside quote).next c = some (inside quote) := by
        rw [next, if_neg (Ne.symm hbackslash.left), if_neg (Ne.symm hquote.left)]
      rw [after, hnext]
      exact ih hquote.right hbackslash.right

end Quoting

theorem closesQuotes_eq_true_iff {line : List Char} :
    closesQuotes line = true ↔
      Quoting.outside.after line = none ∨ Quoting.outside.after line = some .outside := by
  unfold closesQuotes
  cases Quoting.outside.after line with
  | none => simp
  | some state => cases state <;> simp [Quoting.quote?]

theorem closesQuotes_eq_false_iff {line : List Char} :
    closesQuotes line = false ↔
      exists (state : Quoting) (quote : Char), Quoting.outside.after line = some state ∧
        state.quote? = some quote := by
  unfold closesQuotes
  cases Quoting.outside.after line with
  | none => simp
  | some state => cases state <;> simp [Quoting.quote?]

/-!
# Lines that close their quotes
-/

def isCommentMark (c : Char) : Bool :=
  c == '#' || c == ';'

theorem trim_uncommented_comment {line : List Char} {mark : Char}
    (hcloses : closesQuotes line = true) (hmark : isCommentMark mark = true)
    (comment : List Char) :
    Text.trim (uncommented .outside (line ++ ' ' :: mark :: comment)) =
      Text.trim (uncommented .outside line) := by
  rcases closesQuotes_eq_true_iff.mp hcloses with hcomment | houtside
  · rw [Quoting.uncommented_append_of_comment hcomment]
  · have hspace : Quoting.outside.next ' ' = some .outside := by decide
    have hbegins : Quoting.outside.next mark = none := by
      simp only [isCommentMark, Bool.or_eq_true, beq_iff_eq] at hmark
      rcases hmark with hmark | hmark <;> rw [hmark] <;> decide
    rw [Quoting.uncommented_append_of_after houtside, Quoting.uncommented_of_after houtside,
      Quoting.uncommented_of_next hspace, Quoting.uncommented_of_mark hbegins]
    apply Text.trim_append_blanks
    intro c hmem
    rw [List.mem_singleton.mp hmem]
    decide

theorem assembleLine_comment_of_closesQuotes {line : List Char} {mark : Char}
    (hcloses : closesQuotes line = true) (hmark : isCommentMark mark = true)
    (comment : List Char) :
    assembleLine (line ++ ' ' :: mark :: comment) = assembleLine line := by
  unfold assembleLine Statement.ofLine?
  rw [trim_uncommented_comment hcloses hmark]

/-!
# Lines that leave a quote open

Around the argument nothing of a line concerns the scan, so the argument leaves
the quote open.
-/

theorem closesQuotes_of_unmarked {line : List Char} (hline : Unmarked line) :
    closesQuotes line = true :=
  closesQuotes_eq_true_iff.mpr (Or.inr (Quoting.after_of_unmarked hline))

theorem uncommented_of_open {line : List Char} (hopen : closesQuotes line = false) :
    uncommented .outside line = line := by
  rcases closesQuotes_eq_false_iff.mp hopen with ⟨state, quote, hafter, _⟩
  exact Quoting.uncommented_of_after hafter

theorem exists_argument_of_open {line : List Char} {instructions : List Instruction}
    (hopen : closesQuotes line = false) (hline : assembleLine line = .ok instructions) :
    exists (statement : Statement) (argument : List Char),
      Statement.ofLine? line = some statement ∧ statement.argument = some argument ∧
        statement.instructions = .ok instructions ∧
        Quoting.outside.after argument ≠ some .outside := by
  have hkept : uncommented .outside line = line := uncommented_of_open hopen
  have hmarked : ¬Unmarked line := by
    intro hunmarked
    rw [closesQuotes_of_unmarked hunmarked] at hopen
    cases hopen
  cases hstatement : Statement.ofLine? line with
  | none =>
      refine absurd (unmarked_of_trim ?_) hmarked
      rw [← hkept, Statement.trim_of_ofLine?_eq_none hstatement]
      exact unmarked_nil
  | some statement =>
      rw [assembleLine_eq_instructions hstatement] at hline
      have hword : Unmarked statement.word := Statement.unmarked_word hline
      cases hargument : statement.argument with
      | none =>
          refine absurd (unmarked_iff_not_mem.mpr ?_) hmarked
          intro c hc hmem
          rw [← hkept] at hmem
          exact unmarked_iff_not_mem.mp hword c hc
            (Statement.mem_word hstatement hargument (isBlank_of_isMark hc) hmem)
      | some argument =>
          refine ⟨statement, argument, rfl, hargument, hline, ?_⟩
          intro hcloses
          rcases Statement.exists_eq_append hstatement hargument with
            ⟨front, blanks, back, hsplit, hblank⟩
          rw [hkept] at hsplit
          rcases unmarked_append.mp (unmarked_of_blanks hblank) with ⟨hbefore, hback⟩
          rcases unmarked_append.mp hbefore with ⟨hfront, hblanks⟩
          have hahead : Unmarked (front ++ statement.word ++ blanks) :=
            unmarked_append.mpr ⟨unmarked_append.mpr ⟨hfront, hword⟩, hblanks⟩
          have hafter : Quoting.outside.after line = some .outside := by
            rw [hsplit, Quoting.after_append, Quoting.after_append,
              Quoting.after_of_unmarked hahead, Option.bind_some, hcloses, Option.bind_some,
              Quoting.after_of_unmarked hback]
          rw [closesQuotes_eq_true_iff.mpr (Or.inr hafter)] at hopen
          cases hopen

theorem not_unmarked_of_after {argument : List Char}
    (hopen : Quoting.outside.after argument ≠ some .outside) : ¬Unmarked argument :=
  fun hunmarked => hopen (Quoting.after_of_unmarked hunmarked)

theorem Argument.IsCharacter.eq_of_after {argument : List Char} (hcharacter : IsCharacter argument)
    (hopen : Quoting.outside.after argument ≠ some .outside) : argument = ['\'', '\'', '\''] := by
  rcases hcharacter with ⟨rest, char, hargument, hchar⟩
  rw [hargument] at hopen ⊢
  rcases eq_of_character hchar with ⟨c, hc, hrest⟩ | ⟨c, hrest⟩
  · rw [hrest] at hopen ⊢
    by_cases hquote : c = '\''
    · rw [hquote]
    · refine absurd ?_ hopen
      simp [Quoting.after, Quoting.next, hc, hquote]
  · rw [hrest] at hopen
    exact absurd rfl hopen

theorem PushSequence.IsText.mem_of_after {argument inner : List Char}
    (htext : IsText argument inner)
    (hopen : Quoting.outside.after argument ≠ some .outside) : '"' ∈ inner ∨ '\\' ∈ inner := by
  by_contra hneither
  rw [not_or] at hneither
  rcases exists_reversal_append argument with ⟨front, hsplit, hfront⟩
  rw [htext] at hsplit
  have hopening : Quoting.outside.next '"' = some (.inside '"') := by decide
  apply hopen
  rw [hsplit, Quoting.after_append, Quoting.after_of_unmarked hfront, Option.bind_some,
    Quoting.after, hopening, Option.bind_some, Quoting.after_append,
    Quoting.after_inside hneither.left hneither.right]
  decide

/-!
# Comments behind an open quote

The comment becomes part of the argument, so the line stands for other
instructions or for none.
-/

theorem isMark_of_isCommentMark {c : Char} (hc : isCommentMark c = true) : isMark c = true := by
  simp only [isCommentMark, Bool.or_eq_true] at hc
  simp only [isMark, Bool.or_eq_true, or_assoc]
  exact Or.inr (Or.inr hc)

theorem exists_uncommented_append_of_open {line : List Char} {mark : Char}
    (hopen : closesQuotes line = false) (hmark : isCommentMark mark = true)
    (comment : List Char) :
    exists more : List Char,
      uncommented .outside (line ++ ' ' :: mark :: comment) =
        uncommented .outside line ++ more ∧ mark ∈ more := by
  rcases closesQuotes_eq_false_iff.mp hopen with ⟨state, quote, hafter, hquote⟩
  have hisQuote : isQuote quote = true := by
    rcases Quoting.isQuote_of_after hafter hquote with houtside | hisQuote
    · cases houtside
    · exact hisQuote
  have hspace : ' ' ≠ quote := by
    intro hsame
    rw [← hsame] at hisQuote
    cases hisQuote
  have hquotes : mark ≠ '\\' ∧ mark ≠ quote := by
    simp only [isCommentMark, Bool.or_eq_true, beq_iff_eq] at hmark
    simp only [isQuote, Bool.or_eq_true, beq_iff_eq] at hisQuote
    rcases hmark with hmark | hmark <;> rcases hisQuote with hquote | hquote <;>
      rw [hmark, hquote] <;> decide
  refine ⟨' ' :: mark :: uncommented (.inside quote) comment, ?_, ?_⟩
  · rw [Quoting.uncommented_append_of_after hafter, Quoting.uncommented_of_after hafter,
      Quoting.uncommented_of_quote? hquote (by decide) hspace,
      Quoting.uncommented_of_quote? rfl hquotes.left hquotes.right]
  · exact List.mem_cons_of_mem _ List.mem_cons_self

theorem assembleLine_comment_of_open {line : List Char} {mark : Char}
    {instructions : List Instruction} (hopen : closesQuotes line = false)
    (hmark : isCommentMark mark = true) (hline : assembleLine line = .ok instructions)
    (comment : List Char) :
    assembleLine (line ++ ' ' :: mark :: comment) ≠ .ok instructions := by
  intro hlonger
  rcases exists_argument_of_open hopen hline with
    ⟨statement, argument, hstatement, hargument, hinstructions, hafter⟩
  have hisMark : isMark mark = true := isMark_of_isCommentMark hmark
  rcases exists_uncommented_append_of_open hopen hmark comment with ⟨more, hmore, hmem⟩
  rcases Statement.exists_ofLine?_append hstatement hargument hmore (isBlank_of_isMark hisMark)
    hmem with ⟨tail, htail, hinside⟩
  rw [assembleLine_eq_instructions htail] at hlonger
  have hmarked : ¬Unmarked (argument ++ tail) :=
    fun hunmarked => unmarked_iff_not_mem.mp hunmarked mark hisMark
      (List.mem_append_right argument hinside)
  have hshort := Statement.isCharacter_or_isText hinstructions hargument
    (Statement.trim_argument hstatement hargument) (not_unmarked_of_after hafter)
  have hlong := Statement.isCharacter_or_isText hlonger rfl
    (Statement.trim_argument htail rfl) hmarked
  rcases hshort with ⟨hname, hcharacter⟩ | ⟨hname, inner, htext, hlength⟩
  · rcases hlong with ⟨_, hwhole⟩ | ⟨hother, _⟩
    · rw [hcharacter.eq_nil_of_append hwhole] at hinside
      cases hinside
    · rw [hname] at hother
      cases hother
  · rcases hlong with ⟨hother, _⟩ | ⟨_, longer, hwhole, hsame⟩
    · rw [hname] at hother
      cases hother
    · have hgrows := htext.length_append hwhole
      have hpositive := List.length_pos_of_mem hinside
      omega

/-!
# Comments behind lines that assemble
-/

theorem assembleLine_comment_iff {line : List Char} {mark : Char}
    {instructions : List Instruction} (hmark : isCommentMark mark = true)
    (hline : assembleLine line = .ok instructions) (comment : List Char) :
    assembleLine (line ++ ' ' :: mark :: comment) = .ok instructions ↔
      closesQuotes line = true := by
  constructor
  · intro hsame
    cases hcloses : closesQuotes line with
    | true => rfl
    | false => exact absurd hsame (assembleLine_comment_of_open hcloses hmark hline comment)
  · intro hcloses
    rw [assembleLine_comment_of_closesQuotes hcloses hmark]
    exact hline

/-- The argument may close its quotes in another way than the scan expects: it is the quote as a
character, or a text with a quote or a backslash in it. -/
def Statement.Misleading (statement : Statement) : Prop :=
  statement.argument = some ['\'', '\'', '\''] ∨
  PushSequence.isName statement.word = true ∧
    exists argument inner : List Char, statement.argument = some argument ∧
      PushSequence.IsText argument inner ∧ ('"' ∈ inner ∨ '\\' ∈ inner)

theorem misleading_of_open {line : List Char} {instructions : List Instruction}
    (hopen : closesQuotes line = false) (hline : assembleLine line = .ok instructions) :
    exists statement : Statement,
      Statement.ofLine? line = some statement ∧ statement.Misleading := by
  rcases exists_argument_of_open hopen hline with
    ⟨statement, argument, hstatement, hargument, hinstructions, hafter⟩
  refine ⟨statement, hstatement, ?_⟩
  rcases Statement.isCharacter_or_isText hinstructions hargument
    (Statement.trim_argument hstatement hargument) (not_unmarked_of_after hafter) with
    ⟨_, hcharacter⟩ | ⟨hname, inner, htext, _⟩
  · rw [hcharacter.eq_of_after hafter] at hargument
    exact Or.inl hargument
  · exact Or.inr ⟨hname, argument, inner, hargument, htext, htext.mem_of_after hafter⟩

/-- A comment behind a line that assembles changes nothing exactly when the line closes its quotes.
Every line does so but for some that push the quote as a character or a text with a quote or a
backslash in it. -/
theorem trailing_comment_transparent_iff {line comment : List Char} {mark : Char}
    {assembly : Assembly} (hline : '\n' ∉ line) (hcomment : '\n' ∉ comment)
    (hmark : mark = '#' ∨ mark = ';')
    (hassembles : assemble (String.ofList line) = .ok assembly) :
    (assemble (String.ofList (line ++ ' ' :: mark :: comment)) = .ok assembly ↔
      closesQuotes line = true) ∧
    ((forall statement, Statement.ofLine? line = some statement -> ¬statement.Misleading) ->
      closesQuotes line = true) := by
  have hisMark : isCommentMark mark = true := by
    simpa [isCommentMark] using hmark
  have hfeed : '\n' ≠ mark := by
    rcases hmark with hmark | hmark <;> rw [hmark] <;> decide
  have hwhole : '\n' ∉ line ++ ' ' :: mark :: comment := by
    simp [hline, hcomment, hfeed]
  rcases assemble_eq_ok_iff.mp hassembles with ⟨instructions, _hlines, hassembly⟩
  rw [← hassembly] at hassembles ⊢
  have hassembled : assembleLine line = .ok instructions :=
    (assemble_line_eq_ok_iff hline).mp hassembles
  constructor
  · rw [← assembleLine_comment_iff hisMark hassembled comment]
    exact assemble_line_eq_ok_iff hwhole
  · intro hplain
    cases hcloses : closesQuotes line with
    | true => rfl
    | false =>
        rcases misleading_of_open hcloses hassembled with ⟨statement, hstatement, hmisleading⟩
        exact absurd hmisleading (hplain statement hstatement)

/-- A text that ends in a backslash leaves a quote open, and so does the quote as a character.  A
text with comment marks is not misleading. -/
theorem trailing_comment_transparent_iff_texts :
    assemble (String.ofList "PUSHS \"a\\\"".toList) =
        .ok (.ofInstructions [pushing 97, pushing 92]) ∧
      assemble (String.ofList ("PUSHS \"a\\\"".toList ++ ' ' :: '#' :: " c".toList)) ≠
        .ok (.ofInstructions [pushing 97, pushing 92]) ∧
      assemble (String.ofList "PUSH '''".toList) = .ok (.ofInstructions [pushing 39]) ∧
      assemble (String.ofList ("PUSH '''".toList ++ ' ' :: ';' :: " c".toList)) ≠
        .ok (.ofInstructions [pushing 39]) ∧
      assemble (String.ofList "PUSHS \"#;\"".toList) =
        .ok (.ofInstructions [pushing 35, pushing 59]) ∧
      assemble (String.ofList ("PUSHS \"#;\"".toList ++ ' ' :: '#' :: " c".toList)) =
        .ok (.ofInstructions [pushing 35, pushing 59]) := by
  refine ⟨rfl, ?_, rfl, ?_, rfl, ?_⟩
  · intro hsame
    have hcloses := (trailing_comment_transparent_iff (by decide) (by decide) (Or.inl rfl)
      rfl).left.mp hsame
    revert hcloses
    decide
  · intro hsame
    have hcloses := (trailing_comment_transparent_iff (by decide) (by decide) (Or.inr rfl)
      rfl).left.mp hsame
    revert hcloses
    decide
  · have hstatement : Statement.ofLine? "PUSHS \"#;\"".toList =
        some ⟨"PUSHS".toList, some "\"#;\"".toList⟩ := by
      decide
    have hplain : ¬Statement.Misleading ⟨"PUSHS".toList, some "\"#;\"".toList⟩ := by
      rintro (hcharacter | ⟨_, argument, inner, hargument, htext, hmem⟩)
      · cases hcharacter
      · cases hargument
        injection htext with _ htext
        have hinner : ['#', ';'] = inner := (List.append_left_inj ['"']).mp htext
        rw [← hinner] at hmem
        revert hmem
        decide
    rcases @trailing_comment_transparent_iff "PUSHS \"#;\"".toList " c".toList '#'
      (.ofInstructions [pushing 35, pushing 59]) (by decide) (by decide) (Or.inl rfl) rfl with
      ⟨hsame, hcloses⟩
    refine hsame.mpr (hcloses ?_)
    intro statement hline
    rw [hstatement] at hline
    cases hline
    exact hplain

/-- A line that assembles and does not with a comment behind it. -/
theorem trailing_comment_misread :
    assemble "PUSHS \"a\\\"" = .ok (.ofInstructions [pushing 97, pushing 92]) ∧
      assemble "PUSHS \"a\\\" # c" = .error ⟨1, .sequence (.malformed "\"a\\\" # c")⟩ := by
  constructor
  · rfl
  · decide

end Whitespace
