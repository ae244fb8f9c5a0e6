import Mathlib.Data.List.Basic
import Mathlib.Data.List.TakeWhile
import Whitespace.Text.Blank
import Whitespace.Text.Fields
import Whitespace.Text.Integer
import Whitespace.Text.Lines

/-!
# Cutting and reading text

Lines that are put together come apart again, trimming takes off the blanks at the
ends and no more, and decimal text is read as the integer it was written for.
-/

namespace Whitespace
namespace Text

/-!
# Lines
-/

theorem rawLinesFrom_append {line : List Char} (hline : '\n' ∉ line)
    (taken rest : List Char) :
    rawLinesFrom taken (line ++ '\n' :: rest) =
      (taken.reverse ++ line ++ ['\n']) :: rawLinesFrom [] rest := by
  induction line generalizing taken with
  | nil => simp [rawLinesFrom]
  | cons c line ih =>
      have hc : c ≠ '\n' := by
        intro hsame
        exact hline (by rw [hsame]; exact List.mem_cons_self)
      have hrest : '\n' ∉ line := by
        intro hmem
        exact hline (List.mem_cons_of_mem c hmem)
      rw [List.cons_append, rawLinesFrom, if_neg hc, ih hrest]
      simp

theorem chomp_append {line : List Char} (hline : '\r' ∉ line) :
    chomp (line ++ ['\n']) = line := by
  have hreverse : (line ++ ['\n']).reverse = '\n' :: line.reverse := by
    simp
  unfold chomp
  rw [hreverse]
  split
  case h_1 rest hends =>
      injection hends with _ htail
      have hmem : '\r' ∈ line.reverse := by
        rw [htail]
        exact List.mem_cons_self
      exact absurd (List.mem_reverse.mp hmem) hline
  case h_2 rest _hno hends =>
      injection hends with _ htail
      rw [← htail, List.reverse_reverse]
  case h_3 hno =>
      exact absurd rfl (hno line.reverse)

theorem lines_append {line : List Char} (hlineFeed : '\n' ∉ line) (hreturn : '\r' ∉ line)
    (rest : List Char) : lines (line ++ '\n' :: rest) = line :: lines rest := by
  unfold lines rawLines
  rw [rawLinesFrom_append hlineFeed, List.map_cons, List.reverse_nil, List.nil_append,
    chomp_append hreturn]

theorem lines_flatMap {contents : List (List Char)}
    (hlineFeed : forall line, line ∈ contents -> '\n' ∉ line)
    (hreturn : forall line, line ∈ contents -> '\r' ∉ line) :
    lines (contents.flatMap (· ++ ['\n'])) = contents := by
  induction contents with
  | nil => rfl
  | cons line contents ih =>
      have hothers := ih
        (fun other hmem => hlineFeed other (List.mem_cons_of_mem line hmem))
        (fun other hmem => hreturn other (List.mem_cons_of_mem line hmem))
      rw [List.flatMap_cons, List.append_assoc, List.singleton_append,
        lines_append (hlineFeed line List.mem_cons_self) (hreturn line List.mem_cons_self),
        hothers]

/-!
# Blanks
-/

theorem trimStart_cons {c : Char} (hc : isBlank c = false) (rest : List Char) :
    trimStart (c :: rest) = c :: rest := by
  rw [trimStart, List.dropWhile_cons_of_neg (by simp [hc])]

theorem trimStart_append {text : List Char} (htext : trimStart text ≠ []) (rest : List Char) :
    trimStart (text ++ rest) = trimStart text ++ rest := by
  rw [trimStart, List.dropWhile_append, ← trimStart]
  cases hstart : trimStart text with
  | nil => exact absurd hstart htext
  | cons c others => rfl

theorem trimEnd_append_singleton {c : Char} (hc : isBlank c = false) (front : List Char) :
    trimEnd (front ++ [c]) = front ++ [c] := by
  rw [trimEnd, List.reverse_append, List.reverse_singleton, List.singleton_append,
    List.dropWhile_cons_of_neg (by simp [hc]), List.reverse_cons, List.reverse_reverse]

theorem trim_of_append {front core back : List Char} (hcore : core ≠ [])
    (hfront : forall c, c ∈ front -> isBlank c = true)
    (hback : forall c, c ∈ back -> isBlank c = true)
    (hfirst : forall c, core.head? = some c -> isBlank c = false)
    (hlast : forall c, core.getLast? = some c -> isBlank c = false) :
    trim (front ++ core ++ back) = core := by
  have hstart : trimStart (front ++ core ++ back) = core ++ back := by
    rw [List.append_assoc, trimStart, List.dropWhile_append_of_pos hfront]
    cases core with
    | nil => exact absurd rfl hcore
    | cons c rest => exact trimStart_cons (hfirst c rfl) (rest ++ back)
  have hblanks : forall c, c ∈ back.reverse -> isBlank c = true :=
    fun c hmem => hback c (List.mem_reverse.mp hmem)
  have hend : trimEnd core = core := by
    rcases List.eq_nil_or_concat core with hnil | ⟨rest, c, hsnoc⟩
    · exact absurd hnil hcore
    · rw [hsnoc, List.concat_eq_append] at hlast ⊢
      exact trimEnd_append_singleton (hlast c (by simp)) rest
  rw [trim, hstart, trimEnd, List.reverse_append, List.dropWhile_append_of_pos hblanks, ← trimEnd,
    hend]

theorem trim_eq_self {text : List Char}
    (hfirst : forall c, text.head? = some c -> isBlank c = false)
    (hlast : forall c, text.getLast? = some c -> isBlank c = false) : trim text = text := by
  by_cases hempty : text = []
  · rw [hempty]
    rfl
  · have hends : forall c, c ∈ ([] : List Char) -> isBlank c = true := by simp
    have htrim := trim_of_append hempty hends hends hfirst hlast
    rw [List.nil_append, List.append_nil] at htrim
    exact htrim

theorem exists_trim_append (text : List Char) :
    exists front back : List Char, text = front ++ trim text ++ back ∧
      (forall c, c ∈ front -> isBlank c = true) ∧ (forall c, c ∈ back -> isBlank c = true) := by
  refine ⟨text.takeWhile isBlank, ((trimStart text).reverse.takeWhile isBlank).reverse, ?_, ?_, ?_⟩
  · have hend : trim text ++ ((trimStart text).reverse.takeWhile isBlank).reverse =
        trimStart text := by
      rw [trim, trimEnd, ← List.reverse_append, List.takeWhile_append_dropWhile,
        List.reverse_reverse]
    rw [List.append_assoc, hend, trimStart, List.takeWhile_append_dropWhile]
  · intro c hmem
    exact List.mem_takeWhile_imp hmem
  · intro c hmem
    exact List.mem_takeWhile_imp (List.mem_reverse.mp hmem)

theorem isBlank_of_getLast?_trim {text : List Char} {c : Char}
    (hlast : (trim text).getLast? = some c) : isBlank c = false := by
  rw [trim, trimEnd, List.getLast?_reverse] at hlast
  have hkept := List.head?_dropWhile_not isBlank (trimStart text).reverse
  rw [hlast] at hkept
  exact hkept

theorem isBlank_of_head?_trim {text : List Char} {c : Char}
    (hfirst : (trim text).head? = some c) : isBlank c = false := by
  have hprefix : trim text <+: trimStart text := by
    rw [trim, trimEnd, ← List.reverse_suffix, List.reverse_reverse]
    exact List.dropWhile_suffix isBlank
  have hstart : (trimStart text).head? = some c := by
    rcases hprefix with ⟨back, hback⟩
    rw [← hback, List.head?_append, hfirst, Option.some_or]
  have hkept := List.head?_dropWhile_not isBlank text
  rw [← trimStart, hstart] at hkept
  exact hkept

theorem trim_trim (text : List Char) : trim (trim text) = trim text :=
  trim_eq_self (fun _c hfirst => isBlank_of_head?_trim hfirst)
    (fun _c hlast => isBlank_of_getLast?_trim hlast)

theorem trim_append_blanks {text blanks : List Char}
    (hblanks : forall c, c ∈ blanks -> isBlank c = true) : trim (text ++ blanks) = trim text := by
  rcases exists_trim_append text with ⟨front, back, hsplit, hfront, hback⟩
  by_cases hempty : trim text = []
  · have hall : forall c, c ∈ front ++ back ++ blanks -> isBlank c = true := by
      intro c hmem
      rw [List.mem_append, List.mem_append] at hmem
      rcases hmem with (hmem | hmem) | hmem
      · exact hfront c hmem
      · exact hback c hmem
      · exact hblanks c hmem
    rw [hempty, List.append_nil] at hsplit
    rw [hempty, hsplit, trim, trimStart, List.dropWhile_eq_nil_iff.mpr hall]
    rfl
  · have hbehind : forall c, c ∈ back ++ blanks -> isBlank c = true := by
      intro c hmem
      rcases List.mem_append.mp hmem with hmem | hmem
      · exact hback c hmem
      · exact hblanks c hmem
    have htrim := trim_of_append hempty hfront hbehind (fun _c => isBlank_of_head?_trim)
      (fun _c => isBlank_of_getLast?_trim)
    rw [← List.append_assoc, ← hsplit] at htrim
    exact htrim

theorem mem_trim {text : List Char} {c : Char} (hc : isBlank c = false) (hmem : c ∈ text) :
    c ∈ trim text := by
  rcases exists_trim_append text with ⟨front, back, hsplit, hfront, hback⟩
  rw [hsplit, List.mem_append, List.mem_append] at hmem
  rcases hmem with (hmem | hmem) | hmem
  · rw [hfront c hmem] at hc
    cases hc
  · exact hmem
  · rw [hback c hmem] at hc
    cases hc

theorem exists_trim_append_of_mem {text more : List Char} {c : Char} (htext : trim text ≠ [])
    (hc : isBlank c = false) (hmem : c ∈ more) :
    exists tail : List Char, trim (text ++ more) = trim text ++ tail ∧ c ∈ tail := by
  rcases exists_trim_append text with ⟨front, blanks, hsplit, hfront, _⟩
  rcases exists_trim_append more with ⟨others, back, hmore, _, hback⟩
  have hinside : c ∈ trim more := mem_trim hc hmem
  have hnonempty : trim more ≠ [] := List.ne_nil_of_mem hinside
  refine ⟨blanks ++ others ++ trim more, ?_, List.mem_append_right _ hinside⟩
  have hwhole : text ++ more =
      front ++ (trim text ++ (blanks ++ others ++ trim more)) ++ back := by
    calc
      text ++ more = (front ++ trim text ++ blanks) ++ (others ++ trim more ++ back) := by
        rw [← hsplit, ← hmore]
      _ = front ++ (trim text ++ (blanks ++ others ++ trim more)) ++ back := by
        simp only [List.append_assoc]
  rw [hwhole]
  apply trim_of_append
  · exact List.append_ne_nil_of_left_ne_nil htext _
  · exact hfront
  · exact hback
  · intro d hfirst
    rw [List.head?_append_of_ne_nil _ htext] at hfirst
    exact isBlank_of_head?_trim hfirst
  · intro d hlast
    rw [← List.append_assoc, List.getLast?_append_of_ne_nil _ hnonempty] at hlast
    exact isBlank_of_getLast?_trim hlast

theorem splitWord_append {word : List Char} {c : Char}
    (hword : forall d, d ∈ word -> isBlank d = false) (hc : isBlank c = true)
    (rest : List Char) : splitWord (word ++ c :: rest) = (word, rest) := by
  have hkept : forall d, d ∈ word -> (!isBlank d) = true := by
    intro d hmem
    rw [hword d hmem]
    rfl
  unfold splitWord
  rw [List.takeWhile_append_of_pos hkept, List.dropWhile_append_of_pos hkept]
  simp [hc]

theorem splitWord_eq_self {word : List Char}
    (hword : forall d, d ∈ word -> isBlank d = false) : splitWord word = (word, []) := by
  have hkept : forall d, d ∈ word -> (!isBlank d) = true := by
    intro d hmem
    rw [hword d hmem]
    rfl
  unfold splitWord
  rw [List.takeWhile_eq_self_iff.mpr hkept, List.dropWhile_eq_nil_iff.mpr hkept]
  rfl

theorem eq_of_splitWord {text word rest : List Char} (hsplit : splitWord text = (word, rest)) :
    (forall c, c ∈ word -> isBlank c = false) ∧
      (text = word ∧ rest = [] ∨
        exists blank, isBlank blank = true ∧ text = word ++ blank :: rest) := by
  unfold splitWord at hsplit
  injection hsplit with hword hrest
  have htext := List.takeWhile_append_dropWhile (p := (!isBlank ·)) (l := text)
  rw [hword] at htext
  constructor
  · intro c hmem
    rw [← hword] at hmem
    simpa using List.mem_takeWhile_imp hmem
  · cases hbehind : text.dropWhile (!isBlank ·) with
    | nil =>
        rw [hbehind] at hrest htext
        exact Or.inl ⟨by rw [← htext, List.append_nil], hrest.symm⟩
    | cons blank others =>
        rw [hbehind] at hrest htext
        have hblank := List.head?_dropWhile_not (!isBlank ·) text
        rw [hbehind] at hblank
        refine Or.inr ⟨blank, by simpa using hblank, ?_⟩
        rw [← htext, ← hrest]
        rfl

/-!
# Fields

A text is one field, or a field and a text behind the separator.
-/

theorem field_induction {motive : List Char -> Prop} (separator : Char)
    (last : forall field, separator ∉ field -> motive field)
    (cons : forall field rest, separator ∉ field -> motive rest ->
      motive (field ++ separator :: rest)) (text : List Char) : motive text := by
  induction hlength : text.length using Nat.strongRecOn generalizing text with
  | ind length ih =>
      by_cases hmem : separator ∈ text
      · rcases List.eq_append_cons_of_mem hmem with ⟨field, rest, hsplit, hfield⟩
        rw [hsplit]
        apply cons field rest hfield
        apply ih rest.length _ rest rfl
        rw [← hlength, hsplit, List.length_append, List.length_cons]
        omega
      · exact last text hmem

theorem fields_of_not_mem {separator : Char} {text : List Char} (hfree : separator ∉ text) :
    fields separator text = [text] := by
  induction text with
  | nil => rfl
  | cons c rest ih =>
      have hc : c ≠ separator := Ne.symm (List.ne_of_not_mem_cons hfree)
      rw [fields, if_neg hc, ih (List.not_mem_of_not_mem_cons hfree)]

theorem fields_append {separator : Char} {field : List Char} (hfree : separator ∉ field)
    (rest : List Char) :
    fields separator (field ++ separator :: rest) = field :: fields separator rest := by
  induction field with
  | nil => rw [List.nil_append, fields, if_pos rfl]
  | cons c others ih =>
      have hc : c ≠ separator := Ne.symm (List.ne_of_not_mem_cons hfree)
      rw [List.cons_append, fields, if_neg hc, ih (List.not_mem_of_not_mem_cons hfree)]

theorem exists_mem_fields {separator c : Char} {text : List Char} (hmem : c ∈ text)
    (hc : c ≠ separator) : exists field, field ∈ fields separator text ∧ c ∈ field := by
  induction text with
  | nil => cases hmem
  | cons d rest ih =>
      rw [fields]
      by_cases hseparator : d = separator
      · rw [if_pos hseparator]
        rcases List.mem_cons.mp hmem with hsame | hmem
        · exact absurd (hsame.trans hseparator) hc
        · rcases ih hmem with ⟨field, hfield, hinside⟩
          exact ⟨field, List.mem_cons_of_mem [] hfield, hinside⟩
      · rw [if_neg hseparator]
        cases hrest : fields separator rest with
        | nil =>
            rw [hrest] at ih
            rcases List.mem_cons.mp hmem with hsame | hmem
            · exact ⟨[d], List.mem_cons_self, by rw [hsame]; exact List.mem_cons_self⟩
            · rcases ih hmem with ⟨field, hfield, _⟩
              cases hfield
        | cons first others =>
            rw [hrest] at ih
            rcases List.mem_cons.mp hmem with hsame | hmem
            · exact ⟨d :: first, List.mem_cons_self, by rw [hsame]; exact List.mem_cons_self⟩
            · rcases ih hmem with ⟨field, hfield, hinside⟩
              cases hfield with
              | head => exact ⟨d :: first, List.mem_cons_self, List.mem_cons_of_mem d hinside⟩
              | tail _ hfield => exact ⟨field, List.mem_cons_of_mem _ hfield, hinside⟩

/-!
# Decimal digits
-/

theorem digit_bounds {c : Char} (hc : c.isDigit = true) : 48 ≤ c.toNat ∧ c.toNat ≤ 57 := by
  have hbounds : 48 ≤ c.val ∧ c.val ≤ 57 := by
    simpa [Char.isDigit] using hc
  exact ⟨UInt32.le_iff_toNat_le.mp hbounds.left, UInt32.le_iff_toNat_le.mp hbounds.right⟩

theorem digitValue?_digit {c : Char} (hc : c.isDigit = true) :
    digitValue? c = some (c.toNat - '0'.toNat) := by
  have hbounds : '0' ≤ c ∧ c ≤ '9' := by
    simpa [Char.isDigit, Char.le_def] using hc
  rw [digitValue?, if_pos hbounds]

theorem digit_ne {c d : Char} (hc : c.isDigit = true) (hd : d.isDigit = false) : c ≠ d := by
  intro hsame
  rw [hsame, hd] at hc
  cases hc

theorem readDigits_digits {digits : List Char}
    (hdigits : forall c, c ∈ digits -> c.isDigit = true) (value : Nat) :
    readDigits 10 value digits = some (Nat.ofDigitChars 10 digits value) := by
  induction digits generalizing value with
  | nil => rfl
  | cons c digits ih =>
      have hc : c.isDigit = true := hdigits c List.mem_cons_self
      have hothers : forall d, d ∈ digits -> d.isDigit = true := by
        intro d hmem
        exact hdigits d (List.mem_cons_of_mem c hmem)
      have hsmall : c.toNat - '0'.toNat < 10 := by
        have hbounds := digit_bounds hc
        show c.toNat - 48 < 10
        omega
      rw [readDigits, if_neg (digit_ne hc (by decide)), digitValue?_digit hc]
      simp only [if_pos hsmall]
      rw [ih hothers, Nat.ofDigitChars_cons, Nat.mul_comm 10 value]

theorem isDigit_of_mem_toDigits {n : Nat} {c : Char} (hmem : c ∈ Nat.toDigits 10 n) :
    c.isDigit = true :=
  Nat.isDigit_of_mem_toDigits (by decide) (by decide) hmem

theorem not_mem_toDigits {c : Char} (hc : c.isDigit = false) (n : Nat) :
    c ∉ Nat.toDigits 10 n := by
  intro hmem
  exact digit_ne (isDigit_of_mem_toDigits hmem) hc rfl

theorem toDigits_ne_cons {c : Char} (hc : c.isDigit = false) {n : Nat} {rest : List Char} :
    Nat.toDigits 10 n ≠ c :: rest := by
  intro hshape
  apply not_mem_toDigits hc n
  rw [hshape]
  exact List.mem_cons_self

theorem readNatural?_toDigits (n : Nat) : readNatural? 10 (Nat.toDigits 10 n) = some n := by
  have hread := readDigits_digits (fun c (hmem : c ∈ Nat.toDigits 10 n) =>
    isDigit_of_mem_toDigits hmem) 0
  rw [Nat.ofDigitChars_ten_toDigits] at hread
  unfold readNatural?
  split
  case h_1 hnil => exact absurd hnil Nat.toDigits_ne_nil
  case h_2 rest hunderscore => exact absurd hunderscore (toDigits_ne_cons (by decide))
  case h_3 => exact hread

theorem toList_toString_nat (n : Nat) : (toString n).toList = Nat.toDigits 10 n := by
  rw [Nat.toString_eq_ofList_toDigits, String.toList_ofList]

theorem toList_toString_ofNat (n : Nat) : (toString (n : Int)).toList = Nat.toDigits 10 n :=
  toList_toString_nat n

theorem toList_toString_negSucc (n : Nat) :
    (toString (Int.negSucc n)).toList = '-' :: Nat.toDigits 10 (n + 1) := by
  show ("-" ++ toString (n + 1)).toList = _
  rw [String.toList_append, toList_toString_nat]
  rfl

end Text
end Whitespace
