import Whitespace.Proofs.Expansion
import Whitespace.Proofs.Lines

/-!
# Assembling line by line

No line of an assembly text depends on another.  Texts that are put together at
the end of a line are assembled apart, with the numbers of the later lines moved
along, and the fault that is reported is that of the first line that has one.
-/

namespace Whitespace

/-!
# Lines of texts put together
-/

namespace Text

def Closed (text : List Char) : Prop :=
  text = [] ∨ text.getLast? = some '\n'

theorem closed_of_append {front rest : List Char} (hclosed : Closed (front ++ '\n' :: rest)) :
    Closed rest := by
  rcases hclosed with hempty | hlast
  · cases front <;> cases hempty
  · cases rest with
    | nil => exact Or.inl rfl
    | cons c rest =>
        rw [List.getLast?_append_of_ne_nil _ (List.cons_ne_nil _ _),
          List.getLast?_cons_cons] at hlast
        exact Or.inr hlast

theorem rawLines_append_of_closed {first : List Char} (hclosed : Closed first)
    (second : List Char) : rawLines (first ++ second) = rawLines first ++ rawLines second := by
  induction first using line_induction with
  | empty => rfl
  | last line hnonempty hline =>
      rcases hclosed with hempty | hlast
      · exact absurd hempty hnonempty
      · exact absurd (List.mem_of_getLast? hlast) hline
  | cons line rest hline ih =>
      rw [List.append_assoc, List.cons_append, rawLines_append hline, rawLines_append hline,
        ih (closed_of_append hclosed)]
      rfl

theorem lines_append_of_closed {first : List Char} (hclosed : Closed first)
    (second : List Char) : lines (first ++ second) = lines first ++ lines second := by
  rw [lines, rawLines_append_of_closed hclosed, List.map_append]
  rfl

theorem chomp_isPrefix (line : List Char) : chomp (line ++ ['\n']) <+: line := by
  rcases List.eq_nil_or_concat line with hnil | ⟨front, c, hsnoc⟩
  · rw [hnil]
    exact List.prefix_refl []
  · rw [hsnoc, List.concat_eq_append, List.append_assoc, List.singleton_append]
    by_cases hc : c = '\r'
    · rw [hc, chomp_return]
      exact List.prefix_append front ['\r']
    · exact ⟨[], by rw [chomp_lineFeed hc, List.append_nil]⟩

theorem lineFeed_not_mem_of_mem_lines {text line : List Char} (hmem : line ∈ lines text) :
    '\n' ∉ line := by
  induction text using line_induction with
  | empty => cases hmem
  | last only hnonempty honly =>
      rw [lines, rawLines_of_not_mem honly hnonempty, List.map_singleton,
        chomp_of_not_mem honly] at hmem
      rw [List.mem_singleton.mp hmem]
      exact honly
  | cons first rest hfirst ih =>
      rw [lines, rawLines_append hfirst, List.map_cons] at hmem
      rcases List.mem_cons.mp hmem with hhead | htail
      · rw [hhead]
        exact fun hfeed => hfirst ((chomp_isPrefix first).subset hfeed)
      · exact ih htail

end Text

/-!
# Numbered lines

The number of the first line appears in nothing but the number of the line with
the fault.
-/

section Results

variable {ε α β : Type} {f : α -> β} {result : Except ε α}

theorem map_eq_error_iff {error : ε} : f <$> result = .error error ↔ result = .error error := by
  cases result with
  | error other => simp [Functor.map, Except.map]
  | ok value => simp [Functor.map, Except.map]

theorem map_eq_ok_iff {mapped : β} :
    f <$> result = .ok mapped ↔ exists value, result = .ok value ∧ f value = mapped := by
  cases result with
  | error error => simp [Functor.map, Except.map]
  | ok value => simp [Functor.map, Except.map]

end Results

def AssemblyError.moved (distance : Nat) (error : AssemblyError) : AssemblyError :=
  ⟨distance + error.line, error.fault⟩

theorem assembleLines_of_fault {line : List Char} {fault : AssemblyFault}
    (hline : assembleLine line = .error fault) (number : Nat) (rest : List (List Char)) :
    assembleLines number (line :: rest) = .error ⟨number, fault⟩ := by
  rw [assembleLines, hline]

theorem assembleLines_moved (distance number : Nat) (lines : List (List Char)) :
    assembleLines (distance + number) lines =
      (assembleLines number lines).mapError (AssemblyError.moved distance) := by
  induction lines generalizing number with
  | nil => rfl
  | cons line rest ih =>
      cases hline : assembleLine line with
      | error fault =>
          rw [assembleLines_of_fault hline, assembleLines_of_fault hline]
          rfl
      | ok instructions =>
          rw [assembleLines_cons hline, assembleLines_cons hline, Nat.add_assoc, ih]
          cases assembleLines (number + 1) rest with
          | error error => rfl
          | ok others => rfl

theorem assembleLines_append_of_error {number : Nat} {front : List (List Char)}
    {error : AssemblyError} (hfront : assembleLines number front = .error error)
    (rest : List (List Char)) : assembleLines number (front ++ rest) = .error error := by
  induction front generalizing number with
  | nil => cases hfront
  | cons line front ih =>
      rw [List.cons_append]
      cases hline : assembleLine line with
      | error fault =>
          rw [assembleLines_of_fault hline] at hfront ⊢
          exact hfront
      | ok instructions =>
          rw [assembleLines_cons hline, map_eq_error_iff] at hfront ⊢
          exact ih hfront

theorem assembleLines_append_of_ok {number : Nat} {front : List (List Char)}
    {instructions : List Instruction} (hfront : assembleLines number front = .ok instructions)
    (rest : List (List Char)) :
    assembleLines number (front ++ rest) =
      (instructions ++ ·) <$> assembleLines (number + front.length) rest := by
  induction front generalizing number instructions with
  | nil =>
      cases hfront
      rw [List.nil_append, List.length_nil, Nat.add_zero]
      exact (id_map _).symm
  | cons line front ih =>
      cases hline : assembleLine line with
      | error fault =>
          rw [assembleLines_of_fault hline] at hfront
          cases hfront
      | ok first =>
          rw [assembleLines_cons hline] at hfront
          rcases map_eq_ok_iff.mp hfront with ⟨others, hothers, hinstructions⟩
          rw [List.cons_append, assembleLines_cons hline, ih hothers, List.length_cons,
            Nat.add_assoc number 1, Nat.add_comm 1, ← hinstructions, Functor.map_map]
          simp only [List.append_assoc]

theorem assembleLines_eq_error_iff {number : Nat} {lines : List (List Char)}
    {error : AssemblyError} :
    assembleLines number lines = .error error ↔
      exists (before : List (List Char)) (line : List Char) (after : List (List Char)),
        lines = before ++ line :: after ∧ error.line = number + before.length ∧
          (forall earlier, earlier ∈ before ->
            exists instructions, assembleLine earlier = .ok instructions) ∧
          assembleLine line = .error error.fault := by
  induction lines generalizing number with
  | nil =>
      constructor
      · intro herror
        cases herror
      · rintro ⟨before, line, after, hlines, _⟩
        cases before <;> cases hlines
  | cons first rest ih =>
      cases hfirst : assembleLine first with
      | error fault =>
          rw [assembleLines_of_fault hfirst]
          constructor
          · intro herror
            cases herror
            refine ⟨[], first, rest, rfl, rfl, ?_, hfirst⟩
            intro earlier hmem
            cases hmem
          · rintro ⟨before, line, after, hlines, hnumber, hbefore, hline⟩
            cases before with
            | nil =>
                cases hlines
                rw [hfirst] at hline
                cases hline
                rw [← Nat.add_zero number, ← List.length_nil, ← hnumber]
            | cons earlier before =>
                cases hlines
                rcases hbefore first List.mem_cons_self with ⟨instructions, hok⟩
                rw [hfirst] at hok
                cases hok
      | ok instructions =>
          have hrest : assembleLines number (first :: rest) = .error error ↔
              assembleLines (number + 1) rest = .error error := by
            rw [assembleLines_cons hfirst]
            exact map_eq_error_iff
          rw [hrest, ih]
          constructor
          · rintro ⟨before, line, after, hlines, hnumber, hbefore, hline⟩
            refine ⟨first :: before, line, after, ?_, ?_, ?_, hline⟩
            · rw [hlines]
              rfl
            · rw [hnumber, List.length_cons, Nat.add_assoc, Nat.add_comm 1]
            · intro earlier hmem
              cases hmem with
              | head => exact ⟨instructions, hfirst⟩
              | tail _ hmem => exact hbefore earlier hmem
          · rintro ⟨before, line, after, hlines, hnumber, hbefore, hline⟩
            cases before with
            | nil =>
                cases hlines
                rw [hfirst] at hline
                cases hline
            | cons earlier before =>
                cases hlines
                refine ⟨before, line, after, rfl, ?_, ?_, hline⟩
                · rw [hnumber, List.length_cons, Nat.add_assoc, Nat.add_comm 1]
                · intro other hmem
                  exact hbefore other (List.mem_cons_of_mem first hmem)

/-!
# Whole texts
-/

theorem assemble_eq (source : String) :
    assemble source = Assembly.ofInstructions <$> assembleLines 1 (Text.lines source.toList) := by
  unfold assemble
  cases assembleLines 1 (Text.lines source.toList) with
  | error error => rfl
  | ok instructions => rfl

theorem assemble_eq_error_iff {source : String} {error : AssemblyError} :
    assemble source = .error error ↔
      assembleLines 1 (Text.lines source.toList) = .error error := by
  rw [assemble_eq]
  exact map_eq_error_iff

theorem assemble_eq_ok_iff {source : String} {assembly : Assembly} :
    assemble source = .ok assembly ↔
      exists instructions, assembleLines 1 (Text.lines source.toList) = .ok instructions ∧
        Assembly.ofInstructions instructions = assembly := by
  rw [assemble_eq, map_eq_ok_iff]

theorem Assembly.ofInstructions_inj {first second : List Instruction} :
    Assembly.ofInstructions first = .ofInstructions second ↔ first = second := by
  constructor
  · intro hsame
    exact congrArg (fun assembly : Assembly => assembly.program.toList) hsame
  · intro hsame
    rw [hsame]

theorem Assembly.ofInstructions_append (first second : List Instruction) :
    Assembly.ofInstructions (first ++ second) =
      ⟨(ofInstructions first).program ++ (ofInstructions second).program,
        (ofInstructions first).lines ++ (ofInstructions second).lines⟩ := by
  simp only [ofInstructions, List.append_toArray, List.map_append]

theorem assembleLines_lines {line : List Char} (hline : '\n' ∉ line) :
    assembleLines 1 (Text.lines line) = assembleLines 1 [line] := by
  cases line with
  | nil => rfl
  | cons c rest =>
      rw [Text.lines, Text.rawLines_of_not_mem hline (List.cons_ne_nil c rest),
        List.map_singleton, Text.chomp_of_not_mem hline]

theorem assemble_line_eq_ok_iff {line : List Char} (hline : '\n' ∉ line)
    {instructions : List Instruction} :
    assemble (String.ofList line) = .ok (.ofInstructions instructions) ↔
      assembleLine line = .ok instructions := by
  rw [assemble_eq_ok_iff, String.toList_ofList, assembleLines_lines hline]
  simp only [Assembly.ofInstructions_inj, exists_eq_right]
  cases hassembled : assembleLine line with
  | error fault =>
      rw [assembleLines_of_fault hassembled]
      simp
  | ok found =>
      have hfound : assembleLines 1 [line] = .ok found := by
        rw [assembleLines_cons hassembled]
        exact congrArg Except.ok (List.append_nil found)
      simp [hfound]

theorem assemble_line_eq_error_iff {line : List Char} (hline : '\n' ∉ line)
    {fault : AssemblyFault} :
    assemble (String.ofList line) = .error ⟨1, fault⟩ ↔ assembleLine line = .error fault := by
  rw [assemble_eq_error_iff, String.toList_ofList, assembleLines_lines hline]
  cases hassembled : assembleLine line with
  | error other =>
      rw [assembleLines_of_fault hassembled]
      simp
  | ok found =>
      rw [assembleLines_cons hassembled, map_eq_error_iff]
      simp [assembleLines]

/-- The error tells of the first line of the text that does not assemble by itself. -/
def FailsFirst (source : String) (error : AssemblyError) : Prop :=
  exists (before : List (List Char)) (line : List Char) (after : List (List Char)),
    Text.lines source.toList = before ++ line :: after ∧ error.line = before.length + 1 ∧
      (forall earlier, earlier ∈ before ->
        exists assembly, assemble (String.ofList earlier) = .ok assembly) ∧
      assemble (String.ofList line) = .error ⟨1, error.fault⟩

theorem assemble_eq_error_iff_failsFirst {source : String} {error : AssemblyError} :
    assemble source = .error error ↔ FailsFirst source error := by
  have hfeed : forall {before : List (List Char)} {line : List Char} {after : List (List Char)},
      Text.lines source.toList = before ++ line :: after ->
        '\n' ∉ line ∧ forall earlier, earlier ∈ before -> '\n' ∉ earlier := by
    intro before line after hlines
    constructor
    · exact @Text.lineFeed_not_mem_of_mem_lines source.toList line (by rw [hlines]; simp)
    · intro earlier hmem
      exact @Text.lineFeed_not_mem_of_mem_lines source.toList earlier (by rw [hlines]; simp [hmem])
  rw [assemble_eq_error_iff, assembleLines_eq_error_iff]
  constructor
  · rintro ⟨before, line, after, hlines, hnumber, hbefore, hline⟩
    refine ⟨before, line, after, hlines, hnumber.trans (Nat.add_comm 1 _), ?_, ?_⟩
    · intro earlier hmem
      rcases hbefore earlier hmem with ⟨instructions, hok⟩
      exact ⟨_, (assemble_line_eq_ok_iff ((hfeed hlines).right earlier hmem)).mpr hok⟩
    · exact (assemble_line_eq_error_iff (hfeed hlines).left).mpr hline
  · rintro ⟨before, line, after, hlines, hnumber, hbefore, hline⟩
    refine ⟨before, line, after, hlines, hnumber.trans (Nat.add_comm _ 1), ?_, ?_⟩
    · intro earlier hmem
      rcases hbefore earlier hmem with ⟨assembly, hok⟩
      have hearlier := (hfeed hlines).right earlier hmem
      rcases assemble_eq_ok_iff.mp hok with ⟨instructions, _hlines, hassembly⟩
      rw [← hassembly] at hok
      exact ⟨instructions, (assemble_line_eq_ok_iff hearlier).mp hok⟩
    · exact (assemble_line_eq_error_iff (hfeed hlines).left).mp hline

/-!
# Texts put together
-/

section Together

variable {first : String} (hclosed : Text.Closed first.toList) (second : String)
include hclosed

theorem lines_append_string :
    Text.lines (first ++ second).toList =
      Text.lines first.toList ++ Text.lines second.toList := by
  rw [String.toList_append, Text.lines_append_of_closed hclosed]

theorem assemble_append_of_error {error : AssemblyError} (hfirst : assemble first = .error error) :
    assemble (first ++ second) = .error error := by
  rw [assemble_eq_error_iff] at hfirst ⊢
  rw [lines_append_string hclosed]
  exact assembleLines_append_of_error hfirst _

theorem assemble_append_of_later_error {assembly : Assembly} {error : AssemblyError}
    (hfirst : assemble first = .ok assembly) (hsecond : assemble second = .error error) :
    assemble (first ++ second) =
      .error (error.moved (Text.lines first.toList).length) := by
  rcases assemble_eq_ok_iff.mp hfirst with ⟨instructions, hlines, _hassembly⟩
  rw [assemble_eq_error_iff] at hsecond ⊢
  rw [lines_append_string hclosed, assembleLines_append_of_ok hlines, Nat.add_comm 1,
    assembleLines_moved, hsecond]
  rfl

theorem assemble_append_of_ok {assembly other : Assembly} (hfirst : assemble first = .ok assembly)
    (hsecond : assemble second = .ok other) :
    assemble (first ++ second) =
      .ok ⟨assembly.program ++ other.program, assembly.lines ++ other.lines⟩ := by
  rcases assemble_eq_ok_iff.mp hfirst with ⟨front, hfront, hassembly⟩
  rcases assemble_eq_ok_iff.mp hsecond with ⟨back, hback, hother⟩
  rw [← hassembly, ← hother, ← Assembly.ofInstructions_append]
  apply assemble_of_lines
  rw [lines_append_string hclosed, assembleLines_append_of_ok hfront, Nat.add_comm 1,
    assembleLines_moved, hback]
  rfl

end Together

/-!
# Line by line
-/

theorem assembles_line_by_line :
    (forall first second : String, Text.Closed first.toList ->
      (forall error : AssemblyError, assemble first = .error error ->
        assemble (first ++ second) = .error error) ∧
      (forall (assembly : Assembly) (error : AssemblyError), assemble first = .ok assembly ->
        assemble second = .error error ->
          assemble (first ++ second) =
            .error (error.moved (Text.lines first.toList).length)) ∧
      (forall assembly other : Assembly, assemble first = .ok assembly ->
        assemble second = .ok other ->
          assemble (first ++ second) =
            .ok ⟨assembly.program ++ other.program, assembly.lines ++ other.lines⟩)) ∧
    (forall (source : String) (error : AssemblyError),
      assemble source = .error error ↔ FailsFirst source error) ∧
    (forall (line : List Char) (result : Except AssemblyFault (List Instruction)),
      Processes line result ↔ assembleLine line = result) ∧
    (forall (line : List Char) (statement : Statement) (lines : List String),
      Statement.ofLine? line = some statement ->
      PushSequence.isName statement.word = true ->
      PushSequence.expand statement.argument = .ok lines ->
        exists (argument : List Char) (values : List Int),
          statement.argument = some argument ∧ PushSequence.values argument = .ok values ∧
            Processes line (.ok (values.map pushing))) := by
  refine ⟨?_, fun source error => assemble_eq_error_iff_failsFirst,
    fun line result => processes_iff, ?_⟩
  · intro first second hclosed
    exact ⟨fun error => assemble_append_of_error hclosed second,
      fun assembly error => assemble_append_of_later_error hclosed second,
      fun assembly other => assemble_append_of_ok hclosed second⟩
  · intro line statement lines hline hname hexpand
    rcases PushSequence.exists_values_of_expand hexpand with
      ⟨argument, values, hargument, hvalues, hpushes⟩
    refine ⟨argument, values, hargument, hvalues, ?_⟩
    rw [hpushes] at hexpand
    rw [processes_iff, assembleLine_eq_instructions hline]
    exact Statement.instructions_of_expand hname hexpand

/-- Three lines, one of them with a carriage return and one empty, in front of a sequence with a
fault and in front of a line with a comment; and a sequence that is expanded. -/
theorem assembles_line_by_line_sequences :
    Text.Closed "PUSH b01\r\nDUP\n\n".toList ∧
      assemble ("PUSH b01\r\nDUP\n\n" ++ "DUP\nPUSHS [4,\nFROB") =
        .error ⟨5, .sequence (.malformed "[4,")⟩ ∧
      assemble ("PUSH b01\r\nDUP\n\n" ++ "SWAP # and back") =
        .ok ⟨#[.number .push ⟨[false, true]⟩, .plain .dup, .plain .swap],
          ["SSSTL", "SLS", "SLT"]⟩ ∧
      FailsFirst "DUP\nPUSHS [4,\nFROB" ⟨2, .sequence (.malformed "[4,")⟩ ∧
      exists (argument : List Char) (values : List Int),
        some "[4, -5]".toList = some argument ∧ PushSequence.values argument = .ok values ∧
          Processes "pushs [4, -5] # two".toList (.ok (values.map pushing)) := by
  have hclosed : Text.Closed "PUSH b01\r\nDUP\n\n".toList := Or.inr (by decide)
  have hfirst : assemble "PUSH b01\r\nDUP\n\n" =
      .ok ⟨#[.number .push ⟨[false, true]⟩, .plain .dup], ["SSSTL", "SLS"]⟩ := by
    decide
  have hfault : assemble "DUP\nPUSHS [4,\nFROB" = .error ⟨2, .sequence (.malformed "[4,")⟩ := by
    decide
  rcases assembles_line_by_line with ⟨htogether, hreported, _, hexpanded⟩
  rcases htogether _ "DUP\nPUSHS [4,\nFROB" hclosed with ⟨_, hlater, _⟩
  rcases htogether _ "SWAP # and back" hclosed with ⟨_, _, hboth⟩
  refine ⟨hclosed, hlater _ _ hfirst hfault, ?_, (hreported _ _).mp hfault, ?_⟩
  · exact hboth _ ⟨#[.plain .swap], ["SLT"]⟩ hfirst (by decide)
  · have hline : Statement.ofLine? "pushs [4, -5] # two".toList =
        some ⟨"pushs".toList, some "[4, -5]".toList⟩ := by
      decide
    exact hexpanded _ _ ([4, -5].map PushSequence.line) hline (by decide) rfl

end Whitespace
