import Whitespace.Workbench
import Whitespace.Proofs.Layouts
import Whitespace.Proofs.Reports
import Whitespace.Proofs.Writes

/-!
# What a printed state tells

A snapshot is printed as plain text and as JSON.  Either way its stack starts
behind the only opening bracket, and both its parts are series that end by
themselves.  So the text can be read back, wherever it stands: what a finished run
leaves on the console determines the stack and the heap that the run ended with.
-/

namespace Whitespace

open Text (Layout Detaches StartsOutside isIntegral decimal)

/-!
# Blocks of JSON
-/

namespace Json

variable {α : Type}

def blockLayout (depth : Nat) (closing : List Char) : Layout where
  empty := closing
  lead := '\n' :: (margin (depth + 1)).toList
  separator := ',' :: '\n' :: (margin (depth + 1)).toList
  closing := '\n' :: ((margin depth).toList ++ closing)

theorem toList_block (depth : Nat) (opening closing : String) (spell : α -> String)
    (items : List α) :
    (block depth opening closing (items.map spell)).toList =
      opening.toList ++
        (blockLayout depth closing.toList).text (fun item => (spell item).toList) items := by
  have hnewline : "\n".toList = ['\n'] := by decide
  have hcomma : ",\n".toList = [',', '\n'] := by decide
  cases items with
  | nil =>
      rw [List.map_nil, block, List.isEmpty_nil, if_pos rfl, String.toList_append]
      rfl
  | cons item items =>
      simp only [block, List.map_cons, List.isEmpty_cons, Bool.false_eq_true, if_false,
        String.toList_append, String.toList_intercalate, hnewline, hcomma, List.map_map,
        Layout.intercalate_cons, List.flatMap_map, Layout.text_cons, Layout.tail, blockLayout,
        Function.comp_apply, List.append_assoc, List.cons_append, List.nil_append]

theorem isClear_blockLayout (depth : Nat) {closing : Char} (hclosing : '\n' ≠ closing)
    (write : α -> List Char) : (blockLayout depth [closing]).IsClear write fun _ => True where
  before_separator _rest := trivial
  before_closing _rest := trivial
  separator_closing := Text.apart_of_head_ne (by decide) _ _
  item_empty _item := Text.apart_of_head_ne hclosing _ _

theorem escape_of_isIntegral {c : Char} (hc : isIntegral c = true) : escape c = c.toString := by
  have hne : forall d : Char, isIntegral d = false -> c ≠ d := by
    intro d hd hsame
    rw [hsame, hd] at hc
    cases hc
  have hvisible : ¬ c.toNat < 0x20 := by
    rw [isIntegral, Bool.or_eq_true, beq_iff_eq] at hc
    rcases hc with hdigit | hminus
    · have hbounds := Text.digit_bounds hdigit
      omega
    · rw [hminus]
      decide
  rw [escape, if_neg (hne '"' rfl), if_neg (hne '\\' rfl), if_neg (hne '\x08' rfl),
    if_neg (hne '\x0c' rfl), if_neg (hne '\n' rfl), if_neg (hne '\r' rfl),
    if_neg (hne '\t' rfl), if_neg hvisible]

theorem toList_quote_toString (value : Int) :
    (quote (toString value)).toList = ['"'] ++ decimal value ++ ['"'] := by
  have hquote : "\"".toList = ['"'] := by decide
  have hescaped : (decimal value).map escape = (decimal value).map Char.toString :=
    List.map_congr_left fun c hmem => escape_of_isIntegral (Text.isIntegral_of_mem_decimal hmem)
  unfold decimal at hescaped ⊢
  rw [quote, hescaped, String.toList_append, String.toList_append, String.toList_join, hquote,
    List.flatMap_map]
  simp

theorem prettyItems_map (depth : Nat) (values : List Int) :
    prettyItems depth (values.map fun value => ofString (toString value)) =
      values.map fun value => quote (toString value) := by
  induction values with
  | nil => rfl
  | cons value values ih =>
      rw [List.map_cons, prettyItems, ih]
      rfl

theorem prettyFields_map (depth : Nat) (cells : List (Int × Int)) :
    prettyFields depth
        (cells.map fun cell => (some (toString cell.1), ofString (toString cell.2))) =
      cells.map fun cell => quote (toString cell.1) ++ ": " ++ quote (toString cell.2) := by
  induction cells with
  | nil => rfl
  | cons cell cells ih =>
      rw [List.map_cons, prettyFields, ih]
      rfl

end Json

namespace Snapshot

/-!
# The two forms

What stands behind the bracket that opens the stack is the body of a form.
-/

/-- A way to write snapshots that can be read back, and in which no bracket is opened. -/
structure IsBody (body : Snapshot -> List Char) : Prop where
  detaches : Detaches body fun _ => True
  bracket : forall snapshot, '[' ∉ body snapshot

theorem IsBody.eq_of_shown {body : Snapshot -> List Char} (hbody : IsBody body)
    {first second : Snapshot} {front other rest more : List Char} (hrest : '[' ∉ rest)
    (hmore : '[' ∉ more)
    (hsame : front ++ '[' :: (body first ++ rest) = other ++ '[' :: (body second ++ more)) :
    first = second := by
  have hbehind : body first ++ rest = body second ++ more := by
    apply Text.eq_of_last _ _ hsame
    · rw [List.mem_append, not_or]
      exact ⟨hbody.bracket first, hrest⟩
    · rw [List.mem_append, not_or]
      exact ⟨hbody.bracket second, hmore⟩
  exact (hbody.detaches first second rest more trivial trivial hbehind).left

theorem IsBody.inj_of_toList {body : Snapshot -> List Char} (hbody : IsBody body)
    {write : Snapshot -> String} {front back : List Char} (hback : '[' ∉ back)
    (hwrite : forall snapshot, (write snapshot).toList = front ++ '[' :: (body snapshot ++ back))
    {first second : Snapshot} : write first = write second ↔ first = second := by
  constructor
  · intro hsame
    have hlists := congrArg String.toList hsame
    rw [hwrite, hwrite] at hlists
    exact hbody.eq_of_shown hback hback hlists
  · intro hsame
    rw [hsame]

theorem isBody_of_series {stackText : List Int -> List Char}
    {heapText : List (Int × Int) -> List Char} {middle : List Char}
    (hstack : Detaches stackText fun _ => True) (hheap : Detaches heapText fun _ => True)
    (hstackBracket : forall values, '[' ∉ stackText values)
    (hheapBracket : forall cells, '[' ∉ heapText cells) (hmiddle : '[' ∉ middle) :
    IsBody fun snapshot => stackText snapshot.stack ++ middle ++ heapText snapshot.heap where
  detaches := by
    intro first second rest other hrest hother hsame
    have hparts := hstack.pair hheap middle fun _ => trivial
    rcases hparts (first.stack, first.heap) (second.stack, second.heap) rest other hrest hother
      hsame with ⟨hvalue, hbehind⟩
    cases first
    cases second
    cases hvalue
    exact ⟨rfl, hbehind⟩
  bracket := by
    intro snapshot
    simp only [List.mem_append, not_or]
    exact ⟨⟨hstackBracket _, hmiddle⟩, hheapBracket _⟩

/-!
# Plain text
-/

def plainCell (cell : Int × Int) : List Char :=
  decimal cell.1 ++ [':', ' '] ++ decimal cell.2

def plainBody (snapshot : Snapshot) : List Char :=
  (Layout.inline [']']).text decimal snapshot.stack ++ "\nheap:  \x7b".toList ++
    (Layout.inline ['\x7d']).text plainCell snapshot.heap

theorem isBody_plainBody : IsBody plainBody := by
  have hcell : Detaches plainCell (StartsOutside isIntegral) :=
    Text.detaches_decimal.pair Text.detaches_decimal _ fun rest =>
      ⟨':', ' ' :: rest, rfl, by decide⟩
  have hfree : forall value, '[' ∉ decimal value := Text.not_mem_decimal (by decide)
  apply isBody_of_series
  · apply (Layout.isClear_inline (by decide) (by decide) _).detaches Text.detaches_decimal
    intro value
    exact Text.apart_decimal (by decide) value []
  · apply (Layout.isClear_inline (by decide) (by decide) _).detaches hcell
    intro cell
    rw [plainCell, List.append_assoc]
    exact (Text.apart_decimal (by decide) cell.1 []).append_left _
  · exact Layout.not_mem_text (by decide) hfree
  · apply Layout.not_mem_text (by decide)
    intro cell
    simp [plainCell, hfree]
  · decide

theorem toList_text (snapshot : Snapshot) :
    snapshot.text.toList = "stack: ".toList ++ '[' :: snapshot.plainBody := by
  have hcells : Heap.cellsText snapshot.heap = "\x7b" ++ String.intercalate ", "
      (snapshot.heap.map fun cell => toString cell.1 ++ ": " ++ toString cell.2) ++ "\x7d" := rfl
  have hcell : plainCell = fun cell => (toString cell.1 ++ ": " ++ toString cell.2).toList := by
    funext cell
    simp [plainCell, decimal]
  have hvalue : decimal = fun value => (toString value).toList := rfl
  rw [text, hcells, plainBody, hcell, hvalue, ← Layout.toList_intercalate_inline,
    ← Layout.toList_intercalate_inline]
  simp

/-!
# JSON
-/

def quoted (value : Int) : List Char :=
  ['"'] ++ decimal value ++ ['"']

def quotedCell (cell : Int × Int) : List Char :=
  quoted cell.1 ++ [':', ' '] ++ quoted cell.2

def prettyBody (snapshot : Snapshot) : List Char :=
  (Json.blockLayout 1 [']']).text quoted snapshot.stack ++ ",\n  \"heap\": \x7b".toList ++
    (Json.blockLayout 1 ['\x7d']).text quotedCell snapshot.heap

theorem isBody_prettyBody : IsBody prettyBody := by
  have hvalue : Detaches quoted fun _ => True :=
    Text.detaches_decimal.between _ _ fun rest => ⟨'"', rest, rfl, by decide⟩
  have hcell : Detaches quotedCell fun _ => True := hvalue.pair hvalue _ fun _ => trivial
  have hfree : forall value, '[' ∉ quoted value := by
    intro value
    simp [quoted, Text.not_mem_decimal (show isIntegral '[' = false by decide) value]
  apply isBody_of_series
  · exact (Json.isClear_blockLayout 1 (by decide) quoted).detaches hvalue
  · exact (Json.isClear_blockLayout 1 (by decide) quotedCell).detaches hcell
  · exact Layout.not_mem_text (by decide) hfree
  · apply Layout.not_mem_text (by decide)
    intro cell
    simp [quotedCell, hfree]
  · decide

theorem toList_prettyJson (snapshot : Snapshot) :
    snapshot.prettyJson.toList =
      "\x7b\n  \"stack\": ".toList ++ '[' :: (snapshot.prettyBody ++ ['\n', '\x7d']) := by
  have hfields : snapshot.prettyJson = Json.block 0 "\x7b" "\x7d"
      (["\"stack\": " ++ Json.block 1 "[" "]"
          (snapshot.stack.map fun value => Json.quote (toString value)),
        "\"heap\": " ++ Json.block 1 "\x7b" "\x7d"
          (snapshot.heap.map fun cell =>
            Json.quote (toString cell.1) ++ ": " ++ Json.quote (toString cell.2))].map id) := by
    rw [prettyJson, Json.pretty, json]
    simp only [Json.prettyAt, Json.prettyFields, Json.prettyItems_map, Json.prettyFields_map]
    rfl
  have hvalue : quoted = fun value => (Json.quote (toString value)).toList := by
    funext value
    exact (Json.toList_quote_toString value).symm
  have hcell : quotedCell = fun cell =>
      (Json.quote (toString cell.1) ++ ": " ++ Json.quote (toString cell.2)).toList := by
    funext cell
    simp [quotedCell, hvalue]
  have hlead : (Json.blockLayout 0 ['\x7d']).lead = ['\n', ' ', ' '] := by decide
  have hseparator : (Json.blockLayout 0 ['\x7d']).separator = [',', '\n', ' ', ' '] := by decide
  have hclosing : (Json.blockLayout 0 ['\x7d']).closing = ['\n', '\x7d'] := by decide
  rw [hfields, Json.toList_block, Layout.text_cons, prettyBody, hvalue, hcell]
  simp [Layout.tail, Json.toList_block, hlead, hseparator, hclosing]

/-!
# Reading back
-/

theorem text_inj {first second : Snapshot} : first.text = second.text ↔ first = second := by
  apply isBody_plainBody.inj_of_toList List.not_mem_nil
  intro snapshot
  rw [toList_text, List.append_nil]

theorem prettyJson_inj {first second : Snapshot} :
    first.prettyJson = second.prettyJson ↔ first = second :=
  isBody_prettyBody.inj_of_toList (by decide) toList_prettyJson

end Snapshot

/-!
# The contents of machines
-/

theorem Stack.toList_inj {first second : Stack} :
    first.toList = second.toList ↔ first = second := by
  rcases first with ⟨items⟩
  rcases second with ⟨others⟩
  rw [toList, toList, List.reverse_inj, Stack.mk.injEq]

theorem Heap.toList_inj {first second : Heap} :
    first.toList = second.toList ↔ forall key, first.get? key = second.get? key := by
  constructor
  · intro hsame key
    apply Option.ext
    intro value
    rw [← mem_toList_iff, ← mem_toList_iff, hsame]
  · intro hsame
    exact (Std.TreeMap.Equiv.of_forall_constGet?_eq hsame).toList_eq

namespace Machine

structure SameContents (first second : Machine) : Prop where
  stack : first.memory.stack = second.memory.stack
  heap : forall key, first.memory.heap.get? key = second.memory.heap.get? key

theorem snapshot_inj {first second : Machine} :
    first.snapshot = second.snapshot ↔ SameContents first second := by
  constructor
  · intro hsame
    injection hsame with hstack hheap
    exact ⟨Stack.toList_inj.mp hstack, Heap.toList_inj.mp hheap⟩
  · intro hsame
    rw [snapshot, snapshot, hsame.stack, Heap.toList_inj.mpr hsame.heap]

end Machine

/-!
# The console

A run that ends without an error prints its final state last.  Whatever was printed
before, the state can be read back from behind the last opening bracket.
-/

namespace CommandLine

def shown (json : Bool) (desk : Desk) : String :=
  if json then desk.output else desk.errors

def finalText (json : Bool) (stopped : Machine) (steps : Nat) (maxSteps : Option Nat) : String :=
  if json then stopped.snapshot.prettyJson ++ "\n" else resultText stopped steps maxSteps

def bodyOf : Bool -> Snapshot -> List Char
  | true => Snapshot.prettyBody
  | false => Snapshot.plainBody

theorem isBody_bodyOf (json : Bool) : Snapshot.IsBody (bodyOf json) := by
  cases json with
  | true => exact Snapshot.isBody_prettyBody
  | false => exact Snapshot.isBody_plainBody

theorem exists_resultText (stopped : Machine) (steps : Nat) (maxSteps : Option Nat) :
    exists heading remark : String, '[' ∉ remark.toList ∧
      resultText stopped steps maxSteps = heading ++ stopped.snapshot.text ++ "\n" ++ remark := by
  unfold resultText
  split
  · next limit _hstatus =>
      refine ⟨_, _, ?_, rfl⟩
      rw [String.toList_append, String.toList_append, Text.toList_toString_nat]
      simp only [List.mem_append, not_or]
      exact ⟨⟨by decide, Text.not_mem_toDigits (by decide) limit⟩, by decide⟩
  · exact ⟨_, "", by decide, rfl⟩

theorem exists_toList_finalText (json : Bool) (stopped : Machine) (steps : Nat)
    (maxSteps : Option Nat) :
    exists front rest, '[' ∉ rest ∧
      (finalText json stopped steps maxSteps).toList =
        front ++ '[' :: (bodyOf json stopped.snapshot ++ rest) := by
  cases json with
  | true =>
      refine ⟨"\x7b\n  \"stack\": ".toList, ['\n', '\x7d', '\n'], by decide, ?_⟩
      rw [finalText, if_pos rfl, String.toList_append, Snapshot.toList_prettyJson]
      simp [bodyOf]
  | false =>
      rcases exists_resultText stopped steps maxSteps with ⟨heading, remark, hremark, htext⟩
      refine ⟨heading.toList ++ "stack: ".toList, '\n' :: remark.toList, ?_, ?_⟩
      · rw [List.mem_cons, not_or]
        exact ⟨by decide, hremark⟩
      · have hnewline : "\n".toList = ['\n'] := by decide
        rw [finalText, if_neg (by decide), htext]
        simp only [String.toList_append, Snapshot.toList_text, hnewline, List.append_assoc,
          List.cons_append, List.nil_append]
        rfl

theorem sameContents_of_finalText {json : Bool} {first second : Machine} {steps others : Nat}
    {maxSteps maxOthers : Option Nat} {before between : String}
    (hsame : before ++ finalText json first steps maxSteps =
      between ++ finalText json second others maxOthers) : first.SameContents second := by
  rcases exists_toList_finalText json first steps maxSteps with ⟨front, rest, hrest, hfirst⟩
  rcases exists_toList_finalText json second others maxOthers with ⟨other, more, hmore, hsecond⟩
  have hlists := congrArg String.toList hsame
  rw [String.toList_append, String.toList_append, hfirst, hsecond, ← List.append_assoc,
    ← List.append_assoc] at hlists
  exact Machine.snapshot_inj.mp ((isBody_bodyOf json).eq_of_shown hrest hmore hlists)

/-!
# Runs that end without an error
-/

theorem exists_shown_runLoaded {desk : Desk} {program : Program} {config : Config}
    {stopped : Machine} {steps : Nat} (json : Bool)
    (hrun : (machineAt desk program config).runWithin config.maxSteps = (.ok steps, stopped)) :
    exists before, shown json ((runLoaded program json config : StateM Desk UInt32).run desk).2 =
      before ++ finalText json stopped steps config.maxSteps := by
  rw [runLoaded, StateT.run_bind, run_drive hrun]
  cases json with
  | true => exact ⟨desk.output ++ stopped.memory.output.text, rfl⟩
  | false => exact ⟨desk.errors, rfl⟩

/-- A command runs a program and exits with zero; it leaves a desk, and its run ends with a
machine. -/
def Finishes (json : Bool) (left : Desk) (stopped : Machine) : Prop :=
  exists (argument : String) (maxSteps : Option Nat) (strictForeign : Bool)
    (options : CommonOptions) (desk loaded : Desk) (config : Config) (program : Program),
    Loads argument maxSteps strictForeign options desk config program loaded ∧
      ((machineAt loaded program config).runWithin config.maxSteps).2 = stopped ∧
      (perform (.run argument maxSteps strictForeign json options) :
        StateM Desk UInt32).run desk = (0, left)

theorem Finishes.exists_shown {json : Bool} {left : Desk} {stopped : Machine}
    (hfinishes : Finishes json left stopped) :
    exists before steps maxSteps, shown json left = before ++ finalText json stopped steps maxSteps
    := by
  rcases hfinishes with ⟨argument, maxSteps, strictForeign, options, desk, loaded, config, program,
    hloads, hstopped, hrun⟩
  rw [perform_run_of_loads json hloads] at hrun
  cases hresult : (machineAt loaded program config).runWithin config.maxSteps with
  | mk result last =>
      rw [hresult] at hstopped
      cases hstopped
      cases result with
      | error error =>
          rw [runLoaded_of_error json hresult] at hrun
          cases (Prod.mk.inj hrun).left
      | ok steps =>
          rcases exists_shown_runLoaded json hresult with ⟨before, hshown⟩
          rw [hrun] at hshown
          exact ⟨before, steps, config.maxSteps, hshown⟩

theorem exists_loads_of_exitCode {argument : String} {maxSteps : Option Nat}
    {strictForeign json : Bool} {options : CommonOptions} {desk left : Desk}
    (hrun : (perform (.run argument maxSteps strictForeign json options) :
      StateM Desk UInt32).run desk = (0, left)) :
    exists config program loaded,
      Loads argument maxSteps strictForeign options desk config program loaded := by
  rw [perform, withConfig, StateT.run_bind] at hrun
  cases hsettings : (loadConfig options : StateM Desk _).run desk with
  | mk settings between =>
      rw [hsettings] at hrun
      cases settings with
      | error error => cases (Prod.mk.inj hrun).left
      | ok settings =>
          let config := runConfig settings maxSteps strictForeign
          change (runProgram argument json options config : StateM Desk UInt32).run between =
            (0, left) at hrun
          rw [runProgram, StateT.run_bind] at hrun
          cases hprogram : (loadProgram argument options config : StateM Desk _).run between with
          | mk program loaded =>
              rw [hprogram] at hrun
              cases program with
              | error error => cases (Prod.mk.inj hrun).left
              | ok program =>
                  exact ⟨config, program, loaded, settings, between, hsettings, rfl, hprogram⟩

/-- Different states have different texts: as snapshots, on a workbench, and on the console behind
anything that was printed before. -/
theorem shown_state_tells_state :
    (forall first second : Snapshot, first.text = second.text ↔ first = second) ∧
    (forall first second : Snapshot, first.prettyJson = second.prettyJson ↔ first = second) ∧
    (forall first second : Workbench,
      first.machine.snapshot.prettyJson = second.machine.snapshot.prettyJson ↔
        first.machine.SameContents second.machine) ∧
    (forall (argument : String) (maxSteps : Option Nat) (strictForeign json : Bool)
      (options : CommonOptions) (desk left : Desk),
      (perform (.run argument maxSteps strictForeign json options) :
        StateM Desk UInt32).run desk = (0, left) -> exists stopped, Finishes json left stopped) ∧
    (forall (json : Bool) (left other : Desk) (first second : Machine),
      Finishes json left first -> Finishes json other second ->
      shown json left = shown json other -> first.SameContents second) := by
  refine ⟨fun _ _ => Snapshot.text_inj, fun _ _ => Snapshot.prettyJson_inj, ?_, ?_, ?_⟩
  · intro first second
    rw [Snapshot.prettyJson_inj, Machine.snapshot_inj]
  · intro argument maxSteps strictForeign json options desk left hrun
    rcases exists_loads_of_exitCode hrun with ⟨config, program, loaded, hloads⟩
    exact ⟨_, argument, maxSteps, strictForeign, options, desk, loaded, config, program, hloads,
      rfl, hrun⟩
  · intro json left other first second hfirst hsecond hsame
    rcases hfirst.exists_shown with ⟨before, steps, maxSteps, hleft⟩
    rcases hsecond.exists_shown with ⟨between, others, maxOthers, hother⟩
    rw [hleft, hother] at hsame
    exact sameContents_of_finalText hsame

def leftBy (source : String) : Desk :=
  ((perform (.run source (some 5) false true { assembly := true }) :
    StateM Desk UInt32).run bareDesk).2

theorem shown_state_tells_state_three :
    exists first second : Machine,
      Finishes true (leftBy "PUSH 3") first ∧ Finishes true (leftBy "PUSH 1\nPUSH 2\nADD") second ∧
      (leftBy "PUSH 3").output =
        "\x7b\n  \"stack\": [\n    \"3\"\n  ],\n  \"heap\": \x7b\x7d\n\x7d\n" ∧
      first.SameContents second := by
  rcases shown_state_tells_state with ⟨_htext, _hjson, _hbench, hfinishes, hsame⟩
  rcases hfinishes "PUSH 3" (some 5) false true { assembly := true } bareDesk (leftBy "PUSH 3")
    (Prod.ext (by decide +kernel) rfl) with ⟨first, hfirst⟩
  rcases hfinishes "PUSH 1\nPUSH 2\nADD" (some 5) false true { assembly := true } bareDesk
    (leftBy "PUSH 1\nPUSH 2\nADD") (Prod.ext (by decide +kernel) rfl) with ⟨second, hsecond⟩
  refine ⟨first, second, hfirst, hsecond, by decide +kernel, ?_⟩
  exact hsame true _ _ first second hfirst hsecond (by decide +kernel)

end CommandLine
end Whitespace
