import Whitespace.Machine.Memory
import Whitespace.Proofs.Text

/-!
# Lines of input

Input is taken line by line as bytes, and every line is decoded by itself.  For
the bytes of a text this gives the lines of the text, in order and whole: a line
feed is a byte of its own, and no other character has that byte in its code.
-/

namespace Whitespace
namespace Text

/-!
# Cutting at line feeds
-/

theorem rawLines_append {line : List Char} (hline : '\n' ∉ line) (rest : List Char) :
    rawLines (line ++ '\n' :: rest) = (line ++ ['\n']) :: rawLines rest := by
  rw [rawLines, rawLinesFrom_append hline]
  rfl

theorem rawLinesFrom_of_not_mem {line : List Char} (hline : '\n' ∉ line) (taken : List Char) :
    rawLinesFrom taken line =
      if (taken.reverse ++ line).isEmpty then [] else [taken.reverse ++ line] := by
  induction line generalizing taken with
  | nil => simp [rawLinesFrom]
  | cons c line ih =>
      rw [List.mem_cons, not_or] at hline
      rw [rawLinesFrom, if_neg (Ne.symm hline.left), ih hline.right]
      simp

theorem rawLines_of_not_mem {line : List Char} (hline : '\n' ∉ line) (hnonempty : line ≠ []) :
    rawLines line = [line] := by
  rw [rawLines, rawLinesFrom_of_not_mem hline]
  simp [hnonempty]

theorem line_induction {motive : List Char -> Prop} (empty : motive [])
    (last : forall line, line ≠ [] -> '\n' ∉ line -> motive line)
    (cons : forall line rest, '\n' ∉ line -> motive rest -> motive (line ++ '\n' :: rest))
    (text : List Char) : motive text := by
  induction text using Text.field_induction '\n' with
  | last line hline =>
      by_cases hempty : line = []
      · rw [hempty]
        exact empty
      · exact last line hempty hline
  | cons line rest hline ih => exact cons line rest hline ih

theorem flatten_rawLines (text : List Char) : (rawLines text).flatten = text := by
  induction text using line_induction with
  | empty => rfl
  | last line hnonempty hline => simp [rawLines_of_not_mem hline hnonempty]
  | cons line rest hline ih => simp [rawLines_append hline, ih]

theorem rawLines_eq_nil_iff {text : List Char} : rawLines text = [] ↔ text = [] := by
  constructor
  · intro hnil
    rw [← flatten_rawLines text, hnil]
    rfl
  · intro hempty
    rw [hempty]
    rfl

theorem rawLines_flatten_tail {text line : List Char} {rest : List (List Char)}
    (hlines : rawLines text = line :: rest) : rawLines rest.flatten = rest := by
  induction text using line_induction with
  | empty => cases hlines
  | last only hnonempty hline =>
      rw [rawLines_of_not_mem hline hnonempty] at hlines
      cases hlines
      rfl
  | cons first later hline ih =>
      rw [rawLines_append hline] at hlines
      cases hlines
      rw [flatten_rawLines]

/-!
# Line ends
-/

def dropReturns : List Char -> List Char
  | [] => []
  | c :: rest =>
      if c = '\r' ∧ rest.head? = some '\n' then dropReturns rest else c :: dropReturns rest

def closeLast (text : List Char) : List Char :=
  if text = [] ∨ text.getLast? = some '\n' then text else text ++ ['\n']

theorem chomp_of_not_mem {line : List Char} (hline : '\n' ∉ line) : chomp line = line := by
  unfold chomp
  split
  case h_1 rest hends => exact absurd (List.mem_reverse.mp (by rw [hends]; simp)) hline
  case h_2 rest _hother hends => exact absurd (List.mem_reverse.mp (by rw [hends]; simp)) hline
  case h_3 => rfl

theorem chomp_return (line : List Char) : chomp (line ++ ['\r', '\n']) = line := by
  simp [chomp]

theorem chomp_lineFeed {line : List Char} {c : Char} (hc : c ≠ '\r') :
    chomp (line ++ [c, '\n']) = line ++ [c] := by
  have hreverse : (line ++ [c, '\n']).reverse = '\n' :: c :: line.reverse := by simp
  unfold chomp
  rw [hreverse]
  split
  case h_1 rest hends =>
      injection hends with _ htail
      injection htail with hsame _
      exact absurd hsame hc
  case h_2 rest _hother hends =>
      injection hends with _ htail
      rw [← htail]
      simp
  case h_3 _ hother => exact absurd rfl (hother _)

/-- A line that can be read back once a line feed stands behind it. -/
structure IsContent (line : List Char) : Prop where
  nonempty : line ≠ []
  lineFeed : '\n' ∉ line
  last : line.getLast? ≠ some '\r'

theorem lines_append_of_isContent {line : List Char} (hline : IsContent line) (rest : List Char) :
    lines (line ++ '\n' :: rest) = line :: lines rest := by
  have hchomp : chomp (line ++ ['\n']) = line := by
    rcases List.eq_nil_or_concat line with hnil | ⟨front, c, hsnoc⟩
    · exact absurd hnil hline.nonempty
    · have hlast := hline.last
      rw [hsnoc, List.concat_eq_append] at hlast ⊢
      rw [List.append_assoc]
      exact chomp_lineFeed fun hreturn => hlast (by simp [hreturn])
  rw [lines, rawLines_append hline.lineFeed, List.map_cons, hchomp]
  rfl

/-- Lines with line feeds between them come apart again, whether or not another line feed ends
the text. -/
theorem lines_intercalate {line : List Char} {rest : List (List Char)} (closed : Bool)
    (hcontents : forall content, content ∈ line :: rest -> IsContent content) :
    lines (['\n'].intercalate (line :: rest) ++ if closed then ['\n'] else []) = line :: rest := by
  have hline := hcontents line List.mem_cons_self
  induction rest generalizing line with
  | nil =>
      rw [List.intercalate_singleton]
      cases closed with
      | true => exact lines_append_of_isContent hline []
      | false =>
          have hopen : lines line = [line] := by
            rw [lines, rawLines_of_not_mem hline.lineFeed hline.nonempty, List.map_singleton,
              chomp_of_not_mem hline.lineFeed]
          simpa using hopen
  | cons next rest ih =>
      have hrest : forall content, content ∈ next :: rest -> IsContent content :=
        fun content hmem => hcontents content (List.mem_cons_of_mem line hmem)
      rw [List.intercalate_cons_cons, List.append_assoc, List.append_assoc,
        List.singleton_append, lines_append_of_isContent hline,
        ih hrest (hrest next List.mem_cons_self)]

theorem dropReturns_append {front rest : List Char} (hfront : '\n' ∉ front)
    (hrest : rest.head? ≠ some '\n') :
    dropReturns (front ++ rest) = front ++ dropReturns rest := by
  induction front with
  | nil => rfl
  | cons c front ih =>
      rw [List.mem_cons, not_or] at hfront
      have hnext : (front ++ rest).head? ≠ some '\n' := by
        cases front with
        | nil => exact hrest
        | cons d front =>
            intro hsame
            injection hsame with hsame
            exact hfront.right (by rw [← hsame]; exact List.mem_cons_self)
      rw [List.cons_append, dropReturns, if_neg fun hboth => hnext hboth.right, ih hfront.right]
      rfl

theorem dropReturns_lineFeed {line : List Char} (hline : '\n' ∉ line) (rest : List Char) :
    dropReturns (line ++ '\n' :: rest) = chomp (line ++ ['\n']) ++ '\n' :: dropReturns rest := by
  have hfeed : dropReturns ('\n' :: rest) = '\n' :: dropReturns rest := by
    rw [dropReturns, if_neg fun hboth => absurd hboth.left (by decide)]
  rcases List.eq_nil_or_concat line with hnil | ⟨front, c, hsnoc⟩
  · rw [hnil]
    exact hfeed
  · rw [List.concat_eq_append] at hsnoc
    rw [hsnoc, List.mem_append, List.mem_singleton, not_or] at hline
    have hhead : (c :: '\n' :: rest).head? ≠ some '\n' := by
      intro hsame
      injection hsame with hsame
      exact hline.right hsame.symm
    rw [hsnoc, List.append_assoc, List.append_assoc, List.singleton_append, List.singleton_append,
      dropReturns_append hline.left hhead, dropReturns, hfeed]
    by_cases hc : c = '\r'
    · rw [if_pos ⟨hc, rfl⟩, hc, chomp_return]
    · rw [if_neg fun hboth => hc hboth.left, chomp_lineFeed hc]
      simp

theorem closeLast_append (front rest : List Char) :
    closeLast (front ++ '\n' :: rest) = front ++ '\n' :: closeLast rest := by
  cases rest with
  | nil => simp [closeLast]
  | cons c rest =>
      have hlast : (front ++ '\n' :: c :: rest).getLast? = (c :: rest).getLast? := by
        rw [List.append_cons, List.getLast?_append,
          List.getLast?_eq_some_getLast (List.cons_ne_nil c rest), Option.some_or]
      unfold closeLast
      rw [hlast]
      by_cases hclosed : (c :: rest).getLast? = some '\n'
      · simp [hclosed]
      · simp [hclosed]

theorem flatMap_chomp_rawLines (text : List Char) :
    (rawLines text).flatMap (fun line => chomp line ++ ['\n']) =
      closeLast (dropReturns text) := by
  induction text using line_induction with
  | empty => rfl
  | last line hnonempty hline =>
      have hplain : dropReturns line = line := by
        have hend : ([] : List Char).head? ≠ some '\n' := by simp
        have happend := dropReturns_append hline hend
        rw [List.append_nil] at happend
        rw [happend]
        simp [dropReturns]
      have hopen : ¬ (line = [] ∨ line.getLast? = some '\n') := by
        rintro (hempty | hlast)
        · exact hnonempty hempty
        · exact hline (List.mem_of_getLast? hlast)
      rw [rawLines_of_not_mem hline hnonempty, hplain, closeLast, if_neg hopen]
      simp [chomp_of_not_mem hline]
  | cons line rest hline ih =>
      rw [rawLines_append hline, List.flatMap_cons, ih, dropReturns_lineFeed hline,
        closeLast_append]
      simp

end Text

/-!
# Bytes
-/

def utf8 (text : List Char) : List UInt8 :=
  text.flatMap String.utf8EncodeChar

theorem toList_loop_eq (bytes : ByteArray) (index : Nat) (read : List UInt8) :
    ByteArray.toList.loop bytes index read = read.reverse ++ bytes.data.toList.drop index := by
  fun_induction ByteArray.toList.loop bytes index read with
  | case1 index read hinside ih =>
      have hlength : index < bytes.data.toList.length := hinside
      have hbyte : bytes.get! index = bytes.data.toList[index] := by
        simp [ByteArray.get!, hinside]
      rw [ih, List.drop_eq_getElem_cons hlength, hbyte]
      simp
  | case2 index read houtside =>
      rw [List.drop_eq_nil_of_le (by simpa using houtside), List.append_nil]

theorem ofString_eq (text : String) : Input.ofString text = ⟨utf8 text.toList⟩ := by
  have hbytes : text.toUTF8.toList = text.toByteArray.data.toList := by
    rw [ByteArray.toList, toList_loop_eq, String.toUTF8_eq_toByteArray]
    rfl
  rw [Input.ofString, hbytes, ← String.utf8Encode_toList, List.utf8Encode,
    List.toList_data_toByteArray]
  rfl

theorem decodeUtf8?_utf8 (text : List Char) : decodeUtf8? (utf8 text) = some text := by
  have hbytes : (⟨(utf8 text).toArray⟩ : ByteArray) = text.utf8Encode := by
    rw [List.utf8Encode]
    apply ByteArray.ext
    rw [List.data_toByteArray]
    rfl
  have hvalid : text.utf8Encode.IsValidUTF8 := ByteArray.isValidUTF8_utf8Encode
  have hstring : String.fromUTF8 text.utf8Encode hvalid = String.ofList text := by
    rw [← String.toByteArray_inj, String.toByteArray_ofList]
    rfl
  rw [decodeUtf8?, hbytes, String.fromUTF8?, dif_pos hvalid, hstring, Option.map_some,
    String.toList_ofList]

/-- The byte of the line feed is in the code of no other character. -/
theorem eq_lineFeed_of_mem_utf8EncodeChar {c : Char} (hmem : 10 ∈ String.utf8EncodeChar c) :
    c = '\n' := by
  have hbyte : forall code : Nat, (10 : UInt8) = UInt8.ofNat code -> code % 256 = 10 := by
    intro code hsame
    have hnat := congrArg UInt8.toNat hsame
    rw [UInt8.toNat_ofNat'] at hnat
    exact hnat.symm
  have hcode : c.val.toNat = 10 := by
    rw [String.utf8EncodeChar] at hmem
    split at hmem
    · have hmod := hbyte _ (List.mem_singleton.mp hmem)
      omega
    -- Every byte of a longer code has its highest bit set.
    · split at hmem
      · simp only [List.mem_cons, List.not_mem_nil, or_false] at hmem
        rcases hmem with hsame | hsame
        all_goals have hmod := hbyte _ hsame
        all_goals omega
      · split at hmem
        · simp only [List.mem_cons, List.not_mem_nil, or_false] at hmem
          rcases hmem with hsame | hsame | hsame
          all_goals have hmod := hbyte _ hsame
          all_goals omega
        · simp only [List.mem_cons, List.not_mem_nil, or_false] at hmem
          rcases hmem with hsame | hsame | hsame | hsame
          all_goals have hmod := hbyte _ hsame
          all_goals omega
  exact Char.toNat_inj.mp hcode

theorem lineFeed_not_mem_utf8 {text : List Char} (htext : '\n' ∉ text) : 10 ∉ utf8 text := by
  intro hmem
  rcases List.mem_flatMap.mp hmem with ⟨c, hc, hbyte⟩
  rw [eq_lineFeed_of_mem_utf8EncodeChar hbyte] at hc
  exact htext hc

theorem utf8_append (front rest : List Char) : utf8 (front ++ rest) = utf8 front ++ utf8 rest :=
  List.flatMap_append

theorem utf8_lineFeed (rest : List Char) : utf8 ('\n' :: rest) = 10 :: utf8 rest := by
  rfl

theorem utf8_ne_nil {text : List Char} (hnonempty : text ≠ []) : utf8 text ≠ [] := by
  intro hnil
  rcases List.exists_mem_of_ne_nil text hnonempty with ⟨c, hc⟩
  exact String.utf8EncodeChar_ne_nil (List.flatMap_eq_nil_iff.mp hnil c hc)

/-!
# Taking lines
-/

namespace Input

theorem takeLine?_append {front : List UInt8} (hfront : 10 ∉ front) (rest : List UInt8) :
    takeLine? ⟨front ++ 10 :: rest⟩ = some (front ++ [10], ⟨rest⟩) := by
  have hkept : forall byte, byte ∈ front -> (byte != 10) = true := by
    intro byte hmem
    exact bne_iff_ne.mpr fun hsame => hfront (by rw [← hsame]; exact hmem)
  unfold takeLine?
  split
  case h_1 hnil => exact absurd hnil (by simp)
  case h_2 =>
      dsimp only
      rw [List.takeWhile_append_of_pos hkept, List.dropWhile_append_of_pos hkept]
      simp

theorem takeLine?_of_not_mem {bytes : List UInt8} (hbytes : 10 ∉ bytes)
    (hnonempty : bytes ≠ []) : takeLine? ⟨bytes⟩ = some (bytes, ⟨[]⟩) := by
  have hkept : forall byte, byte ∈ bytes -> (byte != 10) = true := by
    intro byte hmem
    exact bne_iff_ne.mpr fun hsame => hbytes (by rw [← hsame]; exact hmem)
  unfold takeLine?
  split
  case h_1 hnil => exact absurd hnil hnonempty
  case h_2 =>
      dsimp only
      rw [List.takeWhile_eq_self_iff.mpr hkept, List.dropWhile_eq_nil_iff.mpr hkept]

theorem takeLine?_utf8 {text line : List Char} {rest : List (List Char)}
    (hlines : Text.rawLines text = line :: rest) :
    takeLine? ⟨utf8 text⟩ = some (utf8 line, ⟨utf8 rest.flatten⟩) := by
  induction text using Text.line_induction with
  | empty => cases hlines
  | last only hnonempty honly =>
      rw [Text.rawLines_of_not_mem honly hnonempty] at hlines
      cases hlines
      exact takeLine?_of_not_mem (lineFeed_not_mem_utf8 honly) (utf8_ne_nil hnonempty)
  | cons first later hfirst _ih =>
      rw [Text.rawLines_append hfirst] at hlines
      cases hlines
      rw [Text.flatten_rawLines, utf8_append, utf8_append, utf8_lineFeed, utf8_lineFeed]
      exact takeLine?_append (lineFeed_not_mem_utf8 hfirst) _

def Legible (input : Input) : Prop :=
  exists text : List Char, input.bytes = utf8 text

def text (input : Input) : List Char :=
  (decodeUtf8? input.bytes).getD []

def lines (input : Input) : List (List Char) :=
  Text.rawLines input.text

theorem text_utf8 (text : List Char) : Input.text ⟨utf8 text⟩ = text := by
  rw [Input.text, decodeUtf8?_utf8, Option.getD_some]

theorem legible_ofString (text : String) : (ofString text).Legible :=
  ⟨text.toList, congrArg bytes (ofString_eq text)⟩

theorem text_ofString (text : String) : (ofString text).text = text.toList := by
  rw [ofString_eq, text_utf8]

end Input

namespace Action

theorem readLine_of_ended {memory : Memory} (hlegible : memory.input.Legible)
    (hlines : memory.input.lines = []) : readLine memory = (.error (.input .ended), memory) := by
  rcases hlegible with ⟨text, hbytes⟩
  have hinput : memory.input = ⟨utf8 text⟩ := by
    rw [← hbytes]
  rw [hinput, Input.lines, Input.text_utf8, Text.rawLines_eq_nil_iff] at hlines
  have htake : memory.input.takeLine? = none := by
    rw [hinput, hlines]
    rfl
  simp only [readLine, htake]

theorem readLine_of_line {memory : Memory} {line : List Char} {rest : List (List Char)}
    (hlegible : memory.input.Legible) (hlines : memory.input.lines = line :: rest) :
    exists input : Input, input.Legible ∧ input.lines = rest ∧
      readLine memory = (.ok (Text.chomp line), { memory with input := input }) := by
  rcases hlegible with ⟨text, hbytes⟩
  have hinput : memory.input = ⟨utf8 text⟩ := by
    rw [← hbytes]
  rw [hinput, Input.lines, Input.text_utf8] at hlines
  have htake := Input.takeLine?_utf8 hlines
  rw [← hinput] at htake
  refine ⟨⟨utf8 rest.flatten⟩, ⟨rest.flatten, rfl⟩, ?_, ?_⟩
  · rw [Input.lines, Input.text_utf8]
    exact Text.rawLines_flatten_tail hlines
  · simp only [readLine, htake, decodeUtf8?_utf8]

end Action
end Whitespace
