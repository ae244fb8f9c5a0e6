import Mathlib.Data.List.Induction
import Whitespace.Program.CodeTree

/-!
# Walks in the code tree

A word leads from the root of a code tree to a slot.  Adding an opcode changes the
slots that its path passes and no others, so the finished tree leads a word to the
opcode whose path it is, and a word that stops inside a path to a node.
-/

namespace Whitespace

namespace Node

theorem slot_fill_self (node : Node) (symbol : Symbol) (slot : Slot) :
    (node.fill symbol slot).slot symbol = slot := by
  cases symbol <;> rfl

theorem slot_fill_of_ne (node : Node) {symbol other : Symbol} (slot : Slot)
    (hother : other ≠ symbol) : (node.fill symbol slot).slot other = node.slot other := by
  cases symbol with
  | space =>
      cases other with
      | space => exact absurd rfl hother
      | tab => rfl
      | lineFeed => rfl
  | tab =>
      cases other with
      | space => rfl
      | tab => exact absurd rfl hother
      | lineFeed => rfl
  | lineFeed =>
      cases other with
      | space => rfl
      | tab => rfl
      | lineFeed => exact absurd rfl hother

end Node

namespace CodeTree

variable {tree : CodeTree} {node : Nat} {symbol : Symbol}

theorem slot_fill_self (hnode : node < tree.nodes.size) (slot : Slot) :
    (tree.fill node symbol slot).slot node symbol = slot := by
  simp only [CodeTree.slot, fill, Array.getElem?_modify, if_true,
    Array.getElem?_eq_getElem hnode, Option.map_some, Option.getD_some]
  exact Node.slot_fill_self _ symbol slot

theorem slot_fill_of_ne {other : Nat} {next : Symbol} (slot : Slot)
    (hother : ¬ (other = node ∧ next = symbol)) :
    (tree.fill node symbol slot).slot other next = tree.slot other next := by
  simp only [CodeTree.slot, fill, Array.getElem?_modify]
  by_cases hsame : node = other
  · rw [if_pos hsame]
    cases tree.nodes[other]? with
    | none => rfl
    | some found =>
        exact Node.slot_fill_of_ne found slot fun hnext => hother ⟨hsame.symm, hnext⟩
  · rw [if_neg hsame]

theorem size_fill (slot : Slot) : (tree.fill node symbol slot).nodes.size = tree.nodes.size :=
  Array.size_modify

theorem size_grow : (tree.grow node symbol).nodes.size = tree.nodes.size + 1 := by
  rw [grow, Array.size_push, size_fill]

theorem slot_grow (other : Nat) (next : Symbol) :
    (tree.grow node symbol).slot other next =
      if other = tree.nodes.size then .empty
      else (tree.fill node symbol (.branch tree.nodes.size)).slot other next := by
  simp only [CodeTree.slot, grow, Array.getElem?_push, size_fill]
  split
  · cases next <;> rfl
  · rfl

/-!
# Walks
-/

def follow (tree : CodeTree) : Slot -> Symbol -> Slot
  | .branch node, symbol => tree.slot node symbol
  | _, _ => .empty

def walk (tree : CodeTree) (word : List Symbol) : Slot :=
  word.foldl tree.follow (.branch root)

theorem walk_append (tree : CodeTree) (word : List Symbol) (symbol : Symbol) :
    tree.walk (word ++ [symbol]) = tree.follow (tree.walk word) symbol := by
  rw [walk, List.foldl_append]
  rfl

theorem walk_of_branch {word : List Symbol} (hword : tree.walk word = .branch node)
    (symbol : Symbol) : tree.walk (word ++ [symbol]) = tree.slot node symbol := by
  rw [walk_append, hword]
  rfl

theorem exists_branch_of_append {word more : List Symbol}
    (hbranch : exists node, tree.walk (word ++ more) = .branch node) :
    exists node, tree.walk word = .branch node := by
  induction more using List.reverseRecOn with
  | nil =>
      rw [List.append_nil] at hbranch
      exact hbranch
  | append_singleton more symbol ih =>
      apply ih
      rw [← List.append_assoc, walk_append] at hbranch
      cases hslot : tree.walk (word ++ more) with
      | branch node => exact ⟨node, rfl⟩
      | empty =>
          rw [hslot] at hbranch
          rcases hbranch with ⟨node, hnode⟩
          cases hnode
      | leaf op =>
          rw [hslot] at hbranch
          rcases hbranch with ⟨node, hnode⟩
          cases hnode

/-- Words lead to nodes of the tree, and different words to different ones. -/
structure WellFormed (tree : CodeTree) : Prop where
  bounded : forall {word node}, tree.walk word = .branch node -> node < tree.nodes.size
  apart : forall {first second node}, tree.walk first = .branch node ->
    tree.walk second = .branch node -> first = second

/-- The slots of two trees are the same but for one at a known place, and that one leads no
further. -/
structure Differs (before after : CodeTree) (node : Nat) (symbol : Symbol) (slot : Slot) :
    Prop where
  here : after.slot node symbol = slot
  elsewhere : forall {other next}, other < before.nodes.size -> ¬ (other = node ∧ next = symbol) ->
    after.slot other next = before.slot other next
  last : forall next, after.follow slot next = .empty

theorem differs_fill (hnode : node < tree.nodes.size) (op : Opcode) :
    Differs tree (tree.fill node symbol (.leaf op)) node symbol (.leaf op) where
  here := slot_fill_self hnode _
  elsewhere := fun _hother hplace => slot_fill_of_ne _ hplace
  last := fun _next => rfl

theorem differs_grow (hnode : node < tree.nodes.size) :
    Differs tree (tree.grow node symbol) node symbol (.branch tree.nodes.size) where
  here := by
    rw [slot_grow, if_neg (Nat.ne_of_lt hnode)]
    exact slot_fill_self hnode _
  elsewhere := by
    intro other next hother hplace
    rw [slot_grow, if_neg (Nat.ne_of_lt hother)]
    exact slot_fill_of_ne _ hplace
  last := by
    intro next
    rw [follow, slot_grow, if_pos rfl]

theorem follow_of_differs {after : CodeTree} {slot : Slot}
    (hdiffers : Differs tree after node symbol slot) {found : Slot}
    (hbounded : forall other, found = .branch other -> other < tree.nodes.size) (next : Symbol) :
    after.follow found next =
      if found = .branch node ∧ next = symbol then slot else tree.follow found next := by
  cases found with
  | empty =>
      rw [if_neg fun hplace => Slot.noConfusion hplace.left]
      rfl
  | leaf op =>
      rw [if_neg fun hplace => Slot.noConfusion hplace.left]
      rfl
  | branch other =>
      simp only [Slot.branch.injEq]
      by_cases hplace : other = node ∧ next = symbol
      · rw [if_pos hplace, hplace.left, hplace.right]
        exact hdiffers.here
      · rw [if_neg hplace]
        exact hdiffers.elsewhere (hbounded other rfl) hplace

theorem walk_of_differs {after : CodeTree} {slot : Slot} {word : List Symbol}
    (hdiffers : Differs tree after node symbol slot) (hformed : tree.WellFormed)
    (hword : tree.walk word = .branch node) (hempty : tree.slot node symbol = .empty)
    (other : List Symbol) :
    after.walk other = if other = word ++ [symbol] then slot else tree.walk other := by
  induction other using List.reverseRecOn with
  | nil =>
      rw [if_neg fun hsame => by cases word <;> cases hsame]
      rfl
  | append_singleton front next ih =>
      rw [walk_append, walk_append, ih]
      by_cases hfront : front = word ++ [symbol]
      · -- Behind the slot there was nothing, and there is nothing now.
        have hlong : front ++ [next] ≠ word ++ [symbol] := by
          intro hsame
          have hlength := congrArg List.length hsame
          rw [hfront] at hlength
          simp at hlength
        rw [if_pos hfront, if_neg hlong, hdiffers.last, hfront, walk_of_branch hword, hempty]
        rfl
      · have hplace : front ++ [next] = word ++ [symbol] ↔
            tree.walk front = .branch node ∧ next = symbol := by
          constructor
          · intro hsame
            rcases List.append_inj' hsame rfl with ⟨hfronts, hlast⟩
            rw [hfronts]
            exact ⟨hword, List.head_eq_of_cons_eq hlast⟩
          · rintro ⟨hbranch, hlast⟩
            rw [hformed.apart hbranch hword, hlast]
        rw [if_neg hfront, follow_of_differs hdiffers fun _found => hformed.bounded]
        simp only [hplace]

theorem wellFormed_fill (hformed : tree.WellFormed) {word : List Symbol}
    (hword : tree.walk word = .branch node) (hempty : tree.slot node symbol = .empty)
    (op : Opcode) : (tree.fill node symbol (.leaf op)).WellFormed := by
  have hwalk := walk_of_differs (differs_fill (hformed.bounded hword) op) hformed hword hempty
  have hold : forall {other found}, (tree.fill node symbol (.leaf op)).walk other = .branch found ->
      tree.walk other = .branch found := by
    intro other found hother
    rw [hwalk] at hother
    split at hother
    · cases hother
    · exact hother
  constructor
  · intro other found hother
    rw [size_fill]
    exact hformed.bounded (hold hother)
  · intro first second found hfirst hsecond
    exact hformed.apart (hold hfirst) (hold hsecond)

theorem wellFormed_grow (hformed : tree.WellFormed) {word : List Symbol}
    (hword : tree.walk word = .branch node) (hempty : tree.slot node symbol = .empty) :
    (tree.grow node symbol).WellFormed := by
  have hwalk := walk_of_differs (differs_grow (hformed.bounded hword)) hformed hword hempty
  have hcases : forall {other found}, (tree.grow node symbol).walk other = .branch found ->
      other = word ++ [symbol] ∧ found = tree.nodes.size ∨
        tree.walk other = .branch found ∧ found < tree.nodes.size := by
    intro other found hother
    rw [hwalk] at hother
    split at hother
    · next hsame =>
        cases hother
        exact Or.inl ⟨hsame, rfl⟩
    · exact Or.inr ⟨hother, hformed.bounded hother⟩
  constructor
  · intro other found hother
    rw [size_grow]
    rcases hcases hother with ⟨_hsame, hfound⟩ | ⟨_hwalk, hbound⟩
    · omega
    · omega
  · intro first second found hfirst hsecond
    rcases hcases hfirst with ⟨hone, hfound⟩ | ⟨hone, hbound⟩
    · rcases hcases hsecond with ⟨htwo, _⟩ | ⟨_, hless⟩
      · rw [hone, htwo]
      · omega
    · rcases hcases hsecond with ⟨_, hfound⟩ | ⟨htwo, _⟩
      · omega
      · exact hformed.apart hone htwo

/-!
# Adding an opcode
-/

/-- One tree has the opcodes of another and one more at the end of a path, whose nodes it has
too. -/
structure Adds (before after : CodeTree) (path : List Symbol) (op : Opcode) : Prop where
  formed : after.WellFormed
  leaf : forall {word other}, after.walk word = .leaf other ↔
    before.walk word = .leaf other ∨ word = path ∧ other = op
  branch : forall {word}, (exists node, after.walk word = .branch node) ↔
    (exists node, before.walk word = .branch node) ∨ word <+: path ∧ word ≠ path

theorem adds_leaf (hformed : tree.WellFormed) {word : List Symbol}
    (hword : tree.walk word = .branch node) (hempty : tree.slot node symbol = .empty)
    (op : Opcode) :
    Adds tree (tree.fill node symbol (.leaf op)) (word ++ [symbol]) op := by
  have hwalk := walk_of_differs (differs_fill (hformed.bounded hword) op) hformed hword hempty
  have hbefore : tree.walk (word ++ [symbol]) = .empty := (walk_of_branch hword symbol).trans hempty
  refine ⟨wellFormed_fill hformed hword hempty op, ?_, ?_⟩
  · intro other found
    rw [hwalk]
    by_cases hsame : other = word ++ [symbol]
    · rw [if_pos hsame, hsame, hbefore, Slot.leaf.injEq]
      simp [eq_comm]
    · rw [if_neg hsame]
      simp [hsame]
  · intro other
    rw [hwalk]
    by_cases hsame : other = word ++ [symbol]
    · rw [if_pos hsame, hsame, hbefore]
      simp
    · rw [if_neg hsame]
      refine ⟨Or.inl, ?_⟩
      rintro (hbranch | ⟨hstarts, _hshort⟩)
      · exact hbranch
      · -- What stops before the last symbol stops at a node that was there.
        rcases (List.prefix_concat_iff.mp hstarts).resolve_left hsame with ⟨more, hmore⟩
        exact exists_branch_of_append ⟨node, by rw [hmore]; exact hword⟩

theorem adds_of_grow (hformed : tree.WellFormed) {word rest : List Symbol}
    (hword : tree.walk word = .branch node) (hempty : tree.slot node symbol = .empty)
    (hrest : rest ≠ []) {after : CodeTree} {op : Opcode}
    (hadds : Adds (tree.grow node symbol) after (word ++ symbol :: rest) op) :
    Adds tree after (word ++ symbol :: rest) op := by
  have hwalk := walk_of_differs (differs_grow (hformed.bounded hword)) hformed hword hempty
  have hbefore : tree.walk (word ++ [symbol]) = .empty := (walk_of_branch hword symbol).trans hempty
  refine ⟨hadds.formed, ?_, ?_⟩
  · intro other found
    rw [hadds.leaf, hwalk]
    by_cases hsame : other = word ++ [symbol]
    · rw [if_pos hsame, hsame, hbefore]
      simp
    · rw [if_neg hsame]
  · intro other
    rw [hadds.branch, hwalk]
    by_cases hsame : other = word ++ [symbol]
    · have hinside : other <+: word ++ symbol :: rest ∧ other ≠ word ++ symbol :: rest := by
        rw [hsame]
        refine ⟨⟨rest, by simp⟩, ?_⟩
        intro hwhole
        have hends := List.append_cancel_left hwhole
        injection hends with _hsymbol hnil
        exact hrest hnil.symm
      exact iff_of_true (Or.inr hinside) (Or.inr hinside)
    · rw [if_neg hsame]

theorem adds_of_insertFrom {op : Opcode} {rest : List Symbol} (hrest : rest ≠ [])
    {after : CodeTree} {word : List Symbol} (hformed : tree.WellFormed)
    (hword : tree.walk word = .branch node)
    (hinsert : insertFrom op tree node rest = some after) :
    Adds tree after (word ++ rest) op := by
  induction rest generalizing tree node word with
  | nil => exact absurd rfl hrest
  | cons symbol rest ih =>
      rw [insertFrom] at hinsert
      split at hinsert
      case h_1 hslot hlast =>
          cases hinsert
          rw [List.isEmpty_iff.mp hlast]
          exact adds_leaf hformed hword hslot op
      case h_2 hslot hmore =>
          have hmore : rest ≠ [] := List.isEmpty_eq_false_iff.mp hmore
          have hgrown : (tree.grow node symbol).walk (word ++ [symbol]) =
              .branch tree.nodes.size := by
            rw [walk_of_differs (differs_grow (hformed.bounded hword)) hformed hword hslot,
              if_pos rfl]
          have hadds := ih hmore (wellFormed_grow hformed hword hslot) hgrown hinsert
          rw [← List.append_cons] at hadds
          exact adds_of_grow hformed hword hslot hmore hadds
      case h_3 next hslot hmore =>
          have hmore : rest ≠ [] := List.isEmpty_eq_false_iff.mp hmore
          have hnext : tree.walk (word ++ [symbol]) = .branch next :=
            (walk_of_branch hword symbol).trans hslot
          rw [List.append_cons]
          exact ih hmore hformed hnext hinsert
      case h_4 => cases hinsert

/-!
# Whole trees
-/

/-- The tree leads the paths of some opcodes to them, and what starts such a path to a node. -/
structure Codes (tree : CodeTree) (ops : List Opcode) : Prop where
  formed : tree.WellFormed
  leaf : forall {word op}, tree.walk word = .leaf op ↔ op ∈ ops ∧ op.path = word
  branch : forall {word}, (exists node, tree.walk word = .branch node) ↔
    word = [] ∨ exists op, op ∈ ops ∧ word <+: op.path ∧ word ≠ op.path

theorem walk_bare (word : List Symbol) :
    bare.walk word = if word = [] then .branch root else .empty := by
  induction word using List.reverseRecOn with
  | nil => rfl
  | append_singleton word symbol ih =>
      rw [walk_append, ih, if_neg (List.append_ne_nil_of_right_ne_nil _ (List.cons_ne_nil _ _))]
      split
      · cases symbol <;> rfl
      · rfl

theorem codes_bare : bare.Codes [] := by
  have hroot : forall {word node}, bare.walk word = .branch node -> word = [] ∧ node = root := by
    intro word node hword
    rw [walk_bare] at hword
    split at hword
    · next hnil =>
        cases hword
        exact ⟨hnil, rfl⟩
    · cases hword
  refine ⟨⟨?_, ?_⟩, ?_, ?_⟩
  · intro word node hword
    rw [(hroot hword).right]
    decide
  · intro first second node hfirst hsecond
    rw [(hroot hfirst).left, (hroot hsecond).left]
  · intro word op
    rw [walk_bare]
    split <;> simp
  · intro word
    rw [walk_bare]
    split
    · next hword => simp [hword]
    · next hword => simp [hword]

theorem Codes.insert {ops : List Opcode} {after : CodeTree} {op : Opcode}
    (hcodes : tree.Codes ops) (hpath : op.path ≠ []) (hinsert : tree.insert op = some after) :
    after.Codes (ops ++ [op]) := by
  have hadds := adds_of_insertFrom hpath hcodes.formed (show tree.walk [] = .branch root from rfl)
    hinsert
  rw [List.nil_append] at hadds
  refine ⟨hadds.formed, ?_, ?_⟩
  · intro word other
    rw [hadds.leaf, hcodes.leaf, List.mem_append, List.mem_singleton, or_and_right]
    refine or_congr Iff.rfl ⟨?_, ?_⟩
    · rintro ⟨hword, hother⟩
      exact ⟨hother, by rw [hother, hword]⟩
    · rintro ⟨hother, hword⟩
      exact ⟨by rw [← hword, hother], hother⟩
  · intro word
    rw [hadds.branch, hcodes.branch, or_assoc]
    refine or_congr Iff.rfl ?_
    simp only [List.mem_append, List.mem_singleton, or_and_right, exists_or, exists_eq_left]

theorem codes_foldlM {ops added : List Opcode} {after : CodeTree} (hcodes : tree.Codes ops)
    (hpaths : forall op, op ∈ added -> op.path ≠ [])
    (hbuild : added.foldlM insert tree = some after) : after.Codes (ops ++ added) := by
  induction added generalizing tree ops with
  | nil =>
      cases hbuild
      rw [List.append_nil]
      exact hcodes
  | cons op added ih =>
      rcases List.forall_mem_cons.mp hpaths with ⟨hpath, hothers⟩
      rw [List.foldlM_cons] at hbuild
      rcases Option.bind_eq_some_iff.mp hbuild with ⟨middle, hinsert, hrest⟩
      have hmore := ih (hcodes.insert hpath hinsert) hothers hrest
      rw [List.append_assoc] at hmore
      exact hmore

end CodeTree

/-!
# The tree of all opcodes
-/

namespace Opcode

theorem path_ne_nil (op : Opcode) : op.path ≠ [] := by
  have hall : forall a, a ∈ catalog -> a.path ≠ [] := by
    decide
  exact hall op (mem_catalog op)

def Inner (word : List Symbol) : Prop :=
  exists op : Opcode, word <+: op.path ∧ word ≠ op.path

theorem inner_nil : Inner [] :=
  ⟨.number .push, List.nil_prefix, by decide⟩

theorem codes_tree : tree.Codes catalog := by
  have hbuild : CodeTree.build catalog = some tree := rfl
  have hcodes := CodeTree.codes_foldlM CodeTree.codes_bare (fun op _hmem => op.path_ne_nil) hbuild
  rw [List.nil_append] at hcodes
  exact hcodes

theorem walk_eq_leaf_iff {word : List Symbol} {op : Opcode} :
    tree.walk word = .leaf op ↔ op.path = word := by
  rw [codes_tree.leaf, and_iff_right (mem_catalog op)]

theorem exists_walk_eq_branch_iff {word : List Symbol} :
    (exists node, tree.walk word = .branch node) ↔ Inner word := by
  rw [codes_tree.branch]
  constructor
  · rintro (hnil | ⟨op, _hmem, hinner⟩)
    · rw [hnil]
      exact inner_nil
    · exact ⟨op, hinner⟩
  · rintro ⟨op, hinner⟩
    exact Or.inr ⟨op, mem_catalog op, hinner⟩

theorem walk_eq_empty_iff {word : List Symbol} :
    tree.walk word = .empty ↔ forall op : Opcode, ¬ word <+: op.path := by
  constructor
  · intro hempty op hstarts
    by_cases hwhole : op.path = word
    · rw [walk_eq_leaf_iff.mpr hwhole] at hempty
      cases hempty
    · rcases exists_walk_eq_branch_iff.mpr ⟨op, hstarts, Ne.symm hwhole⟩ with ⟨node, hbranch⟩
      rw [hbranch] at hempty
      cases hempty
  · intro hnone
    cases hwalk : tree.walk word with
    | empty => rfl
    | leaf op =>
        have hwhole : op.path = word := walk_eq_leaf_iff.mp hwalk
        exact absurd ⟨[], by rw [List.append_nil, hwhole]⟩ (hnone op)
    | branch node =>
        rcases exists_walk_eq_branch_iff.mp ⟨node, hwalk⟩ with ⟨op, hstarts, _hshort⟩
        exact absurd hstarts (hnone op)

end Opcode
end Whitespace
