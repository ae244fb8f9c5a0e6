import Whitespace.Opcode

/-!
# The code tree

The paths of the opcodes form a tree.  Its nodes stand in one array, each with a
slot for every symbol, and a slot is empty, leads on to another node or holds an
opcode.  The tree is grown path by path; a path that meets an opcode on its way,
or that ends where another one goes on, has no place in it.
-/

namespace Whitespace

inductive Slot where
  | empty
  | branch (node : Nat)
  | leaf (op : Opcode)
  deriving DecidableEq, Repr

structure Node where
  space : Slot := .empty
  tab : Slot := .empty
  lineFeed : Slot := .empty
  deriving DecidableEq, Repr

namespace Node

def slot (node : Node) : Symbol -> Slot
  | .space => node.space
  | .tab => node.tab
  | .lineFeed => node.lineFeed

def fill (node : Node) (symbol : Symbol) (slot : Slot) : Node :=
  match symbol with
  | .space => { node with space := slot }
  | .tab => { node with tab := slot }
  | .lineFeed => { node with lineFeed := slot }

end Node

structure CodeTree where
  nodes : Array Node
  deriving DecidableEq, Repr

namespace CodeTree

def root : Nat := 0

def bare : CodeTree := ⟨#[{}]⟩

def slot (tree : CodeTree) (node : Nat) (symbol : Symbol) : Slot :=
  (tree.nodes[node]?.getD {}).slot symbol

def fill (tree : CodeTree) (node : Nat) (symbol : Symbol) (slot : Slot) : CodeTree :=
  ⟨tree.nodes.modify node (·.fill symbol slot)⟩

def grow (tree : CodeTree) (node : Nat) (symbol : Symbol) : CodeTree :=
  ⟨(tree.fill node symbol (.branch tree.nodes.size)).nodes.push {}⟩

def insertFrom (op : Opcode) : CodeTree -> Nat -> List Symbol -> Option CodeTree
  | tree, _, [] => some tree
  | tree, node, symbol :: rest =>
      match tree.slot node symbol, rest.isEmpty with
      | .empty, true => some (tree.fill node symbol (.leaf op))
      | .empty, false => insertFrom op (tree.grow node symbol) tree.nodes.size rest
      | .branch next, false => insertFrom op tree next rest
      | _, _ => none

def insert (tree : CodeTree) (op : Opcode) : Option CodeTree :=
  insertFrom op tree root op.path

def build (ops : List Opcode) : Option CodeTree :=
  ops.foldlM insert bare

end CodeTree

def Opcode.tree : CodeTree :=
  (CodeTree.build Opcode.catalog).getD .bare

end Whitespace
