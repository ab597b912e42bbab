import ModalLexer.Lexer.Run

/-!
# Outlines

A reduction that builds a tree from bracketed tokens. A token named `open` begins a branch below the
cursor, `close` goes back to the branch in which the innermost open one was begun, and any other
token becomes a leaf. A `close` without an open branch changes nothing, and a branch that is never
closed stays where it is. A cursor is the path from the root to a branch; the tree itself is the
store of the reduction, so the root of the whole outline is at hand after a run.
-/

namespace ModalLexer

/-- A tree with texts at its leaves. -/
inductive Tree where
  | leaf (value : Text)
  | branch (children : Array Tree)
  deriving Inhabited

namespace Tree

/-- Where a branch is: the place among its siblings of each branch on the way down from the root. -/
abbrev Path := List Nat

/-- The number of children of the branch at a path. -/
def childCount : Path → Tree → Nat
  | _, leaf _ => 0
  | [], branch ts => ts.size
  | i :: path, branch ts => (ts[i]?.map (childCount path)).getD 0

/-- Adds a child behind the others of the branch at a path. -/
def addChild (child : Tree) : Path → Tree → Tree
  | _, leaf v => leaf v
  | [], branch ts => branch (ts.push child)
  | i :: path, branch ts => branch (ts.modify i (addChild child path))

end Tree

/-- An outline under construction: the tree, and the paths to go back to, the last one first. -/
structure Outline where
  tree : Tree := .branch #[]
  opened : List Tree.Path := []

namespace Outline

/-- Attaches a token at the branch at `path`, and returns the branch at which the next one attaches.
-/
def attach (o : Outline) (path : Tree.Path) (t : Token) : Outline × Tree.Path :=
  if t.name = "open" then
    let child := path ++ [o.tree.childCount path]
    (⟨Tree.addChild (.branch #[]) path o.tree, path :: o.opened⟩, child)
  else if t.name = "close" then
    match o.opened with
    | [] => (o, path)
    | outer :: opened => (⟨o.tree, opened⟩, outer)
  else (⟨Tree.addChild (.leaf t.value) path o.tree, o.opened⟩, path)

/-- The reduction that builds an outline. -/
def reduction : Reduction Outline Tree.Path Empty := .total [] attach

end Outline

end ModalLexer
