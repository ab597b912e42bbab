import ModalLexer.Regex.Action
import ModalLexer.Regex.Program
import ModalLexer.Regex.Weight

/-!
# Reading regular expressions

The reader goes over a source one character at a time. It holds the flags, the branches and items
read so far in the innermost group, and for each group around it what has been read there. An
element of several characters is read at its first, and what it asks for is done (`Reader.act`). The
characters that it takes beyond that one are then passed over, so that `Reader.run` recurs on the
source itself.

`readExpr` reads a whole source, and `compile` makes a program of it.
-/

namespace ModalLexer.Regex

/-- An expression that has been read, with the number of levels of the syntax tree that it takes. -/
structure Piece where
  expr : Expr
  depth : Nat := 0

/-- A group that is still open, and what surrounds it: the flags to go back to, and the branches and
items read there. A group that captures has an index. -/
structure OpenGroup where
  index : Option Nat
  flags : Flags
  branches : List Piece
  items : List (Option Piece)

/-- The state of reading: branches and items of the innermost group, the last one first, where an
item is an expression or a change of flags; the open groups, the innermost first; and the names and
the number of groups that capture. -/
structure Reader where
  flags : Flags := {}
  branches : List Piece := []
  items : List (Option Piece) := []
  groups : List OpenGroup := []
  names : List Text := []
  captures : Nat := 0

/-- The expression of an atom. -/
def Flags.atom (f : Flags) : Atom → Except SyntaxError Expr
  | .char c => .ok (f.char c)
  | .set s => f.oneOf s
  | .assertion a => .ok (.assertion a)

namespace Reader

/-- Adds an item to the current branch. -/
def push (r : Reader) (e : Expr) (depth : Nat) : Reader :=
  { r with items := some ⟨e, depth⟩ :: r.items }

/-- The current branch: its items in sequence. -/
def branch (r : Reader) : Piece :=
  let pieces := r.items.reverse.filterMap id
  let depth := pieces.foldl (fun d p => max d p.depth) 0
  ⟨.sequence (pieces.map Piece.expr), if 2 ≤ r.items.length then depth + 1 else depth⟩

/-- All that has been read in the innermost group: the choice between its branches. -/
def contents (r : Reader) : Piece :=
  match r.branches with
  | [] => r.branch
  | _ =>
    let bs := (r.branch :: r.branches).reverse
    ⟨.choice (bs.map Piece.expr), bs.foldl (fun d p => max d p.depth) 0 + 1⟩

/-- Ends the current branch. -/
def endBranch (r : Reader) : Reader := { r with branches := r.branch :: r.branches, items := [] }

/-- Opens a group that is read under the flags `inner`. -/
def openGroup (r : Reader) (index : Option Nat) (inner : Flags) : Reader :=
  { r with
    flags := inner, branches := [], items := []
    groups := ⟨index, r.flags, r.branches, r.items⟩ :: r.groups }

/-- Opens a group that captures. -/
def openCapture (r : Reader) : Reader :=
  { r.openGroup (some r.captures) r.flags with captures := r.captures + 1 }

/-- Closes the innermost group. -/
def closeGroup (r : Reader) : Except SyntaxError Reader :=
  match r.groups with
  | [] => .error .groupUnopened
  | g :: gs =>
    let e := r.contents.expr
    let e := g.index.elim e fun i => .group i e
    .ok { r with
      flags := g.flags, branches := g.branches, groups := gs
      items := some ⟨e, r.contents.depth + 1⟩ :: g.items }

/-- Repeats the last item. A `?` behind the bounds, if `lazy`, turns the preference round. -/
def repeatLast (r : Reader) (b : Bounds) (lazy : Bool) : Except SyntaxError Reader :=
  match r.items with
  | some p :: items =>
    let e := .repetition b (r.flags.swapGreed == lazy) p.expr
    .ok { r with items := some ⟨e, p.depth + 1⟩ :: items }
  | _ => .error .nothingToRepeat

/-- Does what an element asks for. -/
def act (r : Reader) : Action → Except SyntaxError Reader
  | .skip => .ok r
  | .push a depth => do .ok (r.push (← r.flags.atom a) depth)
  | .endBranch => .ok r.endBranch
  | .openGroup inner => .ok (r.openGroup none inner)
  | .openCapture => .ok r.openCapture
  | .openNamed name =>
    if r.names.contains name then .error .groupNameRepeated
    else .ok { r.openCapture with names := name :: r.names }
  | .setFlags f => .ok { r with flags := f, items := none :: r.items }
  | .closeGroup => r.closeGroup
  | .repeatLast b lazy => r.repeatLast b lazy

/-! ## Whole sources -/

/-- Reads a source to its end. The first `skip` characters belong to an element that has been
read. -/
def run (r : Reader) : Nat → Text → Except SyntaxError Reader
  | _, [] => .ok r
  | skip + 1, _ :: cs => r.run skip cs
  | 0, c :: cs => do
    let (a, rest) ← readAction r.flags c cs
    let r ← r.act a
    r.run (cs.length - rest.length) cs

variable {r r' : Reader} {c : Char} {cs : Text}

/-- Reading a source is reading its first element, doing what it asks for, and reading on. -/
theorem run_cons : r.run 0 (c :: cs) = readAction r.flags c cs >>= fun p =>
    r.act p.1 >>= fun r => r.run (cs.length - p.2.length) cs := rfl

/-- Behind an element, a source is read on in the state that doing what it asks for ends in. -/
theorem run_of_readAction {a : Action} {rest : Text}
    (hread : readAction r.flags c cs = .ok (a, rest)) (hact : r.act a = .ok r') :
    r.run 0 (c :: cs) = r'.run (cs.length - rest.length) cs := by
  simp only [run_cons, hread, Bind.bind, Except.bind, hact]

/-- If a source is read to its end, then its first element is read and what it asks for is done. -/
theorem exists_of_run_cons (h : r.run 0 (c :: cs) = .ok r') :
    ∃ a rest r₁, readAction r.flags c cs = .ok (a, rest) ∧ r.act a = .ok r₁ ∧
      r₁.run (cs.length - rest.length) cs = .ok r' := by
  rw [run_cons] at h
  cases hread : readAction r.flags c cs with
  | error e => simp [hread, Bind.bind, Except.bind] at h
  | ok p =>
    simp only [hread, Bind.bind, Except.bind] at h
    cases hact : r.act p.1 with
    | error e => simp [hact] at h
    | ok r₁ => exact ⟨p.1, p.2, r₁, rfl, hact, by simpa [hact] using h⟩

end Reader

/-- The number of levels that a syntax tree may have. -/
def maxDepth : Nat := 250

/-- The expression that a source stands for. -/
def readExpr (source : Text) : Except SyntaxError Expr := do
  let r ← ({} : Reader).run 0 source
  if r.groups ≠ [] then .error .groupUnclosed
  else if maxDepth < r.contents.depth then .error .tooDeep
  else .ok r.contents.expr

/-- The program that a source stands for. -/
def compile (source : Text) : Except SyntaxError Program := do
  let e ← readExpr source
  if e.fits then .ok e.program else .error .tooLarge

end ModalLexer.Regex
