import Mathlib.Data.List.Induction
import ModalLexer.Outline
import ModalLexer.Proofs.Run

/-!
# Trees and their brackets

A tree is written as a row of brackets and values (`Tree.brackets`). Putting such a row together
again, piece by piece from the left, goes along the right edge of a tree: `Spine` holds the branches
from the one that is open last up to the root, each with its children so far. Values keep their
order whatever the brackets are (`Spine.leaves_trees`). If the brackets are balanced, the trees put
together are the only ones that are written in this way (`brackets_eq_iff_of_balanced`).

The outline of tokens is put together in this way (`Outline.Shows.attach`): its tree is the one that
the spine makes up, and the path to attach at leads down the spine.
-/

namespace ModalLexer

/-! ## Trees as rows of brackets -/

/-- A bracket, or a value. -/
inductive Bracket where
  | opening
  | closing
  | item (value : Text)
  deriving DecidableEq

namespace Bracket

/-- The value, if it is one. -/
def value? : Bracket → Option Text
  | item v => some v
  | _ => none

/-- Every closing bracket has an opening one in front of it, and every opening bracket is closed. -/
def Balanced (bs : List Bracket) : Prop :=
  (∀ front, front <+: bs → front.count closing ≤ front.count opening) ∧
    bs.count closing = bs.count opening

end Bracket

namespace Tree

mutual

/-- The texts at the leaves, from left to right. -/
def leaves : Tree → List Text
  | leaf v => [v]
  | branch ⟨ts⟩ => leavesOf ts

/-- The texts at the leaves of trees that stand side by side. -/
def leavesOf : List Tree → List Text
  | [] => []
  | t :: ts => t.leaves ++ leavesOf ts

end

mutual

/-- A tree as a row: the value of a leaf, or the children of a branch between brackets. -/
def brackets : Tree → List Bracket
  | leaf v => [.item v]
  | branch ⟨ts⟩ => .opening :: (bracketsOf ts ++ [.closing])

/-- Trees that stand side by side as a row. -/
def bracketsOf : List Tree → List Bracket
  | [] => []
  | t :: ts => t.brackets ++ bracketsOf ts

end

/-- What holds of leaves, and of a branch if it holds of its children, holds of all trees. -/
@[elab_as_elim]
theorem inductionOn {P : Tree → Prop} (leaf : ∀ v, P (leaf v))
    (branch : ∀ ts : List Tree, (∀ t ∈ ts, P t) → P (branch ts.toArray)) (t : Tree) : P t :=
  @Tree.rec P (fun ts => ∀ t ∈ ts.toList, P t) (fun ts => ∀ t ∈ ts, P t) leaf
    (fun ts ih => branch ts.toList ih) (fun _ ih => ih) (List.forall_mem_nil P)
    (fun _ _ ih ihs => List.forall_mem_cons.2 ⟨ih, ihs⟩) t

/-- The leaves of a branch are those of its children. -/
theorem leaves_branch (ts : List Tree) : (branch ts.toArray).leaves = ts.flatMap leaves := by
  have h : leavesOf ts = ts.flatMap leaves := by
    induction ts with
    | nil => rfl
    | cons t ts ih => rw [leavesOf, ih, List.flatMap_cons]
  exact h

/-- The row of a branch is that of its children, between brackets. -/
theorem brackets_branch (ts : List Tree) :
    (branch ts.toArray).brackets = .opening :: (ts.flatMap brackets ++ [.closing]) := by
  have h : bracketsOf ts = ts.flatMap brackets := by
    induction ts with
    | nil => rfl
    | cons t ts ih => rw [bracketsOf, ih, List.flatMap_cons]
  exact congrArg (fun row => .opening :: (row ++ [.closing])) h

end Tree

/-! ## Spines -/

/-- The right edge of a tree that is being put together: the children of the branch that is open
last, and those of the branches around it up to the root, each without the child that is open. -/
structure Spine where
  here : List Tree := []
  around : List (List Tree) := []

namespace Spine

/-- Puts the next piece of a row in its place. A closing bracket without an opening one is left
out. -/
def put (s : Spine) : Bracket → Spine
  | .opening => ⟨[], s.here :: s.around⟩
  | .closing =>
    match s.around with
    | [] => s
    | ts :: around => ⟨ts ++ [.branch s.here.toArray], around⟩
  | .item v => ⟨s.here ++ [.leaf v], s.around⟩

/-- The tree in which `t` stands at the end of the spine. -/
def plug (t : Tree) : List (List Tree) → Tree
  | [] => t
  | ts :: around => plug (.branch (ts ++ [t]).toArray) around

/-- The children of the root, with all branches that are open closed. -/
def treesFrom (here : List Tree) : List (List Tree) → List Tree
  | [] => here
  | ts :: around => treesFrom (ts ++ [.branch here.toArray]) around

/-- The trees that are put together so far, with all branches that are open closed. -/
def trees (s : Spine) : List Tree := treesFrom s.here s.around

/-- The tree of a spine has these trees for the children of its root. -/
theorem plug_branch (here : List Tree) (around : List (List Tree)) :
    plug (.branch here.toArray) around = .branch (treesFrom here around).toArray := by
  induction around generalizing here with
  | nil => rfl
  | cons ts around ih => exact ih _

/-! ## Values -/

/-- The values in a spine, from the root down. -/
def leaves (s : Spine) : List Text :=
  s.around.reverse.flatMap (·.flatMap Tree.leaves) ++ s.here.flatMap Tree.leaves

/-- The values in a spine are those at the leaves of its trees. -/
theorem leaves_trees (s : Spine) : s.trees.flatMap Tree.leaves = s.leaves := by
  obtain ⟨here, around⟩ := s
  unfold trees leaves
  dsimp only
  induction around generalizing here with
  | nil => rfl
  | cons ts around ih => simp [treesFrom, ih, Tree.leaves_branch]

/-- A piece that is put in its place adds its value, if it has one, behind the others. -/
theorem leaves_put (s : Spine) (b : Bracket) : (s.put b).leaves = s.leaves ++ b.value?.toList := by
  obtain ⟨here, around⟩ := s
  cases b with
  | opening => simp [put, leaves, Bracket.value?]
  | item v => simp [put, leaves, Bracket.value?, Tree.leaves]
  | closing =>
    cases around with
    | nil => simp [put, leaves, Bracket.value?]
    | cons ts around => simp [put, leaves, Bracket.value?, Tree.leaves_branch]

/-- So the trees of a row hold the values of the row, in order. -/
theorem leaves_foldl_put (bs : List Bracket) (s : Spine) :
    (bs.foldl put s).leaves = s.leaves ++ bs.filterMap Bracket.value? := by
  induction bs generalizing s with
  | nil => simp
  | cons b bs ih =>
    rw [List.foldl_cons, ih, leaves_put, List.append_assoc]
    cases h : b.value? <;> simp [h]

/-! ## Balanced brackets -/

/-- The row that is put together so far, with the brackets that are open. -/
def row (s : Spine) : List Bracket :=
  (s.around.reverse.flatMap fun ts => ts.flatMap Tree.brackets ++ [.opening]) ++
    s.here.flatMap Tree.brackets

/-- A piece that is put in its place stands behind the row, unless it closes nothing. -/
theorem row_put {s : Spine} {b : Bracket} (h : b = .closing → s.around ≠ []) :
    (s.put b).row = s.row ++ [b] := by
  obtain ⟨here, around⟩ := s
  cases b with
  | opening => simp [put, row]
  | item v => simp [put, row, Tree.brackets]
  | closing =>
    cases around with
    | nil => exact absurd rfl (h rfl)
    | cons ts around => simp [put, row, Tree.brackets_branch]

/-- An opening bracket opens a branch, and a closing one closes one. -/
theorem length_around_put {s : Spine} {b : Bracket} (h : b = .closing → s.around ≠ []) :
    (s.put b).around.length + [b].count .closing = s.around.length + [b].count .opening := by
  obtain ⟨here, around⟩ := s
  cases b with
  | opening => rfl
  | item v => rfl
  | closing =>
    cases around with
    | nil => exact absurd rfl (h rfl)
    | cons ts around => rfl

/-- If no bracket closes nothing, a row is put together as it is, and the branches that are open are
as many as the opening brackets without the closing ones. -/
theorem row_foldl_put {bs : List Bracket}
    (h : ∀ front, front <+: bs → front.count .closing ≤ front.count .opening) :
    (bs.foldl put {}).row = bs ∧
      (bs.foldl put {}).around.length + bs.count .closing = bs.count .opening := by
  induction bs using List.reverseRecOn with
  | nil => exact ⟨rfl, rfl⟩
  | append_singleton bs b ih =>
    obtain ⟨hrow, hdepth⟩ := ih fun front hfront => h front (hfront.trans (List.prefix_append _ _))
    have hall := h (bs ++ [b]) List.prefix_rfl
    rw [List.count_append, List.count_append] at hall
    -- Where nothing is open, as many brackets have been closed as have been opened.
    have hopen : b = .closing → (bs.foldl put {}).around ≠ [] := by
      rintro rfl hnil
      have hone : [Bracket.closing].count .closing = 1 := rfl
      have hzero : [Bracket.closing].count .opening = 0 := rfl
      rw [hnil, List.length_nil] at hdepth
      omega
    have hput := length_around_put hopen
    rw [List.foldl_append, List.foldl_cons, List.foldl_nil, List.count_append, List.count_append]
    exact ⟨by rw [row_put hopen, hrow], by omega⟩

/-- The row of a tree puts this tree behind those that are there. -/
theorem foldl_put_brackets (t : Tree) (s : Spine) :
    t.brackets.foldl put s = ⟨s.here ++ [t], s.around⟩ := by
  induction t using Tree.inductionOn generalizing s with
  | leaf v => rfl
  | branch ts ih =>
    -- The children are put one after the other, at the branch that the first bracket opens.
    have hchildren (s : Spine) :
        (ts.flatMap Tree.brackets).foldl put s = ⟨s.here ++ ts, s.around⟩ := by
      induction ts generalizing s with
      | nil => simp
      | cons t ts ihts =>
        rw [List.flatMap_cons, List.foldl_append, ih t List.mem_cons_self,
          ihts fun t ht => ih t (List.mem_cons_of_mem _ ht)]
        simp
    rw [Tree.brackets_branch, List.foldl_cons, List.foldl_append, hchildren]
    rfl

/-- So the row of trees is put together as these trees. -/
theorem trees_foldl_put (ts : List Tree) :
    ((ts.flatMap Tree.brackets).foldl put {}).trees = ts := by
  have hrow : (ts.flatMap Tree.brackets).foldl put {} = ⟨ts, []⟩ := by
    induction ts using List.reverseRecOn with
    | nil => rfl
    | append_singleton ts t ih =>
      rw [List.flatMap_append, List.foldl_append, ih, List.flatMap_singleton, foldl_put_brackets]
  rw [hrow]
  rfl

end Spine

/-- Trees are written as a balanced row exactly if they are the ones that it puts together. -/
theorem brackets_eq_iff_of_balanced {bs : List Bracket} (h : Bracket.Balanced bs) (ts : List Tree) :
    ts.flatMap Tree.brackets = bs ↔ ts = (bs.foldl Spine.put {}).trees := by
  constructor
  · rintro rfl
    exact (Spine.trees_foldl_put ts).symm
  · rintro rfl
    obtain ⟨hfronts, hcount⟩ := h
    obtain ⟨hrow, hdepth⟩ := Spine.row_foldl_put hfronts
    -- No branch is left open.
    have hclosed : (bs.foldl Spine.put {}).around = [] := List.length_eq_zero_iff.1 (by omega)
    unfold Spine.trees
    unfold Spine.row at hrow
    rw [hclosed] at hrow ⊢
    exact hrow

/-! ## Outlines -/

/-- The piece of a row that a token is. -/
def Token.bracket (t : Token) : Bracket :=
  if t.name = "open" then .opening else if t.name = "close" then .closing else .item t.value

namespace Outline

/-- The path from the root to the branch at the end of a spine. -/
def pathTo : List (List Tree) → Tree.Path
  | [] => []
  | ts :: around => pathTo around ++ [ts.length]

/-- The paths to the branches around it. -/
def pathsTo : List (List Tree) → List Tree.Path
  | [] => []
  | _ :: around => pathTo around :: pathsTo around

/-- At the end of the path, the children of the branch there are counted. -/
theorem childCount_plug (around : List (List Tree)) (t : Tree) (p : Tree.Path) :
    (Spine.plug t around).childCount (pathTo around ++ p) = t.childCount p := by
  induction around generalizing t p with
  | nil => rfl
  | cons ts around ih =>
    rw [pathTo, Spine.plug, List.append_assoc, ih]
    simp [Tree.childCount]

/-- At the end of the path, a child is added to the branch there. -/
theorem addChild_plug (child : Tree) (around : List (List Tree)) (t : Tree) (p : Tree.Path) :
    Tree.addChild child (pathTo around ++ p) (Spine.plug t around) =
      Spine.plug (Tree.addChild child p t) around := by
  induction around generalizing t p with
  | nil => rfl
  | cons ts around ih =>
    have hmodify : (ts ++ [t]).toArray.modify ts.length (Tree.addChild child p) =
        (ts ++ [Tree.addChild child p t]).toArray := by
      simp [List.modify_eq_set]
    rw [pathTo, Spine.plug, List.append_assoc, ih, Spine.plug, ← hmodify]
    rfl

/-- An outline in which the next token attaches at the end of a spine. -/
structure Shows (o : Outline) (path : Tree.Path) (s : Spine) : Prop where
  tree : o.tree = Spine.plug (.branch s.here.toArray) s.around
  path : path = pathTo s.around
  opened : o.opened = pathsTo s.around

/-- Before the first token, the root has no children. -/
theorem shows_empty : ({} : Outline).Shows [] {} := ⟨rfl, rfl, rfl⟩

/-- A token that is attached puts its piece in its place. -/
theorem Shows.attach {o : Outline} {path : Tree.Path} {s : Spine} (h : o.Shows path s) (t : Token) :
    (o.attach path t).1.Shows (o.attach path t).2 (s.put t.bracket) := by
  obtain ⟨here, around⟩ := s
  obtain ⟨tree, opened⟩ := o
  obtain ⟨rfl, rfl, rfl⟩ := h
  -- At the end of the spine, the path goes no further.
  have hadd (child : Tree) : Tree.addChild child (pathTo around)
      (Spine.plug (.branch here.toArray) around) =
        Spine.plug (.branch (here ++ [child]).toArray) around := by
    have h := addChild_plug child around (.branch here.toArray) []
    simpa [Tree.addChild] using h
  have hcount : (Spine.plug (.branch here.toArray) around).childCount (pathTo around) =
      here.length := by
    have h := childCount_plug around (.branch here.toArray) []
    simpa [Tree.childCount] using h
  unfold Outline.attach Token.bracket
  split
  · exact ⟨hadd _, by rw [hcount]; rfl, rfl⟩
  · split
    · cases around with
      | nil => exact ⟨rfl, rfl, rfl⟩
      | cons ts around => exact ⟨rfl, rfl, rfl⟩
    · exact ⟨hadd _, rfl, rfl⟩

end Outline

end ModalLexer
