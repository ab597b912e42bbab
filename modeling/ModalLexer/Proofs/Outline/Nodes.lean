import Mathlib.Data.List.Forall2
import Mathlib.Data.List.Infix
import ModalLexer.Proofs.Outline.Spine
import ModalLexer.Proofs.Retry

/-!
# Outlines of shared nodes

An outline can be built of nodes that are shared and change: a cursor is the address of a node, a
token appends a new node to the children of the one at its cursor, and a run returns the address of
the first node, which was the root before any token. `root_sees_outline` says that the whole tree is
seen from there in the end, whatever the brackets are: its leaves are the values in order, and if
the brackets are balanced, it is the only tree that is written as these tokens. It is the tree of
the outline that `Outline.reduction` builds.

The open branches are a `Spine`, and `Nodes.Carries` says how the nodes hold it: the node at the
cursor and those on the stack are its branches, from its end up to the root, and each of the
branches has the next one for its last child. A token changes the node at the cursor alone, and no
tree that has been put in place goes through this node or another one of the spine. To say so, the
trees are seen in the memory without the spine (`Memory.without`), where the change does not show
(`Memory.Shows.adopt`).
-/

namespace ModalLexer

/-! ## Nodes -/

/-- A node that is shared: the value on it, if it was made for one, and the addresses of its
children. -/
structure Node where
  label : Option Text := none
  children : List Nat := []

/-- The nodes by address, with the root at the address 0, and the addresses to go back to, the last
one first. -/
structure Nodes where
  heap : List Node := [{}]
  opened : List Nat := []

/-- Makes a node, and appends it to the children of the node at an address. -/
def adopt (heap : List Node) (parent : Nat) (child : Node) : List Node :=
  heap.modify parent (fun node => { node with children := node.children ++ [heap.length] }) ++
    [child]

namespace Nodes

/-- Attaches a token to the node at `cursor`, and returns the address to which the next one is
attached. -/
def attach (ns : Nodes) (cursor : Nat) (t : Token) : Nodes × Nat :=
  if t.name = "open" then (⟨adopt ns.heap cursor {}, cursor :: ns.opened⟩, ns.heap.length)
  else if t.name = "close" then
    match ns.opened with
    | [] => (ns, cursor)
    | outer :: opened => (⟨ns.heap, opened⟩, outer)
  else (⟨adopt ns.heap cursor { label := some t.value }, ns.opened⟩, cursor)

/-- The reduction that builds an outline of nodes. -/
def reduction : Reduction Nodes Nat Empty := .total 0 attach

end Nodes

/-! ## Trees in memory -/

/-- The nodes that can be seen, by address. -/
abbrev Memory := Nat → Option Node

/-- The nodes of a heap. -/
def memoryOf (heap : List Node) : Memory := fun a => heap[a]?

namespace Memory

/-- The tree that is seen from an address. -/
inductive Shows (mem : Memory) : Nat → Tree → Prop
  | leaf {a : Nat} {v : Text} (h : mem a = some ⟨some v, []⟩) : Shows mem a (.leaf v)
  | branch {a : Nat} {children : List Nat} {ts : Array Tree} (h : mem a = some ⟨none, children⟩)
    (hts : List.Forall₂ (Shows mem) children ts.toList) : Shows mem a (.branch ts)

/-- The memory without the nodes at some addresses. -/
def without (mem : Memory) (as : List Nat) : Memory := fun a => if a ∈ as then none else mem a

variable {mem mem' : Memory} {a : Nat} {t t' : Tree}

/-- More memory shows the same trees. -/
theorem Shows.mono (hmem : ∀ a node, mem a = some node → mem' a = some node)
    (h : mem.Shows a t) : mem'.Shows a t := by
  induction t using Tree.inductionOn generalizing a with
  | leaf v =>
    cases h with
    | leaf h => exact .leaf (hmem _ _ h)
  | branch ts ih =>
    cases h with
    | branch h hts =>
      obtain ⟨hlength, hall⟩ := List.forall₂_iff_zip.1 hts
      refine .branch (hmem _ _ h) (List.forall₂_iff_zip.2 ⟨hlength, fun hzip => ?_⟩)
      exact ih _ (List.of_mem_zip hzip).2 (hall hzip)

/-- One tree at most is seen from an address. -/
theorem Shows.unique (h : mem.Shows a t) (h' : mem.Shows a t') : t = t' := by
  induction t using Tree.inductionOn generalizing a t' with
  | leaf v =>
    cases h with
    | leaf h =>
      cases h' with
      | leaf h' => simpa using h.symm.trans h'
      | branch h' => simpa using h.symm.trans h'
  | branch ts ih =>
    -- The children are seen from the same addresses, one by one.
    have hchildren {as : List Nat} {us : List Tree} (hts : List.Forall₂ mem.Shows as ts)
        (hus : List.Forall₂ mem.Shows as us) : ts = us := by
      clear h
      induction hts generalizing us with
      | nil => exact (List.forall₂_nil_left_iff.1 hus).symm
      | cons ht _ ihts =>
        cases hus with
        | cons ht' hus =>
          rw [ih _ List.mem_cons_self ht ht',
            ihts (fun t hmem => ih t (List.mem_cons_of_mem _ hmem)) hus]
    cases h with
    | branch h hts =>
      cases h' with
      | leaf h' => simpa using h.symm.trans h'
      | branch h' hus =>
        obtain ⟨-, rfl⟩ := Node.mk.inj (Option.some.inj (h.symm.trans h'))
        rw [hchildren hts hus]

/-- A node is there without some addresses if it is there and at none of them. -/
theorem without_eq_some_iff {as : List Nat} {node : Node} :
    mem.without as a = some node ↔ a ∉ as ∧ mem a = some node := by
  unfold without
  split <;> simp [*]

/-- Where less is left out, the same trees are seen. -/
theorem Shows.without_of_subset {as as' : List Nat} (h : (mem.without as).Shows a t)
    (has : as' ⊆ as) : (mem.without as').Shows a t := by
  refine h.mono fun b node hb => ?_
  obtain ⟨hnotin, hb⟩ := without_eq_some_iff.1 hb
  exact without_eq_some_iff.2 ⟨fun hin => hnotin (has hin), hb⟩

/-- In the whole memory, they are seen too. -/
theorem Shows.of_without {as : List Nat} (h : (mem.without as).Shows a t) : mem.Shows a t :=
  h.mono fun _ _ hb => (without_eq_some_iff.1 hb).2

end Memory

/-! ## A new node -/

section

variable {heap : List Node} {parent a : Nat} {child node : Node} {as as' : List Nat}

/-- One node is added. -/
theorem length_adopt (heap : List Node) (parent : Nat) (child : Node) :
    (adopt heap parent child).length = heap.length + 1 := by
  simp [adopt]

/-- The new node has the next address. -/
theorem getElem?_adopt_length (heap : List Node) (parent : Nat) (child : Node) :
    (adopt heap parent child)[heap.length]? = some child := by
  simp [adopt]

/-- It is the last child of the node to whose children it is appended. -/
theorem getElem?_adopt_parent (h : heap[parent]? = some node) (child : Node) :
    (adopt heap parent child)[parent]? =
      some { node with children := node.children ++ [heap.length] } := by
  obtain ⟨hlt, rfl⟩ := List.getElem?_eq_some_iff.1 h
  simp [adopt, List.getElem?_append_left, hlt]

/-- No other node is changed. -/
theorem getElem?_adopt_of_ne (h : heap[a]? = some node) (hne : a ≠ parent) (child : Node) :
    (adopt heap parent child)[a]? = some node := by
  obtain ⟨hlt, rfl⟩ := List.getElem?_eq_some_iff.1 h
  simp [adopt, List.getElem?_append_left, hlt, hne.symm]

/-- What is seen without the node that is changed is seen further on, also without the new node. -/
theorem Memory.Shows.adopt {t : Tree} (h : ((memoryOf heap).without as).Shows a t)
    (hparent : parent ∈ as) (has : ∀ b ∈ as', b ∈ as ∨ b = heap.length) (child : Node) :
    ((memoryOf (ModalLexer.adopt heap parent child)).without as').Shows a t := by
  refine h.mono fun b node hb => ?_
  obtain ⟨hnotin, hb⟩ := Memory.without_eq_some_iff.1 hb
  refine Memory.without_eq_some_iff.2 ⟨fun hin => ?_, ?_⟩
  · rcases has b hin with hin | rfl
    · exact hnotin hin
    · simp [memoryOf] at hb
  · exact getElem?_adopt_of_ne hb (fun heq => hnotin (heq ▸ hparent)) child

end

/-! ## Nodes that hold a spine -/

/-- At an address there is a branch that is open: the first of its children are seen as `ts` without
the nodes at `as`, and the addresses `next` come behind them. -/
def OpenAt (heap : List Node) (as : List Nat) (a : Nat) (ts : List Tree) (next : List Nat) : Prop :=
  ∃ children, heap[a]? = some ⟨none, children ++ next⟩ ∧
    List.Forall₂ ((memoryOf heap).without as).Shows children ts

/-- From the addresses of open branches up to the root, each of them has the one before for its last
child, the first one of them the node at `child`. -/
def AroundAt (heap : List Node) (as : List Nat) : Nat → List Nat → List (List Tree) → Prop
  | child, [], [] => child = 0
  | child, a :: opened, ts :: around =>
    OpenAt heap as a ts [child] ∧ AroundAt heap as a opened around
  | _, _, _ => False

/-- The nodes hold a spine: the branch at the end of it is at the cursor, and those around it are at
the addresses to go back to. They have been made from the root down, and their other children are
seen without them. -/
structure Nodes.Carries (ns : Nodes) (cursor : Nat) (s : Spine) : Prop where
  order : (ns.heap.length :: cursor :: ns.opened).Pairwise (· > ·)
  here : OpenAt ns.heap (cursor :: ns.opened) cursor s.here []
  around : AroundAt ns.heap (cursor :: ns.opened) cursor ns.opened s.around

section

variable {heap : List Node} {as as' opened : List Nat} {a parent child : Nat} {ts : List Tree}
  {next : List Nat} {around : List (List Tree)}

/-- A branch that is open stays as it is where another node is changed. -/
theorem OpenAt.adopt (h : OpenAt heap as a ts next) (hne : a ≠ parent) (hparent : parent ∈ as)
    (has : ∀ b ∈ as', b ∈ as ∨ b = heap.length) (node : Node) :
    OpenAt (ModalLexer.adopt heap parent node) as' a ts next := by
  obtain ⟨children, ha, hts⟩ := h
  exact ⟨children, getElem?_adopt_of_ne ha hne node,
    hts.imp fun _ _ hshows => hshows.adopt hparent has node⟩

/-- It gets a child where it is changed itself. -/
theorem OpenAt.adopt_self (h : OpenAt heap as parent ts []) (hparent : parent ∈ as)
    (has : ∀ b ∈ as', b ∈ as ∨ b = heap.length) (node : Node) :
    OpenAt (ModalLexer.adopt heap parent node) as' parent ts [heap.length] := by
  obtain ⟨children, ha, hts⟩ := h
  refine ⟨children, ?_, hts.imp fun _ _ hshows => hshows.adopt hparent has node⟩
  rw [getElem?_adopt_parent ha]
  simp

/-- The last child of a branch is one of its trees if it is seen. -/
theorem OpenAt.snoc {t : Tree} (h : OpenAt heap as a ts [child])
    (ht : ((memoryOf heap).without as).Shows child t) : OpenAt heap as a (ts ++ [t]) [] := by
  obtain ⟨children, ha, hts⟩ := h
  exact ⟨children ++ [child], by simpa using ha, List.rel_append hts (.cons ht .nil)⟩

/-- A branch stays open where more is seen. -/
theorem OpenAt.of_subset (h : OpenAt heap as a ts next) (has : as' ⊆ as) :
    OpenAt heap as' a ts next := by
  obtain ⟨children, ha, hts⟩ := h
  exact ⟨children, ha, hts.imp fun _ _ hshows => hshows.without_of_subset has⟩

/-- A branch whose children are all trees is seen where it is not left out. -/
theorem OpenAt.shows (h : OpenAt heap as a ts []) (has : as' ⊆ as) (ha : a ∉ as') :
    ((memoryOf heap).without as').Shows a (.branch ts.toArray) := by
  obtain ⟨children, hnode, hts⟩ := h.of_subset has
  rw [List.append_nil] at hnode
  exact .branch (Memory.without_eq_some_iff.2 ⟨ha, hnode⟩) hts

/-- What all open branches keep, the branches around keep. -/
theorem AroundAt.imp {heap' : List Node} (h : AroundAt heap as child opened around)
    (hopen : ∀ a ∈ opened, ∀ ts next, OpenAt heap as a ts next → OpenAt heap' as' a ts next) :
    AroundAt heap' as' child opened around := by
  induction opened generalizing child around with
  | nil =>
    cases around with
    | nil => exact h
    | cons ts around => exact h
  | cons a opened ih =>
    cases around with
    | nil => exact h
    | cons ts around =>
      obtain ⟨hone, hall⟩ := h
      exact ⟨hopen a List.mem_cons_self _ _ hone,
        ih hall fun b hb => hopen b (List.mem_cons_of_mem _ hb)⟩

end

namespace Nodes.Carries

variable {ns : Nodes} {cursor : Nat} {s : Spine}

/-- No node is made behind the last one. -/
theorem lt_of_mem (h : ns.Carries cursor s) {a : Nat} (ha : a ∈ cursor :: ns.opened) :
    a < ns.heap.length :=
  (List.pairwise_cons.1 h.order).1 a ha

/-- The branch at the cursor is not one of those around it. -/
theorem ne_of_mem (h : ns.Carries cursor s) {a : Nat} (ha : a ∈ ns.opened) : a ≠ cursor :=
  Nat.ne_of_lt ((List.pairwise_cons.1 (List.pairwise_cons.1 h.order).2).1 a ha)

/-- A branch that is opened is the end of the spine. -/
theorem opening (h : ns.Carries cursor s) :
    (⟨adopt ns.heap cursor {}, cursor :: ns.opened⟩ : Nodes).Carries ns.heap.length
      (s.put .opening) := by
  have hcursor : cursor ∈ cursor :: ns.opened := List.mem_cons_self
  have hsub : ∀ b ∈ ns.heap.length :: cursor :: ns.opened,
      b ∈ cursor :: ns.opened ∨ b = ns.heap.length := by
    intro b hb
    exact (List.mem_cons.1 hb).symm
  refine ⟨?_, ⟨[], getElem?_adopt_length .., .nil⟩, h.here.adopt_self hcursor hsub _,
    h.around.imp fun a ha _ _ hopen => hopen.adopt (h.ne_of_mem ha) hcursor hsub _⟩
  -- The new node is made behind all others, those of the spine among them.
  refine List.pairwise_cons.2 ⟨fun a ha => ?_, h.order⟩
  rw [length_adopt]
  rcases List.mem_cons.1 ha with rfl | ha
  · exact Nat.lt_succ_self _
  · exact Nat.lt_succ_of_lt (h.lt_of_mem ha)

/-- A value stands behind the children of the branch at the cursor. -/
theorem item (h : ns.Carries cursor s) (v : Text) :
    (⟨adopt ns.heap cursor { label := some v }, ns.opened⟩ : Nodes).Carries cursor
      (s.put (.item v)) := by
  have hcursor : cursor ∈ cursor :: ns.opened := List.mem_cons_self
  have hsub : ∀ b ∈ cursor :: ns.opened, b ∈ cursor :: ns.opened ∨ b = ns.heap.length :=
    fun b hb => .inl hb
  refine ⟨?_, ?_, h.around.imp fun a ha _ _ hopen => hopen.adopt (h.ne_of_mem ha) hcursor hsub _⟩
  · refine List.pairwise_cons.2 ⟨fun a ha => ?_, (List.pairwise_cons.1 h.order).2⟩
    rw [length_adopt]
    exact Nat.lt_succ_of_lt (h.lt_of_mem ha)
  · -- The leaf is a tree at once, since its node is not one of the spine.
    have hnew : ns.heap.length ∉ cursor :: ns.opened :=
      fun hmem => Nat.lt_irrefl _ (h.lt_of_mem hmem)
    exact (h.here.adopt_self hcursor hsub _).snoc
      (.leaf (Memory.without_eq_some_iff.2 ⟨hnew, getElem?_adopt_length ..⟩))

/-- A branch that is closed is the last child of the one around it. -/
theorem closing {heap : List Node} {a : Nat} {opened : List Nat} {here ts : List Tree}
    {around : List (List Tree)}
    (h : (⟨heap, a :: opened⟩ : Nodes).Carries cursor ⟨here, ts :: around⟩) :
    (⟨heap, opened⟩ : Nodes).Carries a (Spine.put ⟨here, ts :: around⟩ .closing) := by
  obtain ⟨hone, hall⟩ := h.around
  -- The branch at the cursor is no longer one of the spine, so it is seen as a tree from here on.
  have hsub : a :: opened ⊆ cursor :: a :: opened := List.subset_cons_self _ _
  have hcursor : cursor ∉ a :: opened := fun hmem => h.ne_of_mem hmem rfl
  refine ⟨?_, (hone.of_subset hsub).snoc (h.here.shows hsub hcursor),
    hall.imp fun b _ _ _ hopen => hopen.of_subset hsub⟩
  exact h.order.sublist ((List.sublist_cons_self _ _).cons_cons _)

/-- A token that is attached puts its piece in its place. -/
theorem attach (h : ns.Carries cursor s) (t : Token) :
    (ns.attach cursor t).1.Carries (ns.attach cursor t).2 (s.put t.bracket) := by
  unfold Nodes.attach Token.bracket
  split
  · exact h.opening
  · split
    · obtain ⟨heap, opened⟩ := ns
      obtain ⟨here, around⟩ := s
      cases opened with
      | nil =>
        cases around with
        | nil => exact h
        | cons ts around => exact h.around.elim
      | cons a opened =>
        cases around with
        | nil => exact h.around.elim
        | cons ts around => exact h.closing
    · exact h.item _

/-- From the first node, the tree of the spine is seen. -/
theorem shows (h : ns.Carries cursor s) :
    (memoryOf ns.heap).Shows 0 (.branch s.trees.toArray) := by
  obtain ⟨heap, opened⟩ := ns
  obtain ⟨here, around⟩ := s
  -- Closing what is open changes neither the nodes nor the tree.
  induction opened generalizing cursor here around with
  | nil =>
    cases around with
    | nil =>
      obtain rfl : cursor = 0 := h.around
      exact (h.here.shows (List.nil_subset _) List.not_mem_nil).of_without
    | cons ts around => exact h.around.elim
  | cons a opened ih =>
    cases around with
    | nil => exact h.around.elim
    | cons ts around => exact ih (ts ++ [.branch here.toArray]) around h.closing

end Nodes.Carries

/-- Before the first token, the root has no children. -/
theorem Nodes.carries_empty : ({} : Nodes).Carries 0 {} :=
  ⟨by simp, ⟨[], rfl, .nil⟩, rfl⟩

/-! ## Runs -/

/-- The pieces of tokens that are values are the tokens that are not brackets, by their values. -/
theorem filterMap_value?_map_bracket (tokens : List Token) :
    (tokens.map Token.bracket).filterMap Bracket.value? =
      (tokens.filter fun t => t.name ≠ "open" ∧ t.name ≠ "close").map Token.value := by
  induction tokens with
  | nil => rfl
  | cons t tokens ih =>
    rw [List.map_cons, List.filterMap_cons, ih, List.filter_cons]
    by_cases hopen : t.name = "open" <;> by_cases hclose : t.name = "close" <;>
      simp [Token.bracket, Bracket.value?, hopen, hclose]

variable {g : Grammar} {s : State} {n : Nat} {calls : List Token}

/-- The root sees the whole tree. Let a run succeed that builds an outline of nodes that are shared.
Then one tree, and no other, is seen from the root that it returns. The leaves of the tree are the
values of the tokens that are not brackets, in order, whether the brackets are balanced or not. If
they are, the tokens are what the children of the root are written as, and there are no other trees
that are. And the same run with the outline that is a value succeeds and leaves this tree. -/
theorem root_sees_outline {res : RunResult Nodes Nat Empty} {root : Nat}
    (h : s.EndsCalling g Nodes.reduction {} n calls res) (hok : res.outcome = .ok root) :
    ∃ ts : List Tree, (∀ t, (memoryOf res.store.heap).Shows root t ↔ t = .branch ts.toArray) ∧
      ts.flatMap Tree.leaves =
        (calls.filter fun t => t.name ≠ "open" ∧ t.name ≠ "close").map Token.value ∧
      (Bracket.Balanced (calls.map Token.bracket) →
        ∀ us : List Tree, us.flatMap Tree.brackets = calls.map Token.bracket ↔ us = ts) ∧
      ∃ res', s.EndsCalling g Outline.reduction {} n calls res' ∧ res'.outcome = .ok [] ∧
        res'.store.tree = .branch ts.toArray := by
  have hfold : calls.foldl (fun s t => s.put t.bracket) {} =
      (calls.map Token.bracket).foldl Spine.put {} := (List.foldl_map ..).symm
  obtain ⟨cursor, hcarries⟩ := h.store_refines Nodes.Carries (fun s t => s.put t.bracket)
    (fun _ _ _ t hc => hc.attach t) Nodes.carries_empty
  rw [hfold] at hcarries
  obtain rfl := Runs.root_eq h.1 hok
  have hshows := hcarries.shows
  refine ⟨_, fun t => ⟨fun ht => ht.unique hshows, fun ht => ht ▸ hshows⟩, ?_,
    fun hbalanced => brackets_eq_iff_of_balanced hbalanced, ?_⟩
  · rw [Spine.leaves_trees, Spine.leaves_foldl_put, filterMap_value?_map_bracket]
    rfl
  · obtain ⟨res', hends, hok'⟩ := h.exists_ok hok (Reduction.total_accepts [] Outline.attach) {}
    obtain ⟨path, houtline⟩ := hends.store_refines Outline.Shows (fun s t => s.put t.bracket)
      (fun _ _ _ t hs => hs.attach t) Outline.shows_empty
    rw [hfold] at houtline
    exact ⟨res', hends, hok', houtline.tree.trans (Spine.plug_branch _ _)⟩

/-- Brackets and letters, in any order. -/
def bracketGrammar : Grammar :=
  let rules : Context := [⟨.produce "open", .literal ['(']⟩, ⟨.produce "close", .literal [')']⟩,
    ⟨.produce "letter", .literal ['a']⟩]
  ((Grammar.empty.insert "letter" rules).insert "open" rules).insert "close" rules

/-- Behind a letter stands a branch with an empty branch and another letter in it. -/
theorem root_sees_outline_letters :
    ∃ calls res, (State.fresh "letter" ['a', '(', '(', ')', 'a', ')']).EndsCalling bracketGrammar
        Nodes.reduction {} 6 calls res ∧ res.outcome = .ok 0 ∧
      Bracket.Balanced (calls.map Token.bracket) ∧
      ∀ t, (memoryOf res.store.heap).Shows 0 t ↔
        t = .branch #[.leaf ['a'], .branch #[.branch #[], .leaf ['a']]] := by
  have h : ∃ res, (State.fresh "letter" ['a', '(', '(', ')', 'a', ')']).EndsCalling bracketGrammar
      Nodes.reduction {} 6 [⟨"letter", ['a']⟩, ⟨"open", ['(']⟩, ⟨"open", ['(']⟩, ⟨"close", [')']⟩,
        ⟨"letter", ['a']⟩, ⟨"close", [')']⟩] res ∧ res.outcome = .ok 0 :=
    ⟨_, ⟨.reduced rfl rfl rfl <| .reduced rfl rfl rfl <| .reduced rfl rfl rfl <|
        .reduced rfl rfl rfl <| .reduced rfl rfl rfl <| .reduced rfl rfl rfl <| .finished rfl,
      .reduced rfl rfl rfl <| .reduced rfl rfl rfl <| .reduced rfl rfl rfl <|
        .reduced rfl rfl rfl <| .reduced rfl rfl rfl <| .reduced rfl rfl rfl <| .finished rfl⟩,
      rfl⟩
  obtain ⟨res, hends, hok⟩ := h
  have hbalanced : Bracket.Balanced [.item ['a'], .opening, .opening, .closing, .item ['a'],
      .closing] := by
    refine ⟨fun front hfront => ?_, by decide⟩
    have hall : ∀ front ∈ [Bracket.item ['a'], .opening, .opening, .closing, .item ['a'],
        .closing].inits, front.count .closing ≤ front.count .opening := by decide
    exact hall front ((List.mem_inits ..).2 hfront)
  obtain ⟨ts, hshows, -, hunique, -⟩ := root_sees_outline hends hok
  have hts : [Tree.leaf ['a'], .branch #[.branch #[], .leaf ['a']]] = ts :=
    (hunique hbalanced _).1 rfl
  subst hts
  exact ⟨_, res, hends, hok, hbalanced, hshows⟩

end ModalLexer
