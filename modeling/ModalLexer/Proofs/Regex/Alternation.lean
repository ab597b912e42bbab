import ModalLexer.Proofs.Regex.Anchored
import ModalLexer.Proofs.Regex.Choice
import ModalLexer.Proofs.Regex.Reading.Source

/-!
# Alternation

A pattern matches what its source finds at the start of the text (`Pattern.match?_eq_search`), and
the branches of a source are those of its parts between the bars (`Reader.run_bar`). A choice
between branches is ordered, except that parts that all of the branches begin with are read once for
all of them. Where such parts leave a choice themselves, they make it for all of the branches at
once, with what the first branch would have matched given up for a longer part
(`Pattern.match?_bar_of_shared_part`); where they do not, `a|b` matches what `a` does, and what `b`
does where `a` does not match (`Pattern.match?_bar`).
-/

namespace ModalLexer

namespace Regex

namespace Expr

variable {e : Expr} {es : List Expr}

/-- How groups are counted makes no difference to a search. -/
theorem search_reindex (k : Nat) (e : Expr) (l : Place) : (e.reindex k).search l = e.search l := by
  rw [search, search, machine, machine, program, program, code_reindex, size_reindex]

/-- What stands behind `^` is searched for at the start of the text. -/
theorem search_caret (he : e.Tidy) (t : Text) :
    (sequence [assertion .textStart, e]).anchored = true ∧
      (sequence [assertion .textStart, e]).search (.start t) = e.search (.start t) := by
  have hparts : sequence [assertion .textStart, e] =
      ofParts (assertion .textStart :: joinLiterals e.parts) := by
    rw [sequence, List.flatMap_cons, List.flatMap_singleton]
    rfl
  constructor
  · rw [hparts]
    cases joinLiterals e.parts <;> rfl
  · have hsame : joinLiterals (assertion .textStart :: e.parts) =
        assertion .textStart :: joinLiterals e.parts := rfl
    rw [hparts, ← hsame, (sameCode_ofParts_joinLiterals _).search_eq, ← List.singleton_append,
      search_ofParts_append (by simp [fixed]), ofParts_parts he]
    rfl

end Expr

namespace Reader

variable {r r' : Reader} {source t : Text}

/-! ## The source that is compiled -/

/-- What stands around a source that is compiled: a group behind `^`. -/
def caret : Surroundings := { groups := inGroup.groups }

/-- No group is named in front of a source, so none clashes with it. -/
theorem apart_caret (r : Reader) : caret.Apart r := fun _ _ => List.not_mem_nil

/-- A source is read in the group as it is read alone, and then the group is closed, unless a
comment at the end of the source takes in the parenthesis. -/
theorem run_anchored (h : ({} : Reader).run 0 source = .ok r) :
    ({} : Reader).run 0 (anchoredSource source) = (caret.within r).closeGroup ∨
      ({} : Reader).run 0 (source ++ [')']) = .ok r ∧
        ({} : Reader).run 0 (anchoredSource source) = .ok (caret.within r) := by
  rw [run_anchoredSource]
  rcases run_append (stops_paren []) (Nat.zero_le _) h with hrun | ⟨-, hrun⟩
  · exact .inl ((hrun caret (apart_caret r)).trans (run_paren _))
  · have halone := hrun rfl {} fun _ _ => List.not_mem_nil
    rw [Surroundings.within_nothing, Surroundings.within_nothing] at halone
    exact .inr ⟨halone, hrun rfl caret (apart_caret r)⟩

/-- The group around a source is open while it is read. -/
theorem groups_caret_ne_nil (r : Reader) : (caret.within r).groups ≠ [] := by
  change caret.around r.groups ≠ []
  cases r.groups <;> simp [Surroundings.around, caret, inGroup, openGroup]

/-- The state behind the group. -/
def closed (r : Reader) : Reader :=
  { caret.within r with
    flags := {}, branches := [], groups := []
    items := [some ⟨r.contents.expr, r.contents.depth + 1⟩, some ⟨.assertion .textStart, 0⟩] }

/-- A source that closes all of its groups can be followed by the parenthesis around it. -/
theorem closeGroup_caret (hgroups : r.groups = []) :
    (caret.within r).closeGroup = .ok r.closed := by
  have haround : (caret.within r).groups = inGroup.groups := by
    rw [Surroundings.within, hgroups]
    rfl
  have hcontents : (caret.within r).contents = r.contents := by
    rw [contents_within caret (by rw [hgroups]; rfl), Piece.reindex]
    exact congrArg (Piece.mk · r.contents.depth) (Expr.reindex_zero _)
  rw [closeGroup, haround, hcontents]
  rfl

/-- A source is read if no group is left open, and its syntax tree has not too many levels. -/
theorem readExpr_eq_ok_iff {e : Expr} : readExpr source = .ok e ↔
    ∃ r, ({} : Reader).run 0 source = .ok r ∧ r.groups = [] ∧ r.contents.depth ≤ maxDepth ∧
      r.contents.expr = e := by
  rw [readExpr]
  cases ({} : Reader).run 0 source with
  | error e => simp [Bind.bind, Except.bind]
  | ok r =>
    simp only [Bind.bind, Except.bind, Except.ok.injEq, exists_eq_left']
    split
    · next hgroups => simp [hgroups]
    · next hgroups =>
      split
      · next hdepth => simp [Nat.not_le.2 hdepth]
      · next hdepth => simp_all

/-- The expression of the source is compiled behind `^`. -/
theorem readExpr_anchored {e : Expr} (h : ({} : Reader).run 0 source = .ok r)
    (hgroups : r.groups = []) (he : readExpr (anchoredSource source) = .ok e) :
    e = .sequence [.assertion .textStart, r.contents.expr] := by
  obtain ⟨w, hw, hclosed, -, rfl⟩ := readExpr_eq_ok_iff.1 he
  rcases run_anchored h with hrun | ⟨-, hrun⟩
  · obtain rfl := Except.ok.inj (hw.symm.trans (hrun.trans (closeGroup_caret hgroups)))
    rfl
  · obtain rfl := Except.ok.inj (hw.symm.trans hrun)
    exact absurd hclosed (groups_caret_ne_nil r)

/-! ## The source between bars -/

/-- What stands around a source behind a bar, where `r` is the state in front of the bar. -/
def behindBar (r : Reader) : Surroundings where
  branches := r.branch :: r.branches
  groups := r.groups
  names := r.names
  captures := r.captures

/-- Behind a bar a source begins anew. -/
theorem run_bar_cons (h : r.flags = {}) (t : Text) :
    r.run 0 ('|' :: t) = (r.behindBar.within {}).run 0 t := by
  have hread : readAction r.flags '|' t = .ok (.endBranch, t) := by
    rw [h]
    rfl
  have hend : r.endBranch = r.behindBar.within {} := by
    simp only [endBranch, behindBar, Surroundings.within, h, Nat.zero_add]
    rfl
  rw [run_cons, hread]
  simp only [Bind.bind, Except.bind, act, Nat.sub_self, hend]

variable {a b : Text} {ra rb : Reader}

/-- A source between bars is read up to the bar as it is read alone. -/
theorem run_append_bar {s : Surroundings} (ha : ({} : Reader).run 0 a = .ok ra)
    (hflags : ra.flags = {}) (hs : s.Apart ra) (t : Text) :
    (s.within {}).run 0 (a ++ '|' :: t) = ((s.within ra).behindBar.within {}).run 0 t := by
  rcases run_append ⟨t, .inr rfl⟩ (Nat.zero_le _) ha with hrun | ⟨hx, -⟩
  · rw [hrun s hs, run_bar_cons (by exact hflags)]
  · rw [hflags] at hx
    exact absurd hx (by decide)

/-- So the branches of `a|b` are those of `a` and those of `b`. -/
theorem run_bar (ha : ({} : Reader).run 0 a = .ok ra) (hflags : ra.flags = {})
    (hb : ({} : Reader).run 0 b = .ok rb) (hnames : ra.behindBar.Apart rb) :
    ({} : Reader).run 0 (a ++ '|' :: b) = .ok (ra.behindBar.within rb) := by
  have halone := run_append_bar (s := {}) ha hflags (fun _ _ => List.not_mem_nil) b
  rw [Surroundings.within_nothing, Surroundings.within_nothing] at halone
  exact halone.trans (run_within hnames hb)

/-- The source `a|b` is not compiled if `a` and `b` have groups of the same name. -/
theorem apart_of_readExpr_anchored {e : Expr} (ha : ({} : Reader).run 0 a = .ok ra)
    (hflags : ra.flags = {}) (hb : ({} : Reader).run 0 b = .ok rb)
    (he : readExpr (anchoredSource (a ++ '|' :: b)) = .ok e) : ra.behindBar.Apart rb := by
  by_cases hnames : (caret.within ra).behindBar.Apart rb
  · intro name hname hmem
    exact hnames name hname (List.mem_append_left _ hmem)
  · have hclash : ({} : Reader).run 0 (anchoredSource (a ++ '|' :: b)) =
        .error .groupNameRepeated := by
      rw [run_anchoredSource, List.append_assoc, List.cons_append]
      refine (run_append_bar ha hflags (apart_caret ra) _).trans ?_
      exact run_within_clash (fun _ h => absurd h List.not_mem_nil) hnames (Nat.zero_le _) hb
    rw [readExpr, hclash] at he
    exact absurd he (by simp [Bind.bind, Except.bind])

/-! ## The choice between branches -/

/-- The parts that all branches begin with, where there is more than one branch. -/
def lifted (r : Reader) : List Expr :=
  if r.branches = [] then [] else Expr.sharedParts (r.alternatives.flatMap Expr.branches)

/-- Where the parts that are lifted out of the branches leave no choice, what is found is what the
first branch finds that finds anything. -/
theorem search_contents (hr : r.Tidy) (h : ∀ p ∈ r.lifted, p.fixed = true) (l : Place) :
    r.contents.expr.search l = r.alternatives.findSome? (·.search l) := by
  rw [contents_expr]
  unfold lifted at h
  split
  · next hone =>
    have halternatives : r.alternatives = [r.branch.expr] := by
      rw [alternatives, hone]
      rfl
    rw [halternatives, List.findSome?_cons]
    cases r.branch.expr.search l <;> rfl
  · next hmany =>
    rw [if_neg hmany] at h
    exact Expr.search_choice hr.alternatives h l

/-- The branches of `a|b` find what those of `a` find, or else what those of `b` find. -/
theorem findSome?_search_behindBar (hgroups : rb.groups = []) (l : Place) :
    (ra.behindBar.within rb).alternatives.findSome? (·.search l) =
      (ra.alternatives.findSome? (·.search l)).or (rb.alternatives.findSome? (·.search l)) := by
  have hfirst : ra.behindBar.branches.reverse.map Piece.expr = ra.alternatives := rfl
  rw [alternatives_within _ hgroups, hfirst, List.findSome?_append, List.findSome?_map]
  simp only [Function.comp_def, Expr.search_reindex]

end Reader

/-- The parts that all branches of a source begin with, where it has more than one branch. -/
def liftedParts (source : Text) : List Expr :=
  match ({} : Reader).run 0 source with
  | .ok r => r.lifted
  | .error _ => []

end Regex

namespace Pattern

open Regex

variable {source a b : Text} {p q r : Pattern} {s : Reader}

/-- A pattern matches what its source finds at the start of the text. -/
theorem match?_eq_search (hs : ({} : Reader).run 0 source = .ok s) (hgroups : s.groups = [])
    (hp : ofRegex source = .ok p) (t : Text) :
    p.match? t = (s.contents.expr.search (.start t)).map t.take := by
  obtain ⟨program, hcompile, rfl⟩ := ofRegex_eq_ok_iff.1 hp
  rw [compile] at hcompile
  cases he : readExpr (anchoredSource source) with
  | error e => simp [he, Bind.bind, Except.bind] at hcompile
  | ok e =>
    simp only [he, Bind.bind, Except.bind] at hcompile
    split at hcompile
    · obtain rfl := Except.ok.inj hcompile
      obtain rfl := Reader.readExpr_anchored hs hgroups he
      have htidy : s.contents.expr.Tidy := (Reader.tidy_empty.run hs).contents
      obtain ⟨hanchored, hsearch⟩ := Expr.search_caret htidy t
      rw [match?, Expr.matchEnd_eq_search hanchored, hsearch]
    · exact absurd hcompile (by simp)

/-- Where the parts that are lifted out of the branches of a source leave no choice, its pattern
matches what the first branch finds that finds anything. -/
theorem match?_eq_findSome? (hs : ({} : Reader).run 0 source = .ok s) (hgroups : s.groups = [])
    (hp : ofRegex source = .ok p) (hlifted : ∀ e ∈ liftedParts source, e.fixed = true) (t : Text) :
    p.match? t = (s.alternatives.findSome? (·.search (.start t))).map t.take := by
  rw [liftedParts, hs] at hlifted
  rw [match?_eq_search hs hgroups hp, Reader.search_contents (Reader.tidy_empty.run hs) hlifted]

/-- An alternation is an ordered choice. Where `a` and `b` are regular expressions that compile by
themselves and together, `a` changes no flags for what follows it, and parts that are lifted out of
branches leave no choice, `a|b` matches what `a` matches, or else what `b` matches. -/
theorem match?_bar (ha : ∃ e, readExpr a = .ok e) (hb : ∃ e, readExpr b = .ok e)
    (hp : ofRegex a = .ok p) (hq : ofRegex b = .ok q) (hr : ofRegex (a ++ '|' :: b) = .ok r)
    (hflags : ∀ s, ({} : Reader).run 0 a = .ok s → s.flags = {})
    (hlifted : ∀ source ∈ [a, b, a ++ '|' :: b], ∀ e ∈ liftedParts source, e.fixed = true)
    (t : Text) : r.match? t = (p.match? t).or (q.match? t) := by
  obtain ⟨ra, hra, hga, -⟩ := Reader.readExpr_eq_ok_iff.1 ha.choose_spec
  obtain ⟨rb, hrb, hgb, -⟩ := Reader.readExpr_eq_ok_iff.1 hb.choose_spec
  have hnames : ra.behindBar.Apart rb := by
    obtain ⟨program, hcompile, -⟩ := ofRegex_eq_ok_iff.1 hr
    rw [compile] at hcompile
    cases he : readExpr (anchoredSource (a ++ '|' :: b)) with
    | error e => simp [he, Bind.bind, Except.bind] at hcompile
    | ok e => exact Reader.apart_of_readExpr_anchored hra (hflags ra hra) hrb he
  have hrun := Reader.run_bar hra (hflags ra hra) hrb hnames
  have hgroups : (ra.behindBar.within rb).groups = [] := by
    rw [Surroundings.within, hgb]
    exact hga
  rw [match?_eq_findSome? hrun hgroups hr (hlifted _ (by simp)),
    match?_eq_findSome? hra hga hp (hlifted _ (by simp)),
    match?_eq_findSome? hrb hgb hq (hlifted _ (by simp)),
    Reader.findSome?_search_behindBar hgb, Option.map_or]

/-- What the pattern of a source matches, if the source has a pattern and that matches. -/
def matchSource? (source t : Text) : Option Text := (ofRegex source).toOption.bind (·.match? t)

/-- The match of a source that compiles is the match of its pattern. -/
theorem matchSource?_eq (hp : ofRegex source = .ok p) (t : Text) :
    matchSource? source t = p.match? t := by
  rw [matchSource?, hp]
  rfl

/-- A source with a match compiles. -/
theorem exists_of_matchSource? (source t m : Text) (h : matchSource? source t = some m) :
    ∃ p, ofRegex source = .ok p ∧ p.match? t = some m := by
  cases hp : ofRegex source with
  | error e => simp [matchSource?, hp, Except.toOption] at h
  | ok p => exact ⟨p, rfl, (matchSource?_eq hp t).symm.trans h⟩

/-- The first character is read once for both branches of `.x|.y*`. -/
theorem match?_bar_dot :
    (∀ source ∈ [['.', 'x'], ['.', 'y', '*'], ['.', 'x'] ++ '|' :: ['.', 'y', '*']],
      ∀ e ∈ liftedParts source, e.fixed = true) ∧
    ∃ r, ofRegex (['.', 'x'] ++ '|' :: ['.', 'y', '*']) = .ok r ∧
      r.match? ['z', 'x', 'y'] = some ['z', 'x'] ∧
      r.match? ['z', 'y', 'y'] = some ['z', 'y', 'y'] := by
  have hlifted : ∀ source ∈ [['.', 'x'], ['.', 'y', '*'], ['.', 'x'] ++ '|' :: ['.', 'y', '*']],
      ∀ e ∈ liftedParts source, e.fixed = true := by decide +kernel
  have hflags : ∀ s, ({} : Reader).run 0 ['.', 'x'] = .ok s → s.flags = {} := by
    intro s hs
    obtain rfl := Except.ok.inj hs
    rfl
  obtain ⟨p, hp, -⟩ := exists_of_matchSource? ['.', 'x'] ['z', 'x'] ['z', 'x'] (by decide +kernel)
  obtain ⟨q, hq, -⟩ := exists_of_matchSource? ['.', 'y', '*']
    ['z', 'y'] ['z', 'y'] (by decide +kernel)
  obtain ⟨r, hr, -⟩ := exists_of_matchSource? (['.', 'x'] ++ '|' :: ['.', 'y', '*'])
    ['z', 'x'] ['z', 'x'] (by decide +kernel)
  have hmatch (t : Text) : r.match? t =
      (matchSource? ['.', 'x'] t).or (matchSource? ['.', 'y', '*'] t) := by
    rw [matchSource?_eq hp, matchSource?_eq hq]
    exact match?_bar ⟨_, rfl⟩ ⟨_, rfl⟩ hp hq hr hflags hlifted t
  refine ⟨hlifted, r, hr, ?_, ?_⟩
  · rw [hmatch]
    decide +kernel
  · rw [hmatch]
    decide +kernel

/-- Both branches of `x*x|x*y` begin with `x*`, which is read once for both of them. It takes all
that it can, so that the second branch matches where the first one would have matched less. -/
theorem match?_bar_of_shared_part :
    ∃ p q r, (∃ e, readExpr ['x', '*', 'x'] = .ok e) ∧ (∃ e, readExpr ['x', '*', 'y'] = .ok e) ∧
      ofRegex ['x', '*', 'x'] = .ok p ∧ ofRegex ['x', '*', 'y'] = .ok q ∧
      ofRegex (['x', '*', 'x'] ++ '|' :: ['x', '*', 'y']) = .ok r ∧
      (∀ s, ({} : Reader).run 0 ['x', '*', 'x'] = .ok s → s.flags = {}) ∧
      p.match? ['x', 'y'] = some ['x'] ∧ r.match? ['x', 'y'] = some ['x', 'y'] := by
  have hflags : ∀ s, ({} : Reader).run 0 ['x', '*', 'x'] = .ok s → s.flags = {} := by
    intro s hs
    obtain rfl := Except.ok.inj hs
    rfl
  obtain ⟨p, hp, hmatch⟩ := exists_of_matchSource? ['x', '*', 'x']
    ['x', 'y'] ['x'] (by decide +kernel)
  obtain ⟨q, hq, -⟩ := exists_of_matchSource? ['x', '*', 'y']
    ['x', 'y'] ['x', 'y'] (by decide +kernel)
  obtain ⟨r, hr, hmatch'⟩ := exists_of_matchSource? (['x', '*', 'x'] ++ '|' :: ['x', '*', 'y'])
    ['x', 'y'] ['x', 'y'] (by decide +kernel)
  exact ⟨p, q, r, ⟨_, rfl⟩, ⟨_, rfl⟩, hp, hq, hr, hflags, hmatch, hmatch'⟩

end Pattern

end ModalLexer
