import ModalLexer.Proofs.Regex.Alternation
import ModalLexer.Proofs.Regex.Reading.Failure
import ModalLexer.Proofs.Regex.Span

/-!
# Sources that are patterns

A source that closes no group that it has not opened, and that does not end in a comment, is a
pattern if and only if it is a regular expression by itself, as far as its size admits. What the
pattern matches is then a match of that expression from the start of the text
(`Pattern.anchors_source`). A source that closes the group around it escapes from it
(`Pattern.match?_of_closed_group`), and one that ends in a comment leaves it open
(`Pattern.ofRegex_of_comment`).
-/

namespace ModalLexer

namespace Regex

namespace Reader

variable {r w : Reader} {source : Text}

/-- Where the source that is compiled is read with all its groups closed, the source is read alone,
unless it closes a group that it has not opened. -/
theorem exists_of_run_anchored (hw : ({} : Reader).run 0 (anchoredSource source) = .ok w)
    (hgroups : w.groups = []) (hunopened : ({} : Reader).run 0 source ≠ .error .groupUnopened) :
    ∃ r, ({} : Reader).run 0 source = .ok r ∧ r.groups = [] ∧ w = r.closed := by
  cases hrun : ({} : Reader).run 0 source with
  | error e =>
    rw [run_anchoredSource] at hw
    have hopen : w.groups ≠ [] := groups_ne_nil_of_error (s := caret) rfl
      (groups_caret_ne_nil {}) (Nat.zero_le _) hrun (fun he => hunopened (by rw [hrun, he])) hw
    exact absurd hgroups hopen
  | ok r =>
    rcases run_anchored hrun with hclose | ⟨-, hopen⟩
    · cases hgs : r.groups with
      | nil =>
        rw [hclose, closeGroup_caret hgs] at hw
        exact ⟨r, rfl, hgs, (Except.ok.inj hw).symm⟩
      | cons g gs =>
        have haround : (caret.within r).groups = caret.around (g :: gs) := congrArg caret.around hgs
        rw [hclose, closeGroup, haround, Surroundings.around] at hw
        obtain rfl := Except.ok.inj hw
        exact absurd hgroups (groups_caret_ne_nil { groups := gs })
    · obtain rfl := Except.ok.inj (hw.symm.trans hopen)
      exact absurd hgroups (groups_caret_ne_nil r)

/-- The group around a source and the sequence that it stands in are two more levels. -/
theorem depth_closed (r : Reader) : r.closed.contents.depth = r.contents.depth + 2 := by
  simp [contents, branch, closed]

/-- The source that is compiled is read if and only if the source is read by itself. -/
theorem readExpr_anchored_iff (hunopened : readExpr source ≠ .error .groupUnopened)
    (hcomment : ∀ r, ({} : Reader).run 0 source = .ok r →
      ({} : Reader).run 0 (source ++ [')']) ≠ .ok r)
    (hdepth : readExpr (anchoredSource source) ≠ .error .tooDeep) :
    (∃ e, readExpr (anchoredSource source) = .ok e) ↔ ∃ e, readExpr source = .ok e := by
  constructor
  · rintro ⟨e, he⟩
    obtain ⟨w, hw, hgroups, hlevels, -⟩ := readExpr_eq_ok_iff.1 he
    have hrun : ({} : Reader).run 0 source ≠ .error .groupUnopened := fun h =>
      hunopened (by rw [readExpr, h]; rfl)
    obtain ⟨r, hr, hgroups', rfl⟩ := exists_of_run_anchored hw hgroups hrun
    rw [depth_closed] at hlevels
    exact ⟨_, readExpr_eq_ok_iff.2 ⟨r, hr, hgroups', by omega, rfl⟩⟩
  · rintro ⟨e, he⟩
    obtain ⟨r, hr, hgroups, -, -⟩ := readExpr_eq_ok_iff.1 he
    rcases run_anchored hr with hrun | ⟨hends, -⟩
    · rw [closeGroup_caret hgroups] at hrun
      by_cases hlevels : r.closed.contents.depth ≤ maxDepth
      · exact ⟨_, readExpr_eq_ok_iff.2 ⟨r.closed, hrun, rfl, hlevels, rfl⟩⟩
      · refine absurd ?_ hdepth
        rw [readExpr, hrun]
        exact if_pos (Nat.not_le.1 hlevels)
    · exact absurd hends (hcomment r hr)

end Reader

end Regex

namespace Pattern

open Regex

variable {source : Text} {p : Pattern}

/-- A pattern can be made of a source exactly if the anchored source compiles. -/
theorem exists_ofRegex_iff : (∃ p, ofRegex source = .ok p) ↔
    ∃ program, compile (anchoredSource source) = .ok program := by
  constructor
  · rintro ⟨p, hp⟩
    obtain ⟨program, hcompile, -⟩ := ofRegex_eq_ok_iff.1 hp
    exact ⟨program, hcompile⟩
  · rintro ⟨program, hcompile⟩
    exact ⟨_, ofRegex_eq_ok_iff.2 ⟨program, hcompile, rfl⟩⟩

/-- A source that closes no group that it has not opened, and that does not end in a comment, is a
pattern if and only if it is a regular expression by itself, as far as its size admits. What the
pattern matches is then the text of a match of that expression from the start of the text. -/
theorem anchors_source (hunopened : readExpr source ≠ .error .groupUnopened)
    (hcomment : ∀ r, ({} : Reader).run 0 source = .ok r →
      ({} : Reader).run 0 (source ++ [')']) ≠ .ok r)
    (hdepth : compile (anchoredSource source) ≠ .error .tooDeep)
    (hsize : compile (anchoredSource source) ≠ .error .tooLarge) :
    ((∃ p, ofRegex source = .ok p) ↔ ∃ e, readExpr source = .ok e) ∧
      ∀ p, ofRegex source = .ok p → ∃ e, readExpr source = .ok e ∧
        ∀ t m, p.match? t = some m → ∃ l, e.Spans (.start t) l ∧ t = m ++ l.rest := by
  have hread : readExpr (anchoredSource source) ≠ .error .tooDeep := fun h =>
    hdepth (by rw [compile, h]; rfl)
  have hcompile : (∃ program, compile (anchoredSource source) = .ok program) ↔
      ∃ e, readExpr (anchoredSource source) = .ok e := by
    rw [compile] at hsize ⊢
    cases he : readExpr (anchoredSource source) with
    | error e => simp [Bind.bind, Except.bind]
    | ok e =>
      simp only [he, Bind.bind, Except.bind] at hsize ⊢
      split at hsize
      · next hfits => simp [hfits]
      · exact absurd rfl hsize
  have hiff := (exists_ofRegex_iff.trans hcompile).trans
    (Reader.readExpr_anchored_iff hunopened hcomment hread)
  refine ⟨hiff, fun p hp => ?_⟩
  obtain ⟨e, he⟩ := hiff.1 ⟨p, hp⟩
  refine ⟨e, he, fun t m hm => ?_⟩
  obtain ⟨r, hr, hgroups, -, rfl⟩ := Reader.readExpr_eq_ok_iff.1 he
  rw [match?_eq_search hr hgroups hp] at hm
  obtain ⟨k, hk, rfl⟩ := Option.map_eq_some_iff.1 hm
  obtain ⟨l, hspans, rfl⟩ := Expr.exists_spans_of_search hk
  obtain ⟨w, hw, hindex⟩ := hspans.leads
  have hrest : t = w ++ l.rest := hw
  have hlength : l.index = w.length := hindex.trans (Nat.zero_add _)
  refine ⟨l, hspans, ?_⟩
  rw [hlength, hrest, List.take_left]

/-- The branches of `a|b` are matched where the text starts. -/
theorem anchors_source_bar :
    readExpr ['a', '|', 'b'] ≠ .error .groupUnopened ∧
      (∀ r, ({} : Reader).run 0 ['a', '|', 'b'] = .ok r →
        ({} : Reader).run 0 (['a', '|', 'b'] ++ [')']) ≠ .ok r) ∧
      compile (anchoredSource ['a', '|', 'b']) ≠ .error .tooDeep ∧
      compile (anchoredSource ['a', '|', 'b']) ≠ .error .tooLarge ∧
      ∃ p e l, ofRegex ['a', '|', 'b'] = .ok p ∧ p.match? ['b', 'a'] = some ['b'] ∧
        readExpr ['a', '|', 'b'] = .ok e ∧ e.Spans (.start ['b', 'a']) l ∧ l.rest = ['a'] := by
  obtain ⟨e, he⟩ : ∃ e, readExpr ['a', '|', 'b'] = .ok e := ⟨_, rfl⟩
  obtain ⟨p, hp, hmatch⟩ := exists_of_matchSource? ['a', '|', 'b'] ['b', 'a'] ['b']
    (by decide +kernel)
  obtain ⟨program, hcompile⟩ := exists_ofRegex_iff.1 ⟨p, hp⟩
  have hunopened : readExpr ['a', '|', 'b'] ≠ .error .groupUnopened := by simp [he]
  have hparen : ({} : Reader).run 0 (['a', '|', 'b'] ++ [')']) = .error .groupUnopened := rfl
  have hcomment : ∀ r, ({} : Reader).run 0 ['a', '|', 'b'] = .ok r →
      ({} : Reader).run 0 (['a', '|', 'b'] ++ [')']) ≠ .ok r :=
    fun _ _ h => absurd (hparen.symm.trans h) (by simp)
  have hdepth : compile (anchoredSource ['a', '|', 'b']) ≠ .error .tooDeep := by simp [hcompile]
  have hsize : compile (anchoredSource ['a', '|', 'b']) ≠ .error .tooLarge := by simp [hcompile]
  obtain ⟨-, hspans⟩ := anchors_source hunopened hcomment hdepth hsize
  obtain ⟨e', he', hspans⟩ := hspans p hp
  obtain ⟨l, hl, hrest⟩ := hspans _ _ hmatch
  exact ⟨hunopened, hcomment, hdepth, hsize, p, e', l, hp, hmatch, he', hl,
    (List.cons.inj hrest).2.symm⟩

/-- The source `a)|(?:b` closes the group around it and opens another one. It is a pattern, although
it is no regular expression by itself, and on `xb` the text in front of the match counts as matched.
-/
theorem match?_of_closed_group :
    readExpr ['a', ')', '|', '(', '?', ':', 'b'] = .error .groupUnopened ∧
      ∃ p, ofRegex ['a', ')', '|', '(', '?', ':', 'b'] = .ok p ∧
        p.match? ['x', 'b'] = some ['x', 'b'] :=
  ⟨rfl, exists_of_matchSource? _ _ _ (by decide +kernel)⟩

/-- The source `(?x)a # b` ends in a comment. It is no pattern, although it is a regular expression
by itself: the comment takes in the parenthesis that closes the group around it. -/
theorem ofRegex_of_comment :
    (∃ e, readExpr ['(', '?', 'x', ')', 'a', ' ', '#', ' ', 'b'] = .ok e) ∧
      ¬∃ p, ofRegex ['(', '?', 'x', ')', 'a', ' ', '#', ' ', 'b'] = .ok p := by
  refine ⟨⟨_, rfl⟩, fun h => ?_⟩
  obtain ⟨program, hcompile⟩ := exists_ofRegex_iff.1 h
  have hopen : compile (anchoredSource ['(', '?', 'x', ')', 'a', ' ', '#', ' ', 'b']) =
      .error .groupUnclosed := rfl
  exact absurd (hopen.symm.trans hcompile) (by simp)

end Pattern

end ModalLexer
