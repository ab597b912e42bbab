import ModalLexer.Proofs.Regex.Tidy

/-!
# A source within another one

A source may be read behind another one or in a group of its own, where more groups have been opened
before. The reader is then in the state that it would be in over the source alone, with what stands
around it kept in its place and the groups of the source counted from a later index on
(`Reader.act_within`). Nothing but the name of a group can clash (`groupNameRepeated`).
-/

namespace ModalLexer.Regex

/-! ## Indices -/

namespace Expr

variable {k : Nat}

/-- An expression with its groups counted from `k` on. -/
@[simp] def reindex (k : Nat) : Expr → Expr
  | empty => empty
  | literal c cs => literal c cs
  | set a s => set a s
  | assertion a => assertion a
  | cat e f => cat (e.reindex k) (f.reindex k)
  | alt e f => alt (e.reindex k) (f.reindex k)
  | rounds b greedy e => rounds b greedy (e.reindex k)
  | group i e => group (i + k) (e.reindex k)

/-- Counting from zero on changes nothing. -/
@[simp] theorem reindex_zero (e : Expr) : e.reindex 0 = e := by
  induction e <;> simp_all [reindex]

/-- Expressions that are the same with their groups counted anew are the same. -/
theorem reindex_injective {e f : Expr} (h : e.reindex k = f.reindex k) : e = f := by
  induction e generalizing f with
  | empty => cases f <;> simp_all [reindex]
  | literal c cs => cases f <;> simp_all [reindex]
  | set a s => cases f <;> simp_all [reindex]
  | assertion a => cases f <;> simp_all [reindex]
  | cat e₁ e₂ ih₁ ih₂ =>
    cases f <;> simp only [reindex, cat.injEq, reduceCtorEq] at h
    rw [ih₁ h.1, ih₂ h.2]
  | alt e₁ e₂ ih₁ ih₂ =>
    cases f <;> simp only [reindex, alt.injEq, reduceCtorEq] at h
    rw [ih₁ h.1, ih₂ h.2]
  | rounds b greedy e ih =>
    cases f <;> simp only [reindex, rounds.injEq, reduceCtorEq] at h
    rw [h.1, h.2.1, ih h.2.2]
  | group i e ih =>
    cases f <;> simp only [reindex, group.injEq, reduceCtorEq] at h
    rw [ih h.2, Nat.add_right_cancel h.1]

/-- So counting anew neither joins expressions nor splits them. -/
@[simp] theorem reindex_eq_iff {e f : Expr} : e.reindex k = f.reindex k ↔ e = f :=
  ⟨reindex_injective, congrArg _⟩

/-- The parts of a sequence are counted anew one by one. -/
theorem parts_reindex (e : Expr) : (e.reindex k).parts = e.parts.map (reindex k) := by
  induction e with
  | cat e f ihe ihf => rw [reindex, parts, parts, List.map_append, ihe, ihf]
  | _ => rfl

/-- The branches of a choice are counted anew one by one. -/
theorem branches_reindex (e : Expr) : (e.reindex k).branches = e.branches.map (reindex k) := by
  induction e with
  | alt e f ihe ihf => rw [reindex, branches, branches, List.map_append, ihe, ihf]
  | _ => rfl

/-- Literals side by side are joined under any count. -/
theorem joinLiterals_reindex (es : List Expr) :
    joinLiterals (es.map (reindex k)) = (joinLiterals es).map (reindex k) := by
  fun_induction joinLiterals es with
  | case1 => rfl
  | case2 c cs es d ds fs hjoin ih =>
    rw [List.map_cons, reindex, joinLiterals, ih, hjoin]
    rfl
  | case3 c cs es hjoin ih =>
    rw [List.map_cons, reindex, joinLiterals, ih]
    split
    · next d ds fs hmap =>
      obtain ⟨g, gs, hgs, hg, -⟩ := List.map_eq_cons_iff.1 hmap
      obtain rfl : g = literal d ds := by
        cases g <;> simp_all [reindex]
      exact absurd hgs (hjoin d ds gs)
    · rfl
  | case4 e es hne ih =>
    rw [List.map_cons, joinLiterals, ih, List.map_cons]
    intro c cs h
    cases e <;> simp_all [reindex]

/-- A sequence is made of its parts under any count. -/
theorem ofParts_reindex (es : List Expr) :
    ofParts (es.map (reindex k)) = (ofParts es).reindex k := by
  fun_induction ofParts es with
  | case1 => rfl
  | case2 e => rfl
  | case3 e es hne ih =>
    rw [List.map_cons, ofParts_cons (by simpa using hne), ih]
    rfl

/-- A choice is made of its branches under any count. -/
theorem ofBranches_reindex (es : List Expr) :
    ofBranches (es.map (reindex k)) = (ofBranches es).reindex k := by
  fun_induction ofBranches es with
  | case1 => rfl
  | case2 e => rfl
  | case3 e es hne ih =>
    rw [List.map_cons, ofBranches, ih, reindex]
    simpa using hne

/-- The parts of several sequences are counted anew one by one. -/
theorem flatMap_parts_reindex (es : List Expr) :
    (es.map (reindex k)).flatMap parts = (es.flatMap parts).map (reindex k) := by
  simp only [List.flatMap_map, List.map_flatMap, parts_reindex]

/-- The branches of several choices are counted anew one by one. -/
theorem flatMap_branches_reindex (es : List Expr) :
    (es.map (reindex k)).flatMap branches = (es.flatMap branches).map (reindex k) := by
  simp only [List.flatMap_map, List.map_flatMap, branches_reindex]

/-- A sequence is flattened and joined under any count. -/
theorem sequence_reindex (es : List Expr) :
    sequence (es.map (reindex k)) = (sequence es).reindex k := by
  rw [sequence, flatMap_parts_reindex, joinLiterals_reindex, ofParts_reindex, sequence]

/-- A character alone has no groups to count. -/
theorem char?_reindex (e : Expr) : (e.reindex k).char? = e.char? := by
  cases e <;> rfl

/-- A set alone has no groups to count. -/
theorem set?_reindex (e : Expr) : (e.reindex k).set? = e.set? := by
  cases e <;> rfl

/-- The expression of a set has no groups to count, be it a set or a literal. -/
theorem ofSet_reindex (a : Alphabet) (s : CharSet) : (ofSet a s).reindex k = ofSet a s := by
  unfold ofSet
  split
  · rfl
  · split <;> rfl
  · rfl

/-- A flat choice is one set, or is not, under any count. -/
theorem flatChoice_reindex (bs : List Expr) :
    flatChoice (bs.map (reindex k)) = (flatChoice bs).reindex k := by
  have hmapM (g : Expr → Option CharSet) (hg : ∀ e, g (e.reindex k) = g e) (bs : List Expr) :
      (bs.map (reindex k)).mapM g = bs.mapM g := by
    rw [List.mapM_map]
    exact congrArg (List.mapM · bs) (funext hg)
  by_cases hone : ∃ e, bs = [e]
  · obtain ⟨e, rfl⟩ := hone
    rfl
  · have hone' : ∀ e, bs ≠ [e] := fun e he => hone ⟨e, he⟩
    rw [flatChoice, flatChoice, hmapM char? char?_reindex, hmapM set? set?_reindex]
    · split
      · exact (ofSet_reindex _ _).symm
      · exact (ofSet_reindex _ _).symm
      · exact ofBranches_reindex bs
    · exact hone'
    · intro e he
      obtain ⟨b, bs', hbs, -, hnil⟩ := List.map_eq_cons_iff.1 he
      exact hone' b (by rw [hbs, List.map_eq_nil_iff.1 hnil])

/-- Two sequences differ in the same places under any count, so they begin with the same parts. -/
theorem commonParts_reindex (ps qs : List Expr) :
    commonParts (ps.map (reindex k)) (qs.map (reindex k)) =
      (commonParts ps qs).map (reindex k) := by
  fun_induction commonParts ps qs with
  | case1 ps q qs ih => simp [commonParts, ih]
  | case2 p ps q qs hne => simp [commonParts, hne]
  | case3 ps qs hne =>
    cases ps with
    | nil => simp [commonParts]
    | cons p ps =>
      cases qs with
      | nil => simp [commonParts]
      | cons q qs => exact absurd rfl (hne p ps q qs rfl)

/-- Several sequences begin with the same parts under any count. -/
theorem foldl_commonParts_reindex (ps : List Expr) (qss : List (List Expr)) :
    (qss.map (·.map (reindex k))).foldl commonParts (ps.map (reindex k)) =
      (qss.foldl commonParts ps).map (reindex k) := by
  induction qss generalizing ps with
  | nil => rfl
  | cons qs qss ih => rw [List.map_cons, List.foldl_cons, commonParts_reindex, ih, List.foldl_cons]

/-- The parts that all branches of a choice begin with are counted anew one by one. -/
theorem sharedParts_reindex (bs : List Expr) :
    sharedParts (bs.map (reindex k)) = (sharedParts bs).map (reindex k) := by
  have hmap : (bs.map (reindex k)).map parts = (bs.map parts).map (·.map (reindex k)) := by
    simp only [List.map_map, Function.comp_def, parts_reindex]
  unfold sharedParts
  rw [hmap]
  match bs.map parts with
  | [] => rfl
  | [ps] => rfl
  | ps :: qs :: qss =>
    have hall : ((ps :: qs :: qss).map (·.map (reindex k))).all (2 ≤ ·.length) =
        (ps :: qs :: qss).all (2 ≤ ·.length) := by
      simp [List.all_map, Function.comp_def]
    simp only [List.map_cons] at hall ⊢
    rw [hall, ← List.map_cons, foldl_commonParts_reindex]
    split <;> rfl

/-- What the branches leave behind these parts is counted anew as well. -/
theorem rests_reindex (bs : List Expr) :
    rests (bs.map (reindex k)) = (rests bs).map (reindex k) := by
  rw [rests, sharedParts_reindex, List.map_map, rests, List.map_map]
  refine List.map_congr_left fun b _ => ?_
  simp only [Function.comp_apply, parts_reindex, List.length_map, ← List.map_drop, ofParts_reindex]

/-- A choice takes its shared parts to the front under any count. -/
theorem choice_reindex (es : List Expr) : choice (es.map (reindex k)) = (choice es).reindex k := by
  have hshared : sharedParts ((es.map (reindex k)).flatMap branches) =
      (sharedParts (es.flatMap branches)).map (reindex k) := by
    rw [flatMap_branches_reindex, sharedParts_reindex]
  by_cases hnil : sharedParts (es.flatMap branches) = []
  · rw [choice_of_eq_nil hnil, choice_of_eq_nil (by rw [hshared, hnil]; rfl),
      flatMap_branches_reindex, flatChoice_reindex]
  · rw [choice_of_ne_nil hnil, choice_of_ne_nil (by rw [hshared]; simpa using hnil), hshared,
      flatMap_branches_reindex, rests_reindex, flatMap_branches_reindex, flatChoice_reindex,
      ← sequence_reindex, List.map_append]
    rfl

/-- The count does not decide whether the empty text can be matched. -/
theorem nullable_reindex (e : Expr) : (e.reindex k).nullable = e.nullable := by
  induction e <;> simp_all [reindex, nullable]

/-- The count does not decide whether anything else can be matched. -/
theorem consumesNothing_reindex (e : Expr) :
    (e.reindex k).consumesNothing = e.consumesNothing := by
  induction e <;> simp_all [reindex, consumesNothing]

/-- A repetition has the same bounds under any count. -/
theorem repetition_reindex (b : Bounds) (greedy : Bool) (e : Expr) :
    repetition b greedy (e.reindex k) = (repetition b greedy e).reindex k := by
  unfold repetition
  rw [consumesNothing_reindex]
  extract_lets
  split
  · rfl
  · split <;> rfl

/-- The size does not depend on the count. -/
theorem size_reindex (e : Expr) : (e.reindex k).size = e.size := by
  induction e with
  | cat e f ihe ihf => rw [reindex, size, size, ihe, ihf]
  | alt e f ihe ihf => rw [reindex, size, size, ihe, ihf]
  | rounds b greedy e ih =>
    match b with
    | ⟨0, none⟩ => rw [reindex, size, size, nullable_reindex, ih]
    | ⟨n + 1, none⟩ => rw [reindex, size, size, ih]
    | ⟨n, some m⟩ => simp only [reindex, size, ih]
  | group i e ih => rw [reindex, size, size, ih]
  | _ => rfl

/-- The index of a group is not part of the code. -/
theorem code_reindex (e : Expr) : (e.reindex k).code = e.code := by
  induction e with
  | cat e f ihe ihf =>
    funext start next
    rw [reindex, code, code, ihe, ihf, size_reindex]
  | alt e f ihe ihf =>
    funext start next
    rw [reindex, code, code, ihe, ihf, size_reindex]
  | rounds b greedy e ih =>
    funext start next
    match b with
    | ⟨0, none⟩ => rw [reindex, code, code, nullable_reindex, ih, size_reindex]
    | ⟨n + 1, none⟩ => rw [reindex, code, code, ih, size_reindex]
    | ⟨n, some m⟩ => simp only [reindex, code, ih, size_reindex]
  | group i e ih =>
    funext start next
    rw [reindex, code, code, ih]
  | _ => rfl

end Expr

/-! ## Surroundings -/

/-- A piece with its groups counted from `k` on. -/
def Piece.reindex (k : Nat) (p : Piece) : Piece := { p with expr := p.expr.reindex k }

/-- What stands around a source: the branches before it in its group, the groups around it, and the
names and the number of the groups that capture before it. -/
structure Surroundings where
  branches : List Piece := []
  groups : List OpenGroup := []
  names : List Text := []
  captures : Nat := 0

namespace Surroundings

variable (s : Surroundings)

/-- Branches of the source, with their groups counted on. -/
def pieces (ps : List Piece) : List Piece := ps.map (Piece.reindex s.captures)

/-- Items of the source, with their groups counted on. -/
def items (is : List (Option Piece)) : List (Option Piece) :=
  is.map (Option.map (Piece.reindex s.captures))

/-- The branches before those of the source where `gs` are the groups that it has opened: none, once
it has opened a group. -/
def before : List OpenGroup → List Piece
  | [] => s.branches
  | _ => []

/-- The groups that are open inside the source, and those around it. -/
def around : List OpenGroup → List OpenGroup
  | [] => s.groups
  | g :: gs =>
    { index := g.index.map (· + s.captures), flags := g.flags,
      branches := s.pieces g.branches ++ s.before gs, items := s.items g.items } :: around gs

/-- The state of reading the source in its place, where `r` is that of reading the source alone. -/
def within (r : Reader) : Reader where
  flags := r.flags
  branches := s.pieces r.branches ++ s.before r.groups
  items := s.items r.items
  groups := s.around r.groups
  names := r.names ++ s.names
  captures := r.captures + s.captures

/-- With nothing around it, a source is read alone. -/
theorem within_nothing (r : Reader) : ({} : Surroundings).within r = r := by
  have hpiece : Piece.reindex 0 = id := by
    funext p
    exact congrArg (Piece.mk · p.depth) (Expr.reindex_zero _)
  have hpieces (ps : List Piece) : ({} : Surroundings).pieces ps = ps := by
    rw [pieces, hpiece, List.map_id]
  have hitems (is : List (Option Piece)) : ({} : Surroundings).items is = is := by
    rw [items, hpiece, Option.map_id, List.map_id]
  have hbefore (gs : List OpenGroup) : ({} : Surroundings).before gs = [] := by
    cases gs <;> rfl
  have haround (gs : List OpenGroup) : ({} : Surroundings).around gs = gs := by
    induction gs with
    | nil => rfl
    | cons g gs ih => simp [around, hpieces, hitems, hbefore, ih]
  simp [within, hpieces, hitems, hbefore, haround]

/-- No group of the source has the name of a group before it. -/
def Apart (r : Reader) : Prop := ∀ name ∈ r.names, name ∉ s.names

end Surroundings

namespace Reader

variable {r r' : Reader} (s : Surroundings)

/-- Pieces in their place are as deep as before. -/
theorem foldl_depth_pieces (ps : List Piece) (n : Nat) :
    (s.pieces ps).foldl (fun d p => max d p.depth) n = ps.foldl (fun d p => max d p.depth) n := by
  rw [Surroundings.pieces, List.foldl_map]
  rfl

/-- Their expressions have their groups counted from a later index on. -/
theorem map_expr_pieces (ps : List Piece) :
    (s.pieces ps).map Piece.expr = (ps.map Piece.expr).map (Expr.reindex s.captures) := by
  rw [Surroundings.pieces, List.map_map, List.map_map]
  rfl

/-- Pieces are put in their place one by one. -/
theorem pieces_cons (p : Piece) (ps : List Piece) :
    s.pieces (p :: ps) = p.reindex s.captures :: s.pieces ps := rfl

/-- The order of pieces is kept in their place. -/
theorem pieces_reverse (ps : List Piece) : s.pieces ps.reverse = (s.pieces ps).reverse :=
  List.map_reverse

/-- The current branch is, in its place, the one read alone, with its groups counted from a later
index on. -/
theorem branch_within (r : Reader) : (s.within r).branch = r.branch.reindex s.captures := by
  have hpieces : (s.items r.items).reverse.filterMap id =
      s.pieces (r.items.reverse.filterMap id) := by
    rw [Surroundings.items, ← List.map_reverse, List.filterMap_map, Surroundings.pieces,
      List.map_filterMap]
    rfl
  have hlength : (s.items r.items).length = r.items.length := List.length_map _
  simp only [branch, Surroundings.within, hpieces, map_expr_pieces, Expr.sequence_reindex,
    foldl_depth_pieces, hlength, Piece.reindex]

/-- The branches of the source stand behind those before it. -/
theorem alternatives_within (h : r.groups = []) :
    (s.within r).alternatives =
      (s.branches.reverse.map Piece.expr) ++ r.alternatives.map (Expr.reindex s.captures) := by
  have hbranches : (s.within r).branch :: (s.within r).branches =
      s.pieces (r.branch :: r.branches) ++ s.branches := by
    rw [branch_within, Surroundings.within, h]
    rfl
  rw [alternatives, hbranches, List.reverse_append, List.map_append, ← pieces_reverse,
    map_expr_pieces, alternatives]

/-- The contents of the innermost group are those read alone, if nothing stands before them
there. -/
theorem contents_within (h : s.before r.groups = []) :
    (s.within r).contents = r.contents.reindex s.captures := by
  have hbranches : (s.within r).branches = s.pieces r.branches := by
    rw [Surroundings.within, h, List.append_nil]
  unfold contents
  rw [hbranches, branch_within]
  cases r.branches with
  | nil => rfl
  | cons p ps =>
    rw [pieces_cons]
    dsimp only
    rw [← pieces_cons, ← pieces_cons, ← pieces_reverse, map_expr_pieces, Expr.choice_reindex,
      foldl_depth_pieces]
    rfl

/-- An item by itself has no groups to count. -/
theorem reindex_of_atom {f : Flags} {a : Atom} {e : Expr} (h : f.atom a = .ok e) (k : Nat) :
    e.reindex k = e := by
  cases a with
  | char c =>
    obtain rfl := Except.ok.inj h
    unfold Flags.char
    split
    · exact Expr.ofSet_reindex _ _
    · rfl
  | set s =>
    change f.oneOf s = .ok e at h
    unfold Flags.oneOf at h
    cases hallow : f.allow s with
    | error e => simp [hallow, Bind.bind, Except.bind] at h
    | ok s =>
      rw [hallow] at h
      obtain rfl := Except.ok.inj h
      exact Expr.ofSet_reindex _ _
  | assertion a =>
    obtain rfl := Except.ok.inj h
    rfl

/-- What an element asks for is done in the same way, unless it takes a name that is taken. -/
theorem act_within {a : Action} (hr : s.Apart r) (h : r.act a = .ok r') :
    s.Apart r' ∧ (s.within r).act a = .ok (s.within r') ∨
      ¬s.Apart r' ∧ (s.within r).act a = .error .groupNameRepeated := by
  cases a with
  | skip =>
    obtain rfl := Except.ok.inj h
    exact .inl ⟨hr, rfl⟩
  | push a depth =>
    cases hatom : r.flags.atom a with
    | error e => simp [act, hatom, Bind.bind, Except.bind] at h
    | ok e =>
      simp only [act, hatom, Bind.bind, Except.bind] at h
      obtain rfl := Except.ok.inj h
      refine .inl ⟨hr, ?_⟩
      have hpush : (s.within r).push e depth = s.within (r.push e depth) := by
        simp only [Reader.push, Surroundings.within, Surroundings.items, List.map_cons,
          Option.map_some, Piece.reindex, reindex_of_atom hatom]
      rw [← hpush]
      simp only [act, Surroundings.within, hatom, Bind.bind, Except.bind]
  | endBranch =>
    obtain rfl := Except.ok.inj h
    refine .inl ⟨hr, ?_⟩
    simp only [act, endBranch, branch_within]
    rfl
  | openGroup inner =>
    obtain rfl := Except.ok.inj h
    exact .inl ⟨hr, rfl⟩
  | openCapture =>
    obtain rfl := Except.ok.inj h
    refine .inl ⟨hr, ?_⟩
    simp only [act, openCapture, Surroundings.within, Reader.openGroup, Nat.add_right_comm]
    rfl
  | openNamed name =>
    simp only [act] at h
    split at h
    · exact absurd h (by simp)
    · next hown =>
      obtain rfl := Except.ok.inj h
      have hown : name ∉ r.names := by simpa using hown
      have hnames : (s.within r).names = r.names ++ s.names := rfl
      by_cases hname : name ∈ s.names
      · refine .inr ⟨fun hr' => hr' name List.mem_cons_self hname, if_pos ?_⟩
        simp [hnames, hname]
      · have hfree : ¬(s.within r).names.contains name = true := by simp [hnames, hname, hown]
        refine .inl ⟨List.forall_mem_cons.2 ⟨hname, hr⟩, ?_⟩
        simp only [act, if_neg hfree]
        simp only [openCapture, Surroundings.within, Reader.openGroup, Nat.add_right_comm]
        rfl
  | setFlags f =>
    obtain rfl := Except.ok.inj h
    exact .inl ⟨hr, rfl⟩
  | closeGroup =>
    simp only [act, closeGroup] at h
    split at h
    · exact absurd h (by simp)
    · next g gs hgroups =>
      obtain rfl := Except.ok.inj h
      refine .inl ⟨hr, ?_⟩
      have hcontents := contents_within s (r := r) (by rw [hgroups]; rfl)
      have haround : (s.within r).groups = s.around (g :: gs) := congrArg s.around hgroups
      simp only [act, closeGroup, haround, Surroundings.around, hcontents]
      cases g.index <;> rfl
  | repeatLast b lazy =>
    simp only [act, repeatLast] at h
    split at h
    · next p items hitems =>
      obtain rfl := Except.ok.inj h
      refine .inl ⟨hr, ?_⟩
      have hwithin : (s.within r).items = some (p.reindex s.captures) :: s.items items := by
        rw [Surroundings.within, hitems]
        rfl
      simp only [act, repeatLast, hwithin, Piece.reindex, Expr.repetition_reindex]
      rfl
    · exact absurd h (by simp)

end Reader

end ModalLexer.Regex
