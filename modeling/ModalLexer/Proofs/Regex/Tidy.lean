import ModalLexer.Regex.Reader

/-!
# Tidy expressions

What the reader builds is in a normal form: a sequence is flat, holds no empty text, and no part of
it is a sequence; and so is each branch of a choice (`Expr.tidy`). A tidy expression is the sequence
of its parts (`Expr.ofParts_parts`). Sequences, choices and repetitions of tidy expressions are
tidy, and so all that the reader holds is (`Reader.Tidy`).
-/

namespace ModalLexer.Regex

namespace Expr

variable {e p b : Expr} {es ps bs : List Expr}

/-- Whether an expression is a part of a sequence by itself. -/
def atomic : Expr → Bool
  | empty => false
  | cat _ _ => false
  | _ => true

/-- Whether a set stands for itself, rather than as a literal. -/
def wide (s : CharSet) : Prop := ∀ n, s.ranges ≠ [(n, n)]

/-- An expression whose branches are flat sequences without empty parts. -/
def Tidy : Expr → Prop
  | cat e f => e.atomic = true ∧ e.Tidy ∧ f ≠ empty ∧ f.Tidy
  | alt e f => e.Tidy ∧ f.Tidy
  | set _ s => wide s
  | _ => True

/-- What is no sequence is its own only part. -/
theorem parts_of_atomic (h : e.atomic = true) : e.parts = [e] := by
  cases e with
  | empty => exact absurd h (by simp [atomic])
  | cat e f => exact absurd h (by simp [atomic])
  | _ => rfl

/-- A part of a sequence is no sequence. -/
theorem atomic_of_mem_parts (h : p ∈ e.parts) : p.atomic = true := by
  induction e with
  | empty => exact absurd h (by simp [parts])
  | cat e f ihe ihf => exact (List.mem_append.1 h).elim ihe ihf
  | _ =>
    obtain rfl := List.mem_singleton.1 h
    rfl

/-- The parts of a tidy expression are tidy. -/
theorem Tidy.of_mem_parts (he : e.Tidy) (h : p ∈ e.parts) : p.Tidy := by
  induction e with
  | empty => exact absurd h (by simp [parts])
  | cat e f ihe ihf => exact (List.mem_append.1 h).elim (ihe he.2.1) (ihf he.2.2.2)
  | _ =>
    obtain rfl := List.mem_singleton.1 h
    exact he

/-- The branches of a tidy expression are tidy. -/
theorem Tidy.of_mem_branches (he : e.Tidy) (h : b ∈ e.branches) : b.Tidy := by
  induction e with
  | alt e f ihe ihf => exact (List.mem_append.1 h).elim (ihe he.1) (ihf he.2)
  | _ =>
    obtain rfl := List.mem_singleton.1 h
    exact he

/-- A tidy expression without parts is the empty text. -/
theorem parts_eq_nil (he : e.Tidy) (h : e.parts = []) : e = empty := by
  induction e with
  | empty => rfl
  | cat e f ihe ihf =>
    rw [parts, parts_of_atomic he.1] at h
    exact absurd h (by simp)
  | _ => exact absurd h (by simp [parts])

/-- A sequence of several parts is its first part in front of the others. -/
theorem ofParts_cons (h : ps ≠ []) : ofParts (p :: ps) = cat p (ofParts ps) := by
  cases ps with
  | nil => exact absurd rfl h
  | cons q qs => rfl

/-- A tidy expression is the sequence of its parts. -/
theorem ofParts_parts (he : e.Tidy) : ofParts e.parts = e := by
  induction e with
  | cat e f ihe ihf =>
    obtain ⟨hatomic, -, hne, hf⟩ := he
    rw [parts, parts_of_atomic hatomic, List.singleton_append,
      ofParts_cons fun h => hne (parts_eq_nil hf h), ihf hf]
  | _ => rfl

/-- And parts are the parts of their sequence. -/
theorem parts_ofParts (h : ∀ p ∈ ps, p.atomic = true) : (ofParts ps).parts = ps := by
  induction ps with
  | nil => rfl
  | cons p ps ih =>
    obtain ⟨hp, hps⟩ := List.forall_mem_cons.1 h
    by_cases hnil : ps = []
    · subst hnil
      exact parts_of_atomic hp
    · rw [ofParts_cons hnil, parts, ih hps, parts_of_atomic hp, List.singleton_append]

/-- A sequence of tidy parts is tidy. -/
theorem tidy_ofParts (h : ∀ p ∈ ps, p.atomic = true ∧ p.Tidy) : (ofParts ps).Tidy := by
  induction ps with
  | nil => trivial
  | cons p ps ih =>
    obtain ⟨hp, hps⟩ := List.forall_mem_cons.1 h
    by_cases hnil : ps = []
    · subst hnil
      exact hp.2
    · have hne : ofParts ps ≠ empty := by
        intro hempty
        have hparts := parts_ofParts fun p hp => (hps p hp).1
        rw [hempty] at hparts
        exact hnil hparts.symm
      rw [ofParts_cons hnil]
      exact ⟨hp.1, hp.2, hne, ih hps⟩

/-! ## What the reader builds -/

/-- Joining makes literals of literals. -/
theorem mem_joinLiterals (h : p ∈ joinLiterals es) : p ∈ es ∨ ∃ c cs, p = literal c cs := by
  have hcons {e q : Expr} {ps fs : List Expr} (ih : p ∈ fs → p ∈ ps ∨ ∃ c cs, p = literal c cs)
      (hq : q = e ∨ ∃ c cs, q = literal c cs) (h : p ∈ q :: fs) :
      p ∈ e :: ps ∨ ∃ c cs, p = literal c cs := by
    rcases List.mem_cons.1 h with rfl | h
    · exact hq.imp_left fun h => List.mem_cons.2 (.inl h)
    · exact (ih h).imp_left (List.mem_cons_of_mem _)
  fun_induction joinLiterals es with
  | case1 => exact .inl h
  | case2 c cs es d ds fs hjoin ih =>
    rw [hjoin] at ih
    exact hcons (fun h => ih (List.mem_cons_of_mem _ h)) (.inr ⟨_, _, rfl⟩) h
  | case3 c cs es _ ih => exact hcons ih (.inl rfl) h
  | case4 e es _ ih => exact hcons ih (.inl rfl) h

/-- Tidy expressions in sequence are tidy. -/
theorem tidy_sequence (h : ∀ e ∈ es, e.Tidy) : (sequence es).Tidy := by
  refine tidy_ofParts fun p hp => ?_
  rcases mem_joinLiterals hp with hp | ⟨c, cs, rfl⟩
  · obtain ⟨e, he, hp⟩ := List.mem_flatMap.1 hp
    exact ⟨atomic_of_mem_parts hp, (h e he).of_mem_parts hp⟩
  · exact ⟨rfl, trivial⟩

/-- A set is written as a set only if it holds more or less than one character. -/
theorem tidy_ofSet (a : Alphabet) (s : CharSet) : (ofSet a s).Tidy := by
  unfold ofSet
  split
  · exact fun n h => absurd h (by simp [CharSet.empty])
  · next lo hi hranges =>
    split
    · trivial
    · next hne =>
      intro n h
      rw [hranges, List.cons.injEq, Prod.mk.injEq] at h
      exact hne (h.1.1.trans h.1.2.symm)
  · next hone =>
    intro n h
    exact hone _ _ h

/-- A choice between tidy branches is tidy. -/
theorem tidy_ofBranches (h : ∀ b ∈ bs, b.Tidy) : (ofBranches bs).Tidy := by
  fun_induction ofBranches bs with
  | case1 => exact tidy_ofSet .ascii .empty
  | case2 b => exact h b (List.mem_singleton_self b)
  | case3 b bs _ ih =>
    obtain ⟨hb, hbs⟩ := List.forall_mem_cons.1 h
    exact ⟨hb, ih hbs⟩

/-- A flat choice between tidy branches is tidy, also where it is joined to one set. -/
theorem tidy_flatChoice (h : ∀ b ∈ bs, b.Tidy) : (flatChoice bs).Tidy := by
  unfold flatChoice
  split
  · exact h _ (List.mem_singleton_self _)
  · split
    · exact tidy_ofSet _ _
    · exact tidy_ofSet _ _
    · exact tidy_ofBranches h

/-- The common parts of two sequences stand at the front of both. -/
theorem commonParts_isPrefix (ps qs : List Expr) :
    commonParts ps qs <+: ps ∧ commonParts ps qs <+: qs := by
  fun_induction commonParts ps qs with
  | case1 ps p qs ih =>
    exact ⟨(List.prefix_cons_inj p).2 ih.1, (List.prefix_cons_inj p).2 ih.2⟩
  | case2 => exact ⟨List.nil_prefix, List.nil_prefix⟩
  | case3 => exact ⟨List.nil_prefix, List.nil_prefix⟩

/-- All of several sequences begin with the parts that they have in common. -/
theorem foldl_commonParts_isPrefix (ps : List Expr) (qss : List (List Expr)) :
    qss.foldl commonParts ps <+: ps ∧ ∀ qs ∈ qss, qss.foldl commonParts ps <+: qs := by
  induction qss generalizing ps with
  | nil => exact ⟨List.prefix_rfl, by simp⟩
  | cons qs qss ih =>
    obtain ⟨hps, hqss⟩ := ih (commonParts ps qs)
    obtain ⟨hleft, hright⟩ := commonParts_isPrefix ps qs
    exact ⟨hps.trans hleft, List.forall_mem_cons.2 ⟨hps.trans hright, hqss⟩⟩

/-- Shared parts stand at the front of every branch. -/
theorem sharedParts_isPrefix (h : b ∈ bs) : sharedParts bs <+: b.parts := by
  unfold sharedParts
  have hmem : b.parts ∈ bs.map parts := List.mem_map_of_mem h
  split
  · next ps qs qss hparts =>
    split
    · obtain ⟨hps, hqss⟩ := foldl_commonParts_isPrefix ps (qs :: qss)
      rw [hparts] at hmem
      rcases List.mem_cons.1 hmem with heq | hmem
      · exact heq ▸ hps
      · exact hqss _ hmem
    · exact List.nil_prefix
  · exact List.nil_prefix

/-- What all branches share is a part of one of them. -/
theorem exists_of_mem_sharedParts (h : p ∈ sharedParts bs) : ∃ b ∈ bs, p ∈ b.parts := by
  cases bs with
  | nil => exact absurd h (by simp [sharedParts])
  | cons b bs =>
    exact ⟨b, List.mem_cons_self, (sharedParts_isPrefix List.mem_cons_self).subset h⟩

/-- What is left of a tidy expression behind some parts is tidy. -/
theorem tidy_ofParts_drop (h : b.Tidy) (n : Nat) : (ofParts (b.parts.drop n)).Tidy :=
  tidy_ofParts fun _ hp =>
    ⟨atomic_of_mem_parts (List.mem_of_mem_drop hp), h.of_mem_parts (List.mem_of_mem_drop hp)⟩

/-- The branches of tidy expressions are tidy. -/
theorem tidy_flatMap_branches (h : ∀ e ∈ es, e.Tidy) : ∀ b ∈ es.flatMap branches, b.Tidy := by
  intro b hb
  obtain ⟨e, he, hb⟩ := List.mem_flatMap.1 hb
  exact (h e he).of_mem_branches hb

/-- What tidy branches leave is tidy. -/
theorem tidy_rests (h : ∀ b ∈ bs, b.Tidy) : ∀ r ∈ rests bs, r.Tidy := by
  intro r hr
  obtain ⟨b, hb, rfl⟩ := List.mem_map.1 hr
  exact tidy_ofParts_drop (h b hb) _

/-- Where the branches share nothing, a choice is flat. -/
theorem choice_of_eq_nil (h : sharedParts (es.flatMap branches) = []) :
    choice es = flatChoice (es.flatMap branches) := by
  unfold choice
  dsimp only
  rw [h]

/-- Where they share something, that is taken to the front of a choice between what they leave. -/
theorem choice_of_ne_nil (h : sharedParts (es.flatMap branches) ≠ []) :
    choice es = sequence (sharedParts (es.flatMap branches) ++
      [flatChoice ((rests (es.flatMap branches)).flatMap branches)]) := by
  unfold choice
  dsimp only
  split
  · next hnil => exact absurd hnil h
  · rfl

/-- A choice between tidy expressions is tidy. -/
theorem tidy_choice (h : ∀ e ∈ es, e.Tidy) : (choice es).Tidy := by
  by_cases hnil : sharedParts (es.flatMap branches) = []
  · rw [choice_of_eq_nil hnil]
    exact tidy_flatChoice (tidy_flatMap_branches h)
  · rw [choice_of_ne_nil hnil]
    refine tidy_sequence fun e he => ?_
    rcases List.mem_append.1 he with he | he
    · obtain ⟨b, hb, hpart⟩ := exists_of_mem_sharedParts he
      exact (tidy_flatMap_branches h b hb).of_mem_parts hpart
    · obtain rfl := List.mem_singleton.1 he
      exact tidy_flatChoice (tidy_flatMap_branches (tidy_rests (tidy_flatMap_branches h)))

/-- A tidy expression is repeated to a tidy one. -/
theorem tidy_repetition (b : Bounds) (greedy : Bool) (h : e.Tidy) :
    (repetition b greedy e).Tidy := by
  unfold repetition
  extract_lets
  split
  · trivial
  · split
    · exact h
    · trivial

end Expr

/-- The expression of a character is tidy. -/
theorem Flags.tidy_char (f : Flags) (c : Char) : (f.char c).Tidy := by
  unfold char
  split
  · exact Expr.tidy_ofSet _ _
  · trivial

/-- The expression of an atom is tidy. -/
theorem Flags.tidy_of_atom {f : Flags} {a : Atom} {e : Expr} (h : f.atom a = .ok e) : e.Tidy := by
  cases a with
  | char c =>
    obtain rfl := Except.ok.inj h
    exact f.tidy_char c
  | set s =>
    change f.oneOf s = .ok e at h
    unfold oneOf at h
    cases hallow : f.allow s with
    | error e => simp [hallow, Bind.bind, Except.bind] at h
    | ok s =>
      rw [hallow] at h
      obtain rfl := Except.ok.inj h
      exact Expr.tidy_ofSet _ _
  | assertion a =>
    obtain rfl := Except.ok.inj h
    trivial

/-! ## What the reader holds -/

namespace Reader

/-- All expressions that a reader holds are tidy. -/
structure Tidy (r : Reader) : Prop where
  branches : ∀ p ∈ r.branches, p.expr.Tidy
  items : ∀ p, some p ∈ r.items → p.expr.Tidy
  groups : ∀ g ∈ r.groups, (∀ p ∈ g.branches, p.expr.Tidy) ∧ ∀ p, some p ∈ g.items → p.expr.Tidy

variable {r r' : Reader}

/-- A reader that holds nothing is tidy. -/
theorem tidy_empty : ({} : Reader).Tidy := ⟨by simp, by simp, by simp⟩

/-- The current branch of a tidy reader is tidy. -/
theorem Tidy.branch (h : r.Tidy) : r.branch.expr.Tidy := by
  refine Expr.tidy_sequence fun e he => ?_
  obtain ⟨p, hp, rfl⟩ := List.mem_map.1 he
  obtain ⟨i, hi, hip⟩ := List.mem_filterMap.1 hp
  obtain rfl : i = some p := hip
  exact h.items p (List.mem_reverse.1 hi)

/-- The branches read so far in the innermost group, the first one first. -/
def alternatives (r : Reader) : List Expr := (r.branch :: r.branches).reverse.map Piece.expr

/-- All branches that a tidy reader has read in the innermost group are tidy. -/
theorem Tidy.alternatives (h : r.Tidy) : ∀ e ∈ r.alternatives, e.Tidy := by
  intro e he
  obtain ⟨p, hp, rfl⟩ := List.mem_map.1 he
  rcases List.mem_cons.1 (List.mem_reverse.1 hp) with rfl | hp
  · exact h.branch
  · exact h.branches p hp

/-- The contents of a group are the choice between its branches, if there are several. -/
theorem contents_expr (r : Reader) :
    r.contents.expr = if r.branches = [] then r.branch.expr else .choice r.alternatives := by
  unfold contents
  split
  · next h => rw [if_pos h]
  · next h => rw [if_neg h]; rfl

/-- The contents of the innermost group of a tidy reader are tidy. -/
theorem Tidy.contents (h : r.Tidy) : r.contents.expr.Tidy := by
  rw [contents_expr]
  split
  · exact h.branch
  · exact Expr.tidy_choice h.alternatives

/-- Another tidy item keeps a reader tidy. -/
theorem Tidy.push {e : Expr} (h : r.Tidy) (he : e.Tidy) (depth : Nat) : (r.push e depth).Tidy where
  branches := h.branches
  items p hp := by
    rcases List.mem_cons.1 hp with hp | hp
    · obtain rfl := Option.some.inj hp
      exact he
    · exact h.items p hp
  groups := h.groups

/-- What has been read is kept when a group is opened. -/
theorem Tidy.openGroup (h : r.Tidy) (index : Option Nat) (inner : Flags) :
    (r.openGroup index inner).Tidy where
  branches := by simp [Reader.openGroup]
  items := by simp [Reader.openGroup]
  groups := List.forall_mem_cons.2 ⟨⟨h.branches, h.items⟩, h.groups⟩

/-- What an element asks for keeps a reader tidy. -/
theorem Tidy.act {a : Action} (h : r.Tidy) (hact : r.act a = .ok r') : r'.Tidy := by
  cases a with
  | skip =>
    obtain rfl := Except.ok.inj hact
    exact h
  | push a depth =>
    cases hatom : r.flags.atom a with
    | error e => simp [Reader.act, hatom, Bind.bind, Except.bind] at hact
    | ok e =>
      simp only [Reader.act, hatom, Bind.bind, Except.bind] at hact
      obtain rfl := Except.ok.inj hact
      exact h.push (Flags.tidy_of_atom hatom) depth
  | endBranch =>
    obtain rfl := Except.ok.inj hact
    exact ⟨List.forall_mem_cons.2 ⟨h.branch, h.branches⟩, by simp [endBranch], h.groups⟩
  | openGroup inner =>
    obtain rfl := Except.ok.inj hact
    exact h.openGroup none inner
  | openCapture =>
    obtain rfl := Except.ok.inj hact
    have hopen := h.openGroup (some r.captures) r.flags
    exact ⟨hopen.branches, hopen.items, hopen.groups⟩
  | openNamed name =>
    simp only [Reader.act] at hact
    split at hact
    · exact absurd hact (by simp)
    · obtain rfl := Except.ok.inj hact
      have hopen := h.openGroup (some r.captures) r.flags
      exact ⟨hopen.branches, hopen.items, hopen.groups⟩
  | setFlags f =>
    obtain rfl := Except.ok.inj hact
    exact ⟨h.branches, fun p hp => h.items p (by simpa using hp), h.groups⟩
  | closeGroup =>
    simp only [Reader.act, closeGroup] at hact
    split at hact
    · exact absurd hact (by simp)
    · next g gs hgroups =>
      obtain rfl := Except.ok.inj hact
      have hgs := h.groups
      rw [hgroups, List.forall_mem_cons] at hgs
      refine ⟨hgs.1.1, fun p hp => ?_, hgs.2⟩
      rcases List.mem_cons.1 hp with hp | hp
      · obtain rfl := Option.some.inj hp
        cases g.index with
        | none => exact h.contents
        | some i => trivial
      · exact hgs.1.2 p hp
  | repeatLast b lazy =>
    simp only [Reader.act, repeatLast] at hact
    split at hact
    · next q items hitems =>
      obtain rfl := Except.ok.inj hact
      have hits := h.items
      rw [hitems] at hits
      refine ⟨h.branches, fun p hp => ?_, h.groups⟩
      rcases List.mem_cons.1 hp with hp | hp
      · obtain rfl := Option.some.inj hp
        exact Expr.tidy_repetition b _ (hits q List.mem_cons_self)
      · exact hits p (List.mem_cons_of_mem _ hp)
    · exact absurd hact (by simp)

/-- So does reading a source. -/
theorem Tidy.run {n : Nat} {t : Text} (h : r.Tidy) (hrun : r.run n t = .ok r') : r'.Tidy := by
  induction t generalizing r n with
  | nil =>
    rw [Reader.run] at hrun
    obtain rfl := Except.ok.inj hrun
    exact h
  | cons c cs ih =>
    cases n with
    | succ n => exact ih h hrun
    | zero =>
      obtain ⟨a, rest, r₁, -, hact, hrun⟩ := exists_of_run_cons hrun
      exact ih (h.act hact) hrun

end Reader

end ModalLexer.Regex
