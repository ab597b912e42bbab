import ModalLexer.Proofs.Regex.Reading.Element
import ModalLexer.Proofs.Regex.Within

/-!
# Reading a whole source with more around it

A source that is read to its end is read in the same way in its place within another source, unless
one of its groups takes a name that is taken (`Reader.run_within`), and with more behind it, unless
a comment is open at its end (`Reader.run_append`).
-/

namespace ModalLexer.Regex.Reader

variable {r r' : Reader} {s : Surroundings} {t u : Text} {n : Nat}

/-- The characters that have been read with an element are passed over. -/
theorem run_length (r : Reader) (t : Text) : r.run t.length t = .ok r := by
  induction t with
  | nil => rfl
  | cons c cs ih => exact ih

/-! ## Names -/

/-- The names of groups are not given up. -/
theorem names_act {a : Action} (h : r.act a = .ok r') : r.names <:+ r'.names := by
  cases a with
  | push a depth =>
    simp only [act, Bind.bind, Except.bind] at h
    split at h
    · exact absurd h (by simp)
    · obtain rfl := Except.ok.inj h
      exact List.suffix_rfl
  | openNamed name =>
    simp only [act] at h
    split at h
    · exact absurd h (by simp)
    · obtain rfl := Except.ok.inj h
      exact List.suffix_cons _ _
  | closeGroup =>
    simp only [act, closeGroup] at h
    split at h
    · exact absurd h (by simp)
    · obtain rfl := Except.ok.inj h
      exact List.suffix_rfl
  | repeatLast b lazy =>
    simp only [act, repeatLast] at h
    split at h
    · obtain rfl := Except.ok.inj h
      exact List.suffix_rfl
    · exact absurd h (by simp)
  | _ =>
    obtain rfl := Except.ok.inj h
    exact List.suffix_rfl

/-- The names that a source has given to groups are not given up. -/
theorem names_run (h : r.run n t = .ok r') : r.names <:+ r'.names := by
  induction t generalizing r n with
  | nil =>
    obtain rfl : r = r' := by cases n <;> exact Except.ok.inj h
    exact List.suffix_rfl
  | cons c cs ih =>
    cases n with
    | succ n => exact ih h
    | zero =>
      obtain ⟨a, rest, r₁, -, hact, hrun⟩ := exists_of_run_cons h
      exact (names_act hact).trans (ih hrun)

/-- Names that do not clash at the end of a source have not clashed before. -/
theorem Apart.of_names (h : s.Apart r') (hnames : r.names <:+ r'.names) : s.Apart r :=
  fun name hname => h name (hnames.subset hname)

/-! ## A source in its place -/

/-- What an element asks for is done in its place, if no group of the source takes a name that is
taken. -/
theorem act_within_of_run {a : Action} {r₁ : Reader} (hs : s.Apart r') (hact : r.act a = .ok r₁)
    (hrun : r₁.run n t = .ok r') : (s.within r).act a = .ok (s.within r₁) := by
  have hs₁ : s.Apart r₁ := Apart.of_names hs (names_run hrun)
  rcases act_within s (Apart.of_names hs₁ (names_act hact)) hact with ⟨-, hok⟩ | ⟨hclash, -⟩
  · exact hok
  · exact absurd hs₁ hclash

/-- A source is read in its place as it is read alone, if its groups have names of their own. -/
theorem run_within (hs : s.Apart r') (h : r.run n t = .ok r') :
    (s.within r).run n t = .ok (s.within r') := by
  induction t generalizing r n with
  | nil =>
    obtain rfl : r = r' := by cases n <;> exact Except.ok.inj h
    cases n <;> rfl
  | cons c cs ih =>
    cases n with
    | succ n => exact ih h
    | zero =>
      obtain ⟨a, rest, r₁, hread, hact, hrun⟩ := exists_of_run_cons h
      have hflags : readAction (s.within r).flags c cs = .ok (a, rest) := hread
      rw [run_of_readAction hflags (act_within_of_run hs hact hrun)]
      exact ih hrun

/-- A source that has been read is read in the same way with more behind it, which is read next. If
a comment is open at its end, the comment takes in the parenthesis that closes the group. -/
theorem run_append (hu : Stops u) (hn : n ≤ t.length) (h : r.run n t = .ok r') :
    (∀ s : Surroundings, s.Apart r' → (s.within r).run n (t ++ u) = (s.within r').run 0 u) ∨
      r'.flags.extended = true ∧ (u = [')'] → ∀ s : Surroundings, s.Apart r' →
        (s.within r).run n (t ++ u) = .ok (s.within r')) := by
  induction t generalizing r n with
  | nil =>
    obtain rfl : n = 0 := Nat.le_zero.1 hn
    obtain rfl := Except.ok.inj h
    exact .inl fun _ _ => rfl
  | cons c cs ih =>
    cases n with
    | succ n => exact ih (Nat.le_of_succ_le_succ hn) h
    | zero =>
      obtain ⟨a, rest, r₁, hread, hact, hrun⟩ := exists_of_run_cons h
      have hfollows := follows_readAction hu r.flags c cs
      rw [hread] at hfollows
      rcases hfollows with hwide | ⟨⟨hx, hkeeps⟩, rfl, hwide⟩
      · have hstep (s : Surroundings) (hs : s.Apart r') : (s.within r).run 0 (c :: cs ++ u) =
            (s.within r₁).run (cs.length - rest.length) (cs ++ u) := by
          have hwide' : readAction (s.within r).flags c (cs ++ u) = .ok (a, rest ++ u) := hwide
          rw [List.cons_append, run_of_readAction hwide' (act_within_of_run hs hact hrun),
            length_sub_append]
        rcases ih (Nat.sub_le _ _) hrun with hrun' | ⟨hx, hrun'⟩
        · exact .inl fun s hs => (hstep s hs).trans (hrun' s hs)
        · exact .inr ⟨hx, fun hparen s hs => (hstep s hs).trans (hrun' hparen s hs)⟩
      · obtain rfl : r₁ = r' := Except.ok.inj ((r₁.run_length cs).symm.trans hrun)
        refine .inr ⟨by rw [hkeeps r r₁ hact, hx], fun hparen s hs => ?_⟩
        have hwide' : readAction (s.within r).flags c (cs ++ u) = .ok (a, []) := hwide hparen
        rw [List.cons_append, run_of_readAction hwide' (act_within_of_run hs hact hrun)]
        exact (s.within r₁).run_length _

/-- If one of its groups takes a name that is taken, it is not read in its place. -/
theorem run_within_clash (hr : s.Apart r) (hs : ¬s.Apart r') (hn : n ≤ t.length)
    (h : r.run n t = .ok r') : (s.within r).run n (t ++ [')']) = .error .groupNameRepeated := by
  induction t generalizing r n with
  | nil =>
    obtain rfl : n = 0 := Nat.le_zero.1 hn
    obtain rfl := Except.ok.inj h
    exact absurd hr hs
  | cons c cs ih =>
    cases n with
    | succ n => exact ih hr (Nat.le_of_succ_le_succ hn) h
    | zero =>
      obtain ⟨a, rest, r₁, hread, hact, hrun⟩ := exists_of_run_cons h
      have hfollows := follows_readAction (stops_paren []) r.flags c cs
      rw [hread] at hfollows
      have hwide : ∃ rest', readAction (s.within r).flags c (cs ++ [')']) = .ok (a, rest') ∧
          (rest' = rest ++ [')'] ∨ rest = []) := by
        rcases hfollows with hwide | ⟨-, hnil, hwide⟩
        · exact ⟨_, hwide, .inl rfl⟩
        · exact ⟨_, hwide rfl, .inr hnil⟩
      obtain ⟨rest', hwide, hrest⟩ := hwide
      rw [List.cons_append, run_cons, hwide]
      simp only [Bind.bind, Except.bind]
      rcases act_within s hr hact with ⟨hr₁, hact'⟩ | ⟨-, hact'⟩
      · rw [hact']
        rcases hrest with rfl | rfl
        · simp only [length_sub_append]
          exact ih hr₁ (Nat.sub_le _ _) hrun
        · obtain rfl : r₁ = r' := Except.ok.inj ((r₁.run_length cs).symm.trans hrun)
          exact absurd hr₁ hs
      · rw [hact']

end ModalLexer.Regex.Reader
