import ModalLexer.Proofs.Regex.Reading.Source

/-!
# Sources that are not read

A source that is not a regular expression does not become one in a group of its own, except one that
closes a group that it has not opened: the parenthesis that closes the group either does not help,
or is taken for a part of the source, and then the group is not closed
(`Reader.groups_ne_nil_of_error`).
-/

namespace ModalLexer.Regex.Reader

variable {r r' w : Reader} {s : Surroundings} {t u : Text} {n : Nat} {f : Flags} {a : Action}
  {e : SyntaxError}

/-- What is asked for in vain is asked for in vain in the place of the source, unless it is to close
a group that the source has not opened. -/
theorem act_within_error (h : r.act a = .error e) (he : e ≠ .groupUnopened) :
    ∃ e', (s.within r).act a = .error e' := by
  cases a with
  | push b depth =>
    cases hatom : r.flags.atom b with
    | error e' =>
      refine ⟨e', ?_⟩
      have hwide : (s.within r).flags.atom b = .error e' := hatom
      simp only [act, hwide, Bind.bind, Except.bind]
    | ok b => simp [act, hatom, Bind.bind, Except.bind] at h
  | openNamed name =>
    simp only [act] at h
    split at h
    · next hname =>
      refine ⟨.groupNameRepeated, if_pos ?_⟩
      have hnames : (s.within r).names = r.names ++ s.names := rfl
      have hmem : name ∈ r.names := by simpa using hname
      simp [hnames, hmem]
    · exact absurd h (by simp)
  | closeGroup =>
    simp only [act, closeGroup] at h
    split at h
    · exact absurd (Except.error.inj h).symm he
    · exact absurd h (by simp)
  | repeatLast b lazy =>
    simp only [act, repeatLast] at h
    split at h
    · exact absurd h (by simp)
    · next hitems =>
      refine ⟨.nothingToRepeat, ?_⟩
      have hwithin : (s.within r).items = s.items r.items := rfl
      rw [act, repeatLast, hwithin, Surroundings.items]
      cases hitems' : r.items with
      | nil => rfl
      | cons p ps =>
        cases p with
        | none => rfl
        | some p => exact absurd hitems' (hitems p ps)
  | _ => exact absurd h (by simp [act])

/-- Part of a text that has been read with an element is passed over. -/
theorem run_drop (r : Reader) (v : Text) : r.run v.length (v ++ t) = r.run 0 t := by
  induction v with
  | nil => rfl
  | cons c v ih => exact ih

/-- Braces that are not closed are no bounds. -/
theorem run_unclosed (h : Unclosed r.flags t) : ∃ e, r.run 0 t = .error e := by
  obtain ⟨cs, rfl, hskip⟩ := h
  have hcount : readCount r.flags (r.flags.skip cs) = .error .bounds := by
    rcases hskip with h | h
    · rw [h, readCount_parenthesis]
    · rw [h, readCount_nil]
  have hread : readAction r.flags '\x7b' cs = .error .bounds := by
    have hblank : CharSet.whiteSpace.contains '\x7b' = false := rfl
    simp [readAction, hblank, readBounds, hcount, Bind.bind, Except.bind]
  exact ⟨.bounds, by rw [run_cons, hread]; rfl⟩

/-- Another item changes neither the open groups nor the flags. -/
theorem act_push {b : Atom} {depth : Nat} (h : r.act (.push b depth) = .ok r') :
    r'.groups = r.groups ∧ r'.flags = r.flags := by
  simp only [act, Bind.bind, Except.bind] at h
  split at h
  · exact absurd h (by simp)
  · obtain rfl := Except.ok.inj h
    exact ⟨rfl, rfl⟩

/-- Open groups around a source stay around its own. -/
theorem around_ne_nil (h : s.groups ≠ []) (gs : List OpenGroup) : s.around gs ≠ [] := by
  cases gs with
  | nil => exact h
  | cons g gs => simp [Surroundings.around]

/-- An element that is completed by a parenthesis leaves no parenthesis that would close a group. -/
theorem groups_of_actionFails {rest : Text} (ha : ActionFails r.flags t a rest)
    (hact : r.act a = .ok r')
    (h : r'.run ((t ++ [')']).length - rest.length) (t ++ [')']) = .ok w) :
    w.groups = r.groups := by
  have hend (hnil : rest = []) : w = r' := by
    subst hnil
    exact Except.ok.inj (h.symm.trans (r'.run_length _))
  rcases ha with ⟨⟨b, depth, rfl⟩, hnil | ⟨hunclosed, v, hv⟩⟩ | ⟨⟨g, rfl⟩, hnil⟩
  · rw [hend hnil]
    exact (act_push hact).1
  · have hlength : (v ++ rest).length - rest.length = v.length := by
      rw [List.length_append, Nat.add_sub_cancel]
    rw [← hv, hlength, run_drop] at h
    obtain ⟨e, he⟩ := run_unclosed (r := r') (by rwa [(act_push hact).2])
    rw [he] at h
    exact absurd h (by simp)
  · rw [hend hnil]
    obtain rfl := Except.ok.inj hact
    rfl

/-- A source that is not read alone is not read in a group, unless it closes a group that it has not
opened, or the group is not closed. -/
theorem groups_ne_nil_of_error (hs : s.names = []) (hgroups : s.groups ≠ []) (hn : n ≤ t.length)
    (h : r.run n t = .error e) (he : e ≠ .groupUnopened)
    (hw : (s.within r).run n (t ++ [')']) = .ok w) : w.groups ≠ [] := by
  have hapart (r : Reader) : s.Apart r := fun _ _ => by rw [hs]; exact List.not_mem_nil
  induction t generalizing r n with
  | nil =>
    obtain rfl : n = 0 := Nat.le_zero.1 hn
    exact absurd h (by simp [run])
  | cons c cs ih =>
    cases n with
    | succ n => exact ih (Nat.le_of_succ_le_succ hn) h hw
    | zero =>
      have hfollows := follows_readAction (stops_paren []) r.flags c cs
      rw [List.cons_append] at hw
      obtain ⟨a, rest, r₁, hwide, hact, hrun⟩ := exists_of_run_cons hw
      have hwide' : readAction r.flags c (cs ++ [')']) = .ok (a, rest) := hwide
      rw [run_cons] at h
      cases hread : readAction r.flags c cs with
      | error e' =>
        rw [hread] at hfollows
        have hopen : w.groups = (s.within r).groups :=
          groups_of_actionFails (by exact hfollows rfl a rest hwide') hact hrun
        rw [hopen]
        exact around_ne_nil hgroups r.groups
      | ok p =>
        obtain ⟨a', rest'⟩ := p
        rw [hread] at h hfollows
        -- The same is asked for in its place, and what is left is the parenthesis, if anything is.
        have hsame : a = a' ∧ (rest = rest' ++ [')'] ∨ rest' = []) := by
          rcases hfollows with hok | ⟨-, hnil, hok⟩
          · obtain ⟨rfl, rfl⟩ := Prod.mk.inj (Except.ok.inj (hwide'.symm.trans hok))
            exact ⟨rfl, .inl rfl⟩
          · obtain ⟨rfl, rfl⟩ := Prod.mk.inj (Except.ok.inj (hwide'.symm.trans (hok rfl)))
            exact ⟨rfl, .inr hnil⟩
        obtain ⟨rfl, hrest⟩ := hsame
        simp only [Bind.bind, Except.bind] at h
        cases hact' : r.act a with
        | error e' =>
          rw [hact'] at h
          obtain rfl := Except.error.inj h
          obtain ⟨e'', hfail⟩ := act_within_error (s := s) hact' he
          exact absurd (hact.symm.trans hfail) (by simp)
        | ok r₂ =>
          rw [hact'] at h
          obtain rfl : r₁ = s.within r₂ := by
            rcases act_within s (hapart r) hact' with ⟨-, hok⟩ | ⟨hclash, -⟩
            · exact Except.ok.inj (hact.symm.trans hok)
            · exact absurd (hapart r₂) hclash
          rcases hrest with rfl | rfl
          · rw [length_sub_append] at hrun
            exact ih (Nat.sub_le _ _) h hrun
          · exact absurd ((r₂.run_length cs).symm.trans h) (by simp)

end ModalLexer.Regex.Reader
