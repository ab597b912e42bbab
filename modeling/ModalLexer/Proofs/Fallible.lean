import Mathlib.Data.List.Forall2

/-!
# Steps that can fail

Steps that can fail are made one after the other, and the first one that fails ends it: behind
another step (`bind_eq_error_iff`), over the elements of a list with a value that is passed on
(`foldlM_eq_error_iff`), or for each element by itself (`mapM_eq_error_iff`).
-/

namespace ModalLexer

variable {α β ε : Type} {x : Except ε α} {f g : β → α → Except ε β} {k : α → Except ε β} {b b' : β}
  {l : List α} {bs : List β} {error : ε}

/-- Two steps succeed exactly if the first one does, and the second one with what it gives. -/
theorem bind_eq_ok_iff : (x >>= k) = .ok b ↔ ∃ a, x = .ok a ∧ k a = .ok b := by
  cases x <;> simp [bind, Except.bind]

/-- Two steps fail exactly if the first one does, or the second one with what it gives. -/
theorem bind_eq_error_iff :
    (x >>= k) = .error error ↔ x = .error error ∨ ∃ a, x = .ok a ∧ k a = .error error := by
  cases x <;> simp [bind, Except.bind]

/-- A fold fails where one of its steps does, behind steps that do not. -/
theorem foldlM_eq_error_iff :
    l.foldlM f b = .error error ↔ ∃ front a behind b', l = front ++ a :: behind ∧
      front.foldlM f b = .ok b' ∧ f b' a = .error error := by
  induction l generalizing b with
  | nil => simp [pure, Except.pure]
  | cons a l ih =>
    rw [List.foldlM_cons, bind_eq_error_iff]
    constructor
    · rintro (hstep | ⟨b₁, hstep, hbehind⟩)
      · exact ⟨[], a, l, b, rfl, rfl, hstep⟩
      · obtain ⟨front, a', behind, b', rfl, hfront, herror⟩ := ih.1 hbehind
        refine ⟨a :: front, a', behind, b', rfl, ?_, herror⟩
        rw [List.foldlM_cons]
        exact bind_eq_ok_iff.2 ⟨b₁, hstep, hfront⟩
    · rintro ⟨front, a', behind, b', hl, hfront, herror⟩
      cases front with
      | nil =>
        obtain ⟨rfl, rfl⟩ := List.cons.inj hl
        obtain rfl := Except.ok.inj hfront
        exact .inl herror
      | cons a₁ front =>
        obtain ⟨rfl, rfl⟩ := List.cons.inj hl
        rw [List.foldlM_cons] at hfront
        obtain ⟨b₁, hstep, hfront⟩ := bind_eq_ok_iff.1 hfront
        exact .inr ⟨b₁, hstep, ih.2 ⟨front, a', behind, b', rfl, hfront, herror⟩⟩

/-- What every step keeps, a fold keeps. -/
theorem foldlM_kept {P : β → Prop} (hstep : ∀ b a b', P b → f b a = .ok b' → P b') (hb : P b)
    (h : l.foldlM f b = .ok b') : P b' := by
  induction l generalizing b with
  | nil => exact Except.ok.inj h ▸ hb
  | cons a l ih =>
    rw [List.foldlM_cons] at h
    obtain ⟨b₁, hfirst, hbehind⟩ := bind_eq_ok_iff.1 h
    exact ih (hstep b a b₁ hb hfirst) hbehind

/-- A fold that succeeds goes in the same way with steps that succeed in the same way. -/
theorem foldlM_eq_ok_of_imp (hstep : ∀ b a b', f b a = .ok b' → g b a = .ok b')
    (h : l.foldlM f b = .ok b') : l.foldlM g b = .ok b' := by
  induction l generalizing b with
  | nil => exact h
  | cons a l ih =>
    rw [List.foldlM_cons] at h ⊢
    obtain ⟨b₁, hfirst, hbehind⟩ := bind_eq_ok_iff.1 h
    exact bind_eq_ok_iff.2 ⟨b₁, hstep b a b₁ hfirst, ih hbehind⟩

/-- If steps from related values with related elements succeed alike, with related values behind
them, then so do folds. -/
theorem exists_foldlM_eq_ok_of_forall₂ {R : β → β → Prop} {S : α → α → Prop} {l' : List α}
    {b₁ b₁' : β} (hl : List.Forall₂ S l' l) (hb : R b₁' b₁)
    (hstep : ∀ b b' a a' c, R b' b → S a' a → f b a = .ok c → ∃ c', f b' a' = .ok c' ∧ R c' c)
    (h : l.foldlM f b₁ = .ok b) : ∃ b', l'.foldlM f b₁' = .ok b' ∧ R b' b := by
  induction hl generalizing b₁ b₁' with
  | nil =>
    obtain rfl := Except.ok.inj h
    exact ⟨b₁', rfl, hb⟩
  | @cons a' a l' l ha _ ih =>
    rw [List.foldlM_cons] at h
    obtain ⟨c, hfirst, hbehind⟩ := bind_eq_ok_iff.1 h
    obtain ⟨c', hfirst', hc⟩ := hstep b₁ b₁' a a' c hb ha hfirst
    obtain ⟨b', hbehind', hb'⟩ := ih hc hbehind
    refine ⟨b', ?_, hb'⟩
    rw [List.foldlM_cons]
    exact bind_eq_ok_iff.2 ⟨c', hfirst', hbehind'⟩

/-- If all elements are taken, each gives what stands in its place. -/
theorem mapM_eq_ok_iff : l.mapM k = .ok bs ↔ List.Forall₂ (fun a b => k a = .ok b) l bs := by
  induction l generalizing bs with
  | nil => simp [pure, Except.pure, eq_comm]
  | cons a l ih =>
    rw [List.mapM_cons, bind_eq_ok_iff, List.forall₂_cons_left_iff]
    refine exists_congr fun b => ?_
    rw [bind_eq_ok_iff]
    simp only [ih, pure, Except.pure, Except.ok.injEq]
    grind

/-- Otherwise one of the elements fails, behind elements that do not. -/
theorem mapM_eq_error_iff :
    l.mapM k = .error error ↔ ∃ front a behind, l = front ++ a :: behind ∧
      (∀ a' ∈ front, ∃ b, k a' = .ok b) ∧ k a = .error error := by
  induction l with
  | nil => simp [pure, Except.pure]
  | cons a l ih =>
    rw [List.mapM_cons, bind_eq_error_iff]
    constructor
    · rintro (hfirst | ⟨b, hfirst, hrest⟩)
      · exact ⟨[], a, l, rfl, by simp, hfirst⟩
      · rcases bind_eq_error_iff.1 hrest with hbehind | ⟨bs, -, hpure⟩
        · obtain ⟨front, a', behind, rfl, hfront, herror⟩ := ih.1 hbehind
          exact ⟨a :: front, a', behind, rfl, List.forall_mem_cons.2 ⟨⟨b, hfirst⟩, hfront⟩, herror⟩
        · exact absurd hpure (by simp [pure, Except.pure])
    · rintro ⟨front, a', behind, hl, hfront, herror⟩
      cases front with
      | nil =>
        obtain ⟨rfl, rfl⟩ := List.cons.inj hl
        exact .inl herror
      | cons a₁ front =>
        obtain ⟨rfl, rfl⟩ := List.cons.inj hl
        obtain ⟨⟨b, hfirst⟩, hfront⟩ := List.forall_mem_cons.1 hfront
        exact .inr ⟨b, hfirst, bind_eq_error_iff.2 (.inl (ih.2 ⟨front, a', behind, rfl, hfront,
          herror⟩))⟩

end ModalLexer
