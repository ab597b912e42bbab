import ModalLexer.Text.Position

/-!
# Positions in order

Reading on moves a position forward: behind a text that is not empty it is later than in front
(`Position.lt_advance`). So in one text a position tells how much has been read
(`Position.eq_of_advance_eq`), and the order of positions is that of the places in the text, also
where positions are counted in 64-bit fields (`Position.advance?_lt_iff_length_lt`).

A text that is a part of a longer one has its positions there too, counted from the place where the
part begins (`Position.advance_eq_offset`).
-/

namespace ModalLexer.Position

variable {p q : Position} {s t u : Text}

/-! ## Moving forward -/

/-- A position comes before another one on a line before it, or before it on the same line. -/
theorem lt_iff : p < q ↔ p.line < q.line ∨ p.line = q.line ∧ p.column < q.column := Iff.rfl

/-- No position comes before itself. -/
theorem lt_irrefl (p : Position) : ¬ p < p := by
  rw [lt_iff]
  omega

/-- A position that comes before another one comes before all that come behind it. -/
theorem lt_trans {r : Position} (h : p < q) (h' : q < r) : p < r := by
  rw [lt_iff] at *
  omega

/-- Every character moves a position forward. -/
theorem lt_next (p : Position) (c : Char) : p < p.next c := by
  rw [lt_iff, next]
  split <;> simp

/-- And so does every text that is not empty. -/
theorem lt_advance (p : Position) (h : t ≠ []) : p < p.advance t := by
  induction t generalizing p with
  | nil => exact absurd rfl h
  | cons c t ih =>
    rw [advance_cons]
    by_cases ht : t = []
    · rw [ht, advance_nil]
      exact p.lt_next c
    · exact lt_trans (p.lt_next c) (ih (p.next c) ht)

/-- Of two fronts of one text, the one behind which the position is the same is the same. -/
theorem eq_of_advance_eq (hs : s <+: u) (ht : t <+: u) (h : p.advance s = p.advance t) : s = t := by
  -- One of them is a front of the other one, and what it lacks would have moved the position.
  have key {s t : Text} (hle : s <+: t) (h : p.advance s = p.advance t) : s = t := by
    obtain ⟨more, rfl⟩ := hle
    by_cases hmore : more = []
    · rw [hmore, List.append_nil]
    · have hlt := (p.advance s).lt_advance hmore
      rw [← advance_append, ← h] at hlt
      exact absurd hlt (lt_irrefl _)
  rcases List.prefix_or_prefix_of_prefix hs ht with hle | hle
  · exact key hle h
  · exact (key hle h.symm).symm

/-! ## Places in one text -/

/-- A position that comes before another one comes no later. -/
theorem le_of_lt (h : p < q) : p ≤ q :=
  h.imp_right fun ⟨hline, hcolumn⟩ => ⟨hline, Nat.le_of_lt hcolumn⟩

/-- On the way no line is left for one in front of it. -/
theorem line_le_of_le (h : p ≤ q) : p.line ≤ q.line := h.elim Nat.le_of_lt fun h => Nat.le_of_eq h.1

/-- A position does not go back. -/
theorem le_advance (p : Position) (t : Text) : p ≤ p.advance t := by
  by_cases ht : t = []
  · rw [ht, advance_nil]
    exact .inr ⟨rfl, Nat.le_refl _⟩
  · exact le_of_lt (p.lt_advance ht)

/-- Behind a front of a text the position is earlier than behind a longer front. -/
theorem advance_lt_of_length_lt (hs : s <+: u) (ht : t <+: u) (h : s.length < t.length) :
    p.advance s < p.advance t := by
  obtain ⟨more, rfl⟩ := List.prefix_of_prefix_length_le hs ht (Nat.le_of_lt h)
  have hmore : more ≠ [] := by
    rintro rfl
    simp at h
  rw [advance_append]
  exact (p.advance s).lt_advance hmore

/-- Of two fronts of one text, the one behind which the position is earlier is the shorter one. -/
theorem advance_lt_iff (hs : s <+: u) (ht : t <+: u) :
    p.advance s < p.advance t ↔ s.length < t.length := by
  refine ⟨fun h => ?_, advance_lt_of_length_lt hs ht⟩
  rcases Nat.lt_trichotomy s.length t.length with hlt | heq | hgt
  · exact hlt
  · rw [(List.prefix_of_prefix_length_le hs ht (Nat.le_of_eq heq)).eq_of_length heq] at h
    exact absurd h (lt_irrefl _)
  · exact absurd (lt_trans h (advance_lt_of_length_lt ht hs hgt)) (lt_irrefl _)

/-- In 64-bit fields, where the additions do not overflow, positions in one text are ordered as the
places in it are, they differ where the places do, and none is in front of the one that the text
begins at, nor on a line in front of it. -/
theorem advance?_lt_iff_length_lt {r : Position} (hs : s <+: u) (ht : t <+: u)
    (hq : p.advance? s = .ok q) (hr : p.advance? t = .ok r) :
    (q < r ↔ s.length < t.length) ∧ (q = r ↔ s = t) ∧ p ≤ q ∧ p.line ≤ q.line := by
  obtain ⟨rfl, -⟩ := advance?_eq_ok_iff.1 hq
  obtain ⟨rfl, -⟩ := advance?_eq_ok_iff.1 hr
  have hle : p ≤ p.advance s := p.le_advance s
  refine ⟨advance_lt_iff hs ht, ⟨eq_of_advance_eq hs ht, ?_⟩, hle, line_le_of_le hle⟩
  rintro rfl
  rfl

/-- Behind a line feed the column is smaller and the position is later. -/
theorem advance?_lt_iff_length_lt_lines :
    (['a'] : Text) <+: ['a', '\n'] ∧ advance? ⟨4, 9⟩ ['a'] = .ok ⟨4, 10⟩ ∧
      advance? ⟨4, 9⟩ ['a', '\n'] = .ok ⟨5, 1⟩ ∧ (⟨4, 10⟩ : Position) < ⟨5, 1⟩ := by
  have hs : (['a'] : Text) <+: ['a', '\n'] := ⟨['\n'], rfl⟩
  have hq : advance? ⟨4, 9⟩ ['a'] = .ok ⟨4, 10⟩ := advance?_eq_ok_iff.2 ⟨rfl, by decide⟩
  have hr : advance? ⟨4, 9⟩ ['a', '\n'] = .ok ⟨5, 1⟩ :=
    advance?_eq_ok_iff.2 ⟨rfl, by decide⟩
  exact ⟨hs, hq, hr, (advance?_lt_iff_length_lt hs (List.prefix_refl _) hq hr).1.2 (by decide)⟩

/-! ## Offsets -/

/-- The place of `q` in a text in which `q` is counted from `p` on. On its first line columns are
counted from that of `p` on, and on the others from the start of the line. -/
def offset (p q : Position) : Position where
  line := p.line + q.line - 1
  column := if q.line = 1 then p.column + q.column - 1 else q.column

/-- What is counted from the start is counted from a place on where nothing is in between. -/
theorem offset_start (p : Position) : p.offset start = p := by
  simp [offset, start]

/-- The next character is on the same line or begins one, wherever lines are counted from. -/
theorem offset_next (c : Char) (hline : 1 ≤ q.line) (hcolumn : 1 ≤ q.column) :
    p.offset (q.next c) = (p.offset q).next c := by
  unfold offset next
  by_cases hc : c = '\n'
  · have hne : q.line + 1 ≠ 1 := by omega
    simp only [hc, if_true, if_neg hne, Position.mk.injEq, and_true]
    omega
  · simp only [if_neg hc, Position.mk.injEq, true_and]
    split <;> omega

/-- Advancing goes on in the same way, wherever lines and columns are counted from. -/
theorem offset_advance (t : Text) (hline : 1 ≤ q.line) (hcolumn : 1 ≤ q.column) :
    p.offset (q.advance t) = (p.offset q).advance t := by
  induction t generalizing q with
  | nil => rfl
  | cons c t ih =>
    have hnext : 1 ≤ (q.next c).line ∧ 1 ≤ (q.next c).column := by
      unfold next
      split <;> exact ⟨by simp only; omega, by simp only; omega⟩
    rw [advance_cons, advance_cons, ih hnext.1 hnext.2, offset_next c hline hcolumn]

/-- Advancing over a text is advancing over it from the start, counted from where it begins. -/
theorem advance_eq_offset (p : Position) (t : Text) : p.advance t = p.offset (start.advance t) := by
  rw [offset_advance t (by decide) (by decide), offset_start]

end ModalLexer.Position
