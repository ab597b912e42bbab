import ModalLexer.Proofs.History

/-!
# Advancing over a concatenation in 64-bit fields

Counted without a bound, a position advances over a concatenation as over its parts in turn. In
64-bit fields it may not: behind the first part the column may be too large for its field, and a
line feed in the second part would have set it back. `advance?_append` says that this is the only
difference.

Which field overflows is told by `advanceBy`, which makes the additions one by one on the segments
of a text between its line feeds. It succeeds where `advance?` does (`advance?_eq`), and fails at
the line if the line does not fit, and at the column otherwise (`advanceBy_splitOn`).
-/

namespace ModalLexer.Position

/-- A field of a position. -/
inductive Field where
  | line
  | column
  deriving DecidableEq, Repr

/-- The sum of two numbers in a 64-bit field. If it does not fit, the field is returned. -/
def addTo (field : Field) (n k : Nat) : Except Field Nat :=
  if n + k < UInt64.size then .ok (n + k) else .error field

/-- Advances over segments with a line feed between each two of them, in 64-bit fields. Every line
feed adds to the line and sets the column back to 1, and then the last segment is added to the
column. -/
def advanceBy (p : Position) : List Text → Except Field Position
  | [] => .ok p
  | [last] => do return ⟨p.line, ← addTo .column p.column last.length⟩
  | _ :: segment :: segments => do
    advanceBy ⟨← addTo .line p.line 1, 1⟩ (segment :: segments)

variable {p : Position} {a b t : Text} {segments : List Text}

/-- The line does not go back. -/
theorem line_le_advance (p : Position) (t : Text) : p.line ≤ (p.advance t).line := by
  rw [advance_eq]
  exact Nat.le_add_right _ _

/-- A character at the front of the first segment counts as one column in front of it. -/
theorem advanceBy_modifyHead (p : Position) (c : Char) (h : segments ≠ []) :
    p.advanceBy (segments.modifyHead (c :: ·)) =
      advanceBy ⟨p.line, p.column + 1⟩ segments := by
  obtain ⟨first, segments, rfl⟩ := List.exists_cons_of_ne_nil h
  cases segments with
  | nil =>
    have hsum : p.column + (first.length + 1) = p.column + 1 + first.length := by omega
    simp only [List.modifyHead_cons, advanceBy, addTo, List.length_cons, hsum]
  | cons segment segments => rfl

/-- A line feed in front of segments adds to the line, if it can. -/
theorem advanceBy_nil_cons (p : Position) (h : segments ≠ []) : p.advanceBy ([] :: segments) =
    if p.line + 1 < UInt64.size then advanceBy ⟨p.line + 1, 1⟩ segments else .error .line := by
  obtain ⟨segment, segments, rfl⟩ := List.exists_cons_of_ne_nil h
  rw [advanceBy, addTo]
  split <;> rfl

/-- The additions fail at the line if the last line does not fit in its field, and otherwise at the
column if the last column does not. -/
theorem advanceBy_splitOn (hline : p.line < UInt64.size) (t : Text) :
    p.advanceBy (t.splitOn '\n') =
      if UInt64.size ≤ (p.advance t).line then .error .line
      else if UInt64.size ≤ (p.advance t).column then .error .column
      else .ok (p.advance t) := by
  -- A line feed begins a new segment, and every other character lengthens the first one.
  induction t generalizing p with
  | nil =>
    rw [List.splitOn_nil, advanceBy, addTo, advance_nil, if_neg (Nat.not_le.2 hline)]
    by_cases hcolumn : p.column < UInt64.size
    · rw [List.length_nil, Nat.add_zero, if_pos hcolumn, if_neg (Nat.not_le.2 hcolumn)]
      rfl
    · rw [List.length_nil, Nat.add_zero, if_neg hcolumn, if_pos (Nat.not_lt.1 hcolumn)]
      rfl
  | cons c t ih =>
    have hne : t.splitOn '\n' ≠ [] := List.splitOn_ne_nil _ _
    rw [advance_cons, next, List.splitOn, List.splitOnP_cons_eq_if_modifyHead, ← List.splitOn]
    by_cases hc : c = '\n'
    · rw [if_pos (by simpa using hc), if_pos hc, advanceBy_nil_cons p hne]
      split
      · next hnext => exact ih hnext
      · next hnext =>
        -- All further lines are behind the one that does not fit.
        have hle := line_le_advance ⟨p.line + 1, 1⟩ t
        rw [if_pos (Nat.le_trans (Nat.not_lt.1 hnext) hle)]
    · rw [if_neg (by simpa using hc), if_neg hc, advanceBy_modifyHead p c hne]
      exact ih hline

/-- Made one by one, the additions succeed where the position behind the text fits. -/
theorem advance?_eq (hp : p.Fits) (t : Text) :
    p.advance? t = (p.advanceBy (t.splitOn '\n')).mapError fun _ => .addition := by
  rw [advanceBy_splitOn hp.1, advance?]
  by_cases hline : UInt64.size ≤ (p.advance t).line
  · have hfits : ¬ (p.advance t).Fits := fun h => Nat.not_lt.2 hline h.1
    rw [if_pos hline, if_neg hfits]
    rfl
  · by_cases hcolumn : UInt64.size ≤ (p.advance t).column
    · have hfits : ¬ (p.advance t).Fits := fun h => Nat.not_lt.2 hcolumn h.2
      rw [if_neg hline, if_pos hcolumn, if_neg hfits]
      rfl
    · have hfits : (p.advance t).Fits := ⟨Nat.not_le.1 hline, Nat.not_le.1 hcolumn⟩
      rw [if_neg hline, if_neg hcolumn, if_pos hfits]
      rfl

/-- Without a line feed, the characters of a text are added to the column. -/
theorem column_advance_of_not_mem (p : Position) (h : '\n' ∉ t) :
    (p.advance t).column = p.column + t.length := by
  have hlast : lastLine t = t := List.rtakeWhile_eq_self_iff.2 fun c hc =>
    decide_eq_true fun heq : c = '\n' => h (heq ▸ hc)
  rw [advance_eq, if_neg h, hlast]

/-- If the position behind a concatenation fits and that behind the first part does not, then the
column does not fit there, and there is a line feed in the second part that sets it back. -/
theorem mem_of_fits_append (hab : (p.advance (a ++ b)).Fits) (ha : ¬ (p.advance a).Fits) :
    (p.advance a).line < UInt64.size ∧ UInt64.size ≤ (p.advance a).column ∧ '\n' ∈ b := by
  rw [advance_append] at hab
  have hline : (p.advance a).line < UInt64.size := (line_le_advance _ b).trans_lt hab.1
  have hcolumn : UInt64.size ≤ (p.advance a).column := Nat.le_of_not_lt fun h => ha ⟨hline, h⟩
  refine ⟨hline, hcolumn, ?_⟩
  -- Without a line feed the column would only have grown.
  by_contra hb
  have hsum : (p.advance a).column + b.length < UInt64.size :=
    column_advance_of_not_mem (p.advance a) hb ▸ hab.2
  omega

/-- In 64-bit fields, a position that advances over two texts in turn without an overflow advances
over their concatenation, to the same position. And if it advances over the concatenation without an
overflow, it gets to the same position over the two texts in turn, or else adding the column of the
first text overflows, and the second text has a line feed. -/
theorem advance?_append (hp : p.Fits) (a b : Text) :
    (∀ q r, p.advance? a = .ok q → q.advance? b = .ok r → p.advance? (a ++ b) = .ok r) ∧
      ∀ r, p.advance? (a ++ b) = .ok r →
        (∃ q, p.advance? a = .ok q ∧ q.advance? b = .ok r) ∨
          p.advance? a = .error .addition ∧ p.advanceBy (a.splitOn '\n') = .error .column ∧
            '\n' ∈ b := by
  constructor
  · intro q r hq hr
    obtain ⟨rfl, -⟩ := advance?_eq_ok_iff.1 hq
    obtain ⟨rfl, hfits⟩ := advance?_eq_ok_iff.1 hr
    exact advance?_eq_ok_iff.2 ⟨(advance_append p a b).symm, hfits⟩
  · intro r hr
    obtain ⟨rfl, hfits⟩ := advance?_eq_ok_iff.1 hr
    by_cases ha : (p.advance a).Fits
    · exact .inl ⟨p.advance a, advance?_eq_ok_iff.2 ⟨rfl, ha⟩,
        advance?_eq_ok_iff.2 ⟨advance_append p a b, hfits⟩⟩
    · obtain ⟨hline, hcolumn, hb⟩ := mem_of_fits_append hfits ha
      have hadd : p.advanceBy (a.splitOn '\n') = .error .column := by
        rw [advanceBy_splitOn hp.1, if_neg (Nat.not_le.2 hline), if_pos hcolumn]
      exact .inr ⟨by rw [advance?_eq hp, hadd]; rfl, hadd, hb⟩

/-- There is no column behind the last one that a letter could lead to. A letter with a line feed
behind it leads to the start of the next line. -/
theorem advance?_append_last_column :
    (⟨1, UInt64.size - 1⟩ : Position).Fits ∧
      advance? ⟨1, UInt64.size - 1⟩ ['x', '\n'] = .ok ⟨2, 1⟩ ∧
      advance? ⟨1, UInt64.size - 1⟩ ['x'] = .error .addition ∧
      advanceBy ⟨1, UInt64.size - 1⟩ [['x']] = .error .column := by
  have hp : (⟨1, UInt64.size - 1⟩ : Position).Fits := by decide
  have hone : advance? ⟨1, UInt64.size - 1⟩ ['x', '\n'] = .ok ⟨2, 1⟩ := by decide
  have hfirst : advance? ⟨1, UInt64.size - 1⟩ ['x'] = .error .addition := by decide
  rcases (advance?_append hp ['x'] ['\n']).2 ⟨2, 1⟩ hone with ⟨q, hq, -⟩ | ⟨-, hadd, -⟩
  · rw [hfirst] at hq
    exact absurd hq (by simp)
  · exact ⟨hp, hone, hfirst, hadd⟩

end ModalLexer.Position
