import ModalLexer.Proofs.Assignment.Readings
import ModalLexer.Proofs.Position

/-!
# Where a mismatch is reported

A mismatch is reported behind the longest front of the text that can be read as a program
(`mismatch_longest_prefix`). This is what the lexer has passed where it halts, which may be a good
way in front of the first character that is at fault: in `a(1 2)`, the white space is not passed.

The lexer makes the same matches when the text is cut short behind them, so what it has passed is
read to its end, and every longer front stops it in the same place. Of all fronts of the text, only
one leads to the position reported.
-/

namespace ModalLexer.Assignment

/-- A mismatch is reported behind the longest front of the text that can be read.

There is one front of the text that leads to the position of the report. It is read as a program,
and every longer front is read as a mismatch in the same place, under the same name and behind the
same match. The preview shows the first characters of what stands behind the front. -/
theorem mismatch_longest_prefix {source : Text} {m : Mismatch}
    (h : parse source = .error (.mismatch m)) :
    ∃ p u, p ++ u = source ∧
      (∀ q, q <+: source → (Position.start.advance q = m.position ↔ q = p)) ∧
      (∃ program, parse p = .ok program) ∧
      (∀ q, q <+: source → p.length < q.length → ∃ m', parse q = .error (.mismatch m') ∧
        m'.position = m.position ∧ m'.token = m.token ∧ m'.lastMatch = m.lastMatch) ∧
      m.preview = u.take 15 ++ if 15 < u.length then ['…'] else [] := by
  obtain ⟨ms, t, hpath, ht, es, -, htokens⟩ := exists_path_entries source
  rw [parse_eq_reading hpath ht htokens, reading_eq_mismatch_iff] at h
  obtain ⟨hfits, -, rfl⟩ := h
  -- The front is what the lexer has passed where it halts.
  have htext : textOf ms ++ t.rest = source := hpath.textOf_append_rest
  have hfront : textOf ms <+: source := ⟨t.rest, htext⟩
  have hposition : Position.start.advance (textOf ms) = t.position := hpath.position_eq.symm
  refine ⟨textOf ms, t.rest, htext, fun q hq => ?_, ?_, fun q hq hlt => ?_, preview_eq t.rest⟩
  · constructor
    · exact fun h => Position.eq_of_advance_eq hq hfront (h.trans hposition.symm)
    · rintro rfl
      exact hposition
  · obtain ⟨t', hread, -, hrest, -⟩ := exists_parse_append_eq hpath ht htokens List.nil_prefix
    rw [List.append_nil] at hread
    exact ⟨_, hread.trans (reading_eq_ok_iff.2 ⟨hfits, hrest, rfl⟩)⟩
  · -- What a longer front holds behind the matches stops the lexer as the whole text does.
    obtain ⟨u, rfl⟩ := List.prefix_of_prefix_length_le hfront hq hlt.le
    have hu : u <+: t.rest := (List.prefix_append_right_inj _).1 (htext ▸ hq)
    have hne : u ≠ [] := by
      rintro rfl
      simp at hlt
    obtain ⟨t', hread, hactive, hrest, hposition', hlast⟩ :=
      exists_parse_append_eq hpath ht htokens hu
    have hmismatch := reading_eq_mismatch_iff.2 ⟨hfits, hrest ▸ hne, rfl⟩
    exact ⟨_, hread.trans hmismatch, hposition', hactive, hlast⟩

/-- In `ace(10 1)`, the white space between the digits is not passed. -/
theorem mismatch_longest_prefix_digits :
    parse "\n\n\n\t ace(10 1)".toList =
        .error (.mismatch ⟨variableValue, "10".toList, ⟨4, 9⟩, " 1)".toList⟩) ∧
      ∃ p u, p ++ u = "\n\n\n\t ace(10 1)".toList ∧
        (∀ q, q <+: "\n\n\n\t ace(10 1)".toList →
          (Position.start.advance q = ⟨4, 9⟩ ↔ q = p)) ∧
        (∃ program, parse p = .ok program) ∧
        (∀ q, q <+: "\n\n\n\t ace(10 1)".toList → p.length < q.length →
          ∃ m', parse q = .error (.mismatch m') ∧
            m'.position = ⟨4, 9⟩ ∧ m'.token = variableValue ∧ m'.lastMatch = "10".toList) ∧
        " 1)".toList = u.take 15 ++ if 15 < u.length then ['…'] else [] := by
  have h : parse "\n\n\n\t ace(10 1)".toList =
      .error (.mismatch ⟨variableValue, "10".toList, ⟨4, 9⟩, " 1)".toList⟩) := by rfl
  exact ⟨h, mismatch_longest_prefix h⟩

end ModalLexer.Assignment
