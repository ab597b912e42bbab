import ModalLexer.Grammar
import ModalLexer.Proofs.Text.Unquoting

/-!
# What a pattern is shown as

A pattern is shown as its written form: the source of a regular expression between slashes, and a
literal text in quotes. The source is taken out of the group in which it is compiled, and it may
begin or end like this group itself (`Pattern.describe_of_ofRegex`).

The first character tells which of the two it is. A slash and another one at the end are put around
a source that is otherwise as it was written, and a quoted text can be read back (`unquote_quote`).
So the written form can be read off (`PatternSource.ofDescription?_describe`), and two patterns that
are shown alike are written alike (`Pattern.describe_tells_source`).
-/

namespace ModalLexer

/-- Reads the written form of a pattern off what the pattern is shown as. -/
def PatternSource.ofDescription? (s : String) : Option PatternSource :=
  match s.toList with
  | '/' :: t => some (.regex t.dropLast)
  | _ => (Quoted.unquote s).map .literal

/-- A regular expression is shown as its source between slashes, whatever the source holds. -/
theorem Pattern.describe_of_ofRegex {source : Text} {p : Pattern} (h : ofRegex source = .ok p) :
    p.describe = "/" ++ String.ofList source ++ "/" := by
  obtain ⟨program, hcompile, rfl⟩ := ofRegex_eq_ok_iff.1 h
  exact describe_regex source program hcompile

/-- What is read off is the written form that the pattern was given in. -/
theorem PatternSource.ofDescription?_describe {a : PatternSource} {p : Pattern}
    (h : a.pattern = .ok p) : ofDescription? p.describe = some a := by
  cases a with
  | regex source =>
    have hdescribe : p.describe.toList = '/' :: (source ++ ['/']) := by
      simp [Pattern.describe_of_ofRegex h]
    simp only [ofDescription?, hdescribe, List.dropLast_concat]
  | literal text =>
    obtain rfl := Except.ok.inj h
    have hdescribe : (Pattern.literal text).describe = Quoted.quote text := rfl
    have hquote : (Quoted.quote text).toList = '"' :: (Quoted.encode text ++ ['"']) := by
      simp [Quoted.quote]
    rw [hdescribe, ofDescription?, hquote, Quoted.unquote_quote]
    rfl

/-- What a pattern is shown as tells how it is written. Two patterns that are shown alike are both
regular expressions or both literal texts, with the same source or text. A regular expression is
shown as its source between slashes, as it was written, and a literal text is shown in a form from
which it can be read back. -/
theorem Pattern.describe_tells_source :
    (∀ (a b : PatternSource) (p q : Pattern), a.pattern = .ok p → b.pattern = .ok q →
        p.describe = q.describe → a = b) ∧
      (∀ source p, ofRegex source = .ok p → p.describe = "/" ++ String.ofList source ++ "/") ∧
      ∀ text, Quoted.unquote (literal text).describe = some text := by
  refine ⟨fun a b p q ha hb h => ?_, fun source p h => describe_of_ofRegex h,
    Quoted.unquote_quote⟩
  have hread := PatternSource.ofDescription?_describe hb
  rw [← h, PatternSource.ofDescription?_describe ha] at hread
  exact Option.some.inj hread

/-- A source that looks like the group around it is shown as it is, and not as what stands in the
group. A literal text of the same characters is shown in quotes, and one that looks like an escape
is not shown as what the escape stands for. -/
theorem Pattern.describe_tells_source_of_group :
    ∃ p q, ofRegex ['^', '(', '?', ':', 'a', ')'] = .ok p ∧ ofRegex ['a'] = .ok q ∧
      p.describe = "/^(?:a)/" ∧ p.describe ≠ q.describe ∧
      p.describe ≠ (literal ['/', '^', '(', '?', ':', 'a', ')', '/']).describe ∧
      (literal ['\\', 't']).describe ≠ (literal ['\t']).describe := by
  obtain ⟨p, hp⟩ : ∃ p, ofRegex ['^', '(', '?', ':', 'a', ')'] = .ok p := ⟨_, rfl⟩
  obtain ⟨q, hq⟩ : ∃ q, ofRegex ['a'] = .ok q := ⟨_, rfl⟩
  have hgroup : (PatternSource.regex ['^', '(', '?', ':', 'a', ')']).pattern = .ok p := hp
  have hinside : (PatternSource.regex ['a']).pattern = .ok q := hq
  have hliteral (text : Text) : (PatternSource.literal text).pattern = .ok (literal text) := rfl
  obtain ⟨htells, hshown, -⟩ := Pattern.describe_tells_source
  refine ⟨p, q, hp, hq, hshown _ p hp, fun h => ?_, fun h => ?_, fun h => ?_⟩
  · exact absurd (htells _ _ _ _ hgroup hinside h) (by decide)
  · exact absurd (htells _ _ _ _ hgroup (hliteral _) h) (by decide)
  · exact absurd (htells _ _ _ _ (hliteral _) (hliteral _) h) (by decide)

end ModalLexer
