import ModalLexer.Regex.Reader
import ModalLexer.Regex.Search
import ModalLexer.Text.Quoted

/-!
# Patterns

A pattern is what a rule looks for at the front of a text: a regular expression or a literal text. A
regular expression is compiled inside a group behind the assertion that the text starts here, so a
match begins at the front. The text it matches is everything up to the end of the match: where the
source closes that group by itself, a match may begin further on, and the text in front of it counts
as matched too.
-/

namespace ModalLexer

/-- Why a grammar cannot be built. -/
inductive ConfigurationError where
  | invalidRegex (source : Text) (cause : Regex.SyntaxError)
  | emptyKey
  deriving DecidableEq

namespace ConfigurationError

/-- What is wrong. The cause of a syntax error is not part of it. -/
def reason : ConfigurationError → String
  | invalidRegex source _ => s!"invalid regex /{String.ofList source}/"
  | emptyKey => "empty test-key"

end ConfigurationError

/-- The source that is compiled for a regular expression: a group at the start of the text. -/
def anchoredSource (source : Text) : Text :=
  ['^', '(', '?', ':'] ++ source ++ [')']

/-- The source in the group of a text that has the form of an anchored source. -/
def anchoredBody? : Text → Option Text
  | '^' :: '(' :: '?' :: ':' :: t => if t.getLast? = some ')' then some t.dropLast else none
  | _ => none

/-- In the group of an anchored source stands the source, whatever it begins or ends with. -/
theorem anchoredBody?_anchoredSource (source : Text) :
    anchoredBody? (anchoredSource source) = some source := by
  simp [anchoredBody?, anchoredSource]

/-- What a rule looks for at the front of a text. -/
inductive Pattern where
  /-- A regular expression with the program it compiles to. -/
  | regex (source : Text) (program : Regex.Program)
      (compiled : Regex.compile (anchoredSource source) = .ok program)
  /-- A text that stands for itself. -/
  | literal (text : Text)

namespace Pattern

/-- The pattern of a regular expression. -/
def ofRegex (source : Text) : Except ConfigurationError Pattern :=
  match h : Regex.compile (anchoredSource source) with
  | .ok program => .ok (regex source program h)
  | .error cause => .error (.invalidRegex source cause)

/-- The front of a text that the pattern matches, if it does. -/
def match? (p : Pattern) (t : Text) : Option Text :=
  match p with
  | regex _ program _ => (program.matchEnd t).map t.take
  | literal text => if text.isPrefixOf t then some text else none

/-- How the pattern is shown: a regular expression between slashes, taken out of the group that it
is compiled in, and a literal text in quotes. -/
def describe : Pattern → String
  | regex source _ _ =>
    let compiled := anchoredSource source
    s!"/{String.ofList ((anchoredBody? compiled).getD compiled)}/"
  | literal text => Quoted.quote text

/-- The group is taken off again: the source is shown as it was written, also where it begins or
ends as the group does. -/
theorem describe_regex (source : Text) (program : Regex.Program)
    (h : Regex.compile (anchoredSource source) = .ok program) :
    (regex source program h).describe = "/" ++ String.ofList source ++ "/" := by
  simp only [describe, anchoredBody?_anchoredSource, Option.getD_some]
  rfl

/-- A source yields a pattern exactly when its anchored form compiles. -/
theorem ofRegex_eq_ok_iff {source : Text} {p : Pattern} :
    ofRegex source = .ok p ↔ ∃ program h, p = regex source program h := by
  constructor
  · intro h
    unfold ofRegex at h
    split at h
    · exact ⟨_, _, (Except.ok.inj h).symm⟩
    · simp at h
  · rintro ⟨program, h, rfl⟩
    unfold ofRegex
    split
    · next h' => cases h.symm.trans h'; rfl
    · next h' => rw [h] at h'; simp at h'

end Pattern

end ModalLexer
