import ModalLexer.Grammar
import ModalLexer.Text.Position

/-!
# What stops a lexer

A lexer stops before the end of a text when the active name has no context, when no rule of its
context matches, when a reduction is rejected, or when it has made as many matches as it may.
-/

namespace ModalLexer

/-- The place where no rule matches: the active name, the text matched last, the position, and a
preview of the text that is left. -/
structure Mismatch where
  token : String
  lastMatch : Text
  position : Position
  preview : Text
  deriving DecidableEq

/-- The number of characters of the text that is left which a report shows. -/
def previewLength : Nat := 15

/-- The front of a text, with an ellipsis if it is longer. -/
def preview (t : Text) : Text :=
  if previewLength < t.length then t.take previewLength ++ ['…'] else t

/-- The ellipsis stands behind the front, and only if the text goes on there. -/
theorem preview_eq (t : Text) :
    preview t = t.take previewLength ++ if previewLength < t.length then ['…'] else [] := by
  unfold preview
  split
  · rfl
  · next hle => rw [List.take_of_length_le (Nat.not_lt.1 hle), List.append_nil]

/-- Why a run does not reach the end of its text. A reduction fails with an error of type `ε`. -/
inductive LexError (ε : Type) where
  | configuration (e : ConfigurationError)
  | undefinedToken (token : String)
  | mismatch (m : Mismatch)
  | reduction (token : String) (source : ε)
  | tooManyMatches
  deriving DecidableEq

/-- The report of a fault in a grammar. -/
def configurationMessage (reason : String) : String := s!"Configuration error: {reason}"

/-- The report of a name that no context is stored under. -/
def undefinedTokenMessage (token : String) : String := s!"Parse error: undefined token '{token}'"

/-- The report of a reduction that was rejected. -/
def reductionMessage (token source : String) : String :=
  s!"Reduction failed for token '{token}': {source}"

/-- The report of a place where no rule matches. -/
def Mismatch.message (m : Mismatch) : String :=
  s!"Parse error: invalid source after {m.token} '{String.ofList m.lastMatch}' " ++
    s!"at {m.position}: '{String.ofList m.preview}'"

/-- The report of an error, given that of a rejected reduction. -/
def LexError.message {ε : Type} (source : ε → String) : LexError ε → String
  | configuration e => configurationMessage e.reason
  | undefinedToken token => undefinedTokenMessage token
  | mismatch m => m.message
  | reduction token e => reductionMessage token (source e)
  | tooManyMatches => "too many matches"

end ModalLexer
