import ModalLexer.Lexer.Error

/-!
# One step of a lexer

The state of a lexer is the active name, the text that is left, the position in front of it, and the
text matched last. A step takes the first rule of the active context that matches the text that is
left, drops what it matches, and makes the transition of the rule. The next step depends on the
active name and the text that is left, and on nothing else.
-/

namespace ModalLexer

/-- The state of a lexer between two matches. -/
structure State where
  active : String
  rest : Text
  position : Position := .start
  lastMatch : Text := []
  deriving DecidableEq

/-- A match: the name that was active, the rule that matched, and the text it matched. -/
structure Match where
  active : String
  rule : Rule
  text : Text

/-- A named piece of text that is handed to a reduction. -/
structure Token where
  name : String
  value : Text
  deriving DecidableEq

/-- What can come of a step. -/
inductive Step where
  /-- No text is left. -/
  | finished
  /-- The active name has no context. -/
  | undefined
  /-- No rule of the active context matches. -/
  | stuck
  | matched (m : Match) (next : State)

namespace State

/-- The state behind a match. -/
def after (s : State) (m : Match) : State where
  active := m.rule.transition.next s.active
  rest := s.rest.drop m.text.length
  position := s.position.advance m.text
  lastMatch := m.text

/-- One step under a grammar. -/
def step (g : Grammar) (s : State) : Step :=
  if s.rest.isEmpty then .finished
  else
    match g.get? s.active with
    | none => .undefined
    | some c =>
      match c.firstMatch? s.rest with
      | none => .stuck
      | some (rule, text) => .matched ⟨s.active, rule, text⟩ (s.after ⟨s.active, rule, text⟩)

/-- The report of a state in which no rule matches. -/
def mismatch (s : State) : Mismatch := ⟨s.active, s.lastMatch, s.position, preview s.rest⟩

end State

/-- The token that a match makes, if it makes one. It is named for the name that is active
afterwards. -/
def Match.token? (m : Match) : Option Token :=
  if m.rule.transition.produces then some ⟨m.rule.transition.next m.active, m.text⟩ else none

/-- A match makes a token exactly if its transition produces one. -/
theorem Match.token?_eq_some_iff {m : Match} {token : Token} : m.token? = some token ↔
    m.rule.transition.produces = true ∧ token = ⟨m.rule.transition.next m.active, m.text⟩ := by
  unfold token?
  split
  · next h => simp [h, eq_comm]
  · next h => simp [h]

end ModalLexer
