import ModalLexer.Pattern

/-!
# Transitions

A transition says what becomes of a match, and under which name the lexer goes on. It either drops
the match or makes a token of it, and either keeps the active name or moves to another. In a grammar
it is written as a key: `&` drops and stays, `&name` drops and moves, `@self` makes a token and
stays, and any other name makes a token and moves.
-/

namespace ModalLexer

/-- What becomes of a match, and the name that is active afterwards. -/
inductive Transition where
  /-- Drops the match and stays. -/
  | skip
  /-- Drops the match and moves to a name. -/
  | goto (target : String)
  /-- Makes a token of the match and stays. -/
  | produceSelf
  /-- Makes a token of the match and moves to its name. -/
  | produce (name : String)
  deriving DecidableEq, Repr

namespace Transition

/-- Whether the match becomes a token. -/
def produces : Transition → Bool
  | skip | goto _ => false
  | produceSelf | produce _ => true

/-- The name that is active after the transition, from the one before. -/
def next (t : Transition) (active : String) : String :=
  match t with
  | skip | produceSelf => active
  | goto target => target
  | produce name => name

/-- The transition that a key stands for. -/
def ofKey (key : String) : Except ConfigurationError Transition :=
  match key.toList with
  | [] => .error .emptyKey
  | ['&'] => .ok skip
  | '&' :: target => .ok (goto (String.ofList target))
  | _ => .ok (if key = "@self" then produceSelf else produce key)

/-- The key that a transition is written as. -/
def key : Transition → String
  | skip => "&"
  | goto target => "&" ++ target
  | produceSelf => "@self"
  | produce name => name

instance : ToString Transition := ⟨key⟩

end Transition

end ModalLexer
