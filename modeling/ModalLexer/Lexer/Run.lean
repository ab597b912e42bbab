import ModalLexer.Lexer.Log

/-!
# Runs

A run makes steps until no text is left or something stops it, and hands each token to a reduction.
A reduction holds a store of its own. It receives a cursor, which tells where the token attaches,
and returns the cursor for the next token, or rejects the token. A run that reaches the end returns
the root, the cursor that it began with, and not the last one.

The state moves past a match before its token is handed over. So after a rejection the match stays
consumed, and a further run goes on behind it.

Rules that match the empty text can keep a run going for ever, so a run is given the number of
matches that it may make, and stops at the match beyond.
-/

namespace ModalLexer

/-- What a run does with its tokens: a first cursor, and a function of store, cursor and token that
returns the new store and either the next cursor or an error. -/
structure Reduction (σ γ ε : Type) where
  root : γ
  reduce : σ → γ → Token → σ × Except ε γ

/-- A reduction that never rejects a token. -/
def Reduction.total {σ γ : Type} (root : γ) (reduce : σ → γ → Token → σ × γ) :
    Reduction σ γ Empty where
  root := root
  reduce store cursor token := ((reduce store cursor token).1, .ok (reduce store cursor token).2)

/-- What a run leaves behind: the state, the store of its reduction, its log, and the root or the
error that stopped it. -/
structure RunResult (σ γ ε : Type) where
  state : State
  store : σ
  log : Array LogEvent
  outcome : Except (LexError ε) γ

variable {σ γ ε : Type}

/-- Makes at most `limit` matches from the state `s`, with the next token to attach at `cursor`. -/
def State.runFrom (g : Grammar) (r : Reduction σ γ ε) (limit : Nat) (s : State) (store : σ)
    (cursor : γ) (log : Array LogEvent) : RunResult σ γ ε :=
  match s.step g with
  | .finished => ⟨s, store, log.push (.finished s.position), .ok r.root⟩
  | .undefined => ⟨s, store, log, .error (.undefinedToken s.active)⟩
  | .stuck => ⟨s, store, log, .error (.mismatch s.mismatch)⟩
  | .matched m next =>
    match limit with
    | 0 => ⟨s, store, log, .error .tooManyMatches⟩
    | limit + 1 =>
      let log := log.push (.matched m next.position)
      match m.token? with
      | none => next.runFrom g r limit store cursor log
      | some token =>
        match r.reduce store cursor token with
        | (store, .ok cursor) => next.runFrom g r limit store cursor log
        | (store, .error e) => ⟨next, store, log, .error (.reduction token.name e)⟩

/-- Runs a lexer from the state `s` for at most `limit` matches. -/
def State.run (g : Grammar) (r : Reduction σ γ ε) (limit : Nat) (store : σ) (s : State) :
    RunResult σ γ ε :=
  s.runFrom g r limit store r.root #[.started s.active (byteCount s.rest)]

/-- Runs a lexer over a whole text, from a name on. -/
def parse (g : Grammar) (start : String) (input : Text) (r : Reduction σ γ ε) (limit : Nat)
    (store : σ) : RunResult σ γ ε :=
  State.run g r limit store { active := start, rest := input }

end ModalLexer
