import ModalLexer.Proofs.Run

/-!
# Runs as folds

What a run does with its tokens is a fold over them: `Reduction.feed` hands tokens over in turn, and
`Reduction.calls` lists the calls that this takes, each with the store and the cursor that the call
before returned. The matches are made without regard to that. So a run with a bound falls into two
parts (`State.runFrom_cases`): the tokens of its first matches are fed to the reduction, and if none
of them is rejected, the run stops as every run does that makes these matches.

What every match keeps holds in front of every call of a run and in its end (`Runs.kept`).

How two runs stop is compared by `verdict`, which leaves out what belongs to the reduction: the root
that a run returns, and the error of a rejection.
-/

namespace ModalLexer

variable {σ γ ε : Type}

/-! ## Verdicts -/

/-- The error with what it says of a rejection changed. -/
def LexError.map {ε' : Type} (f : ε → ε') : LexError ε → LexError ε'
  | configuration e => .configuration e
  | undefinedToken token => .undefinedToken token
  | mismatch m => .mismatch m
  | reduction token e => .reduction token (f e)
  | tooManyMatches => .tooManyMatches

/-- What stopped a run, without the root that it returns and without what a rejection says. -/
def verdict (outcome : Except (LexError ε) γ) : Except (LexError Unit) Unit :=
  (outcome.map fun _ => ()).mapError (LexError.map fun _ => ())

/-- The verdict on a success is that there is no error. -/
@[simp] theorem verdict_ok (root : γ) : verdict (.ok root : Except (LexError ε) γ) = .ok () := rfl

/-- The verdict on a failure is its error, whatever the reduction says. -/
@[simp] theorem verdict_error (e : LexError ε) :
    verdict (.error e : Except (LexError ε) γ) = .error (e.map fun _ => ()) := rfl

/-- A run was stopped by its bound exactly if its verdict says so. -/
theorem verdict_eq_tooManyMatches_iff {outcome : Except (LexError ε) γ} :
    verdict outcome = .error .tooManyMatches ↔ outcome = .error .tooManyMatches := by
  cases outcome with
  | ok root => simp
  | error e => cases e <;> simp [LexError.map]

/-! ## Calls -/

/-- A call of a reduction: the store and the cursor that it is given, and the token. -/
structure Call (σ γ : Type) where
  store : σ
  cursor : γ
  token : Token

namespace Reduction

/-- The calls that are made when tokens are handed over in turn. Each one is given the store and the
cursor that the one before returned, and the first one that rejects its token is the last one. -/
def calls (r : Reduction σ γ ε) : σ → γ → List Token → List (Call σ γ)
  | _, _, [] => []
  | store, cursor, token :: tokens =>
    ⟨store, cursor, token⟩ ::
      match r.reduce store cursor token with
      | (store, .ok cursor) => r.calls store cursor tokens
      | (_, .error _) => []

/-- The reduction that also records every call, behind those recorded before. -/
def recording (r : Reduction σ γ ε) : Reduction (σ × List (Call σ γ)) γ ε where
  root := r.root
  reduce store cursor token :=
    (((r.reduce store.1 cursor token).1, store.2 ++ [⟨store.1, cursor, token⟩]),
      (r.reduce store.1 cursor token).2)

variable {r : Reduction σ γ ε} {store store' : σ} {cursor cursor' : γ} {token : Token}
  {tokens more : List Token} {e : String × ε}

/-- Behind a token that is rejected, no more tokens are handed over. -/
theorem feed_append_of_error (h : r.feed store cursor tokens = (store', .error e)) :
    r.feed store cursor (tokens ++ more) = (store', .error e) := by
  induction tokens generalizing store cursor with
  | nil => exact absurd h (by simp [feed])
  | cons token tokens ih =>
    rw [List.cons_append]
    simp only [feed] at h ⊢
    split at h
    · next hr => exact ih h
    · exact h

/-- If each call of a total reduction keeps what relates its store and cursor to a value beside
them, so do all calls for some tokens, and the value is a fold over them. -/
theorem total_feed_refines {α : Type} {R : σ → γ → α → Prop} {root : γ}
    {f : σ → γ → Token → σ × γ} {next : α → Token → α}
    (hstep : ∀ store cursor a token, R store cursor a →
      R (f store cursor token).1 (f store cursor token).2 (next a token))
    {a : α} (h : R store cursor a) (tokens : List Token) :
    ∃ store' cursor', (total root f).feed store cursor tokens = (store', .ok cursor') ∧
      R store' cursor' (tokens.foldl next a) := by
  induction tokens generalizing store cursor a with
  | nil => exact ⟨store, cursor, rfl, h⟩
  | cons token tokens ih => exact ih (hstep store cursor a token h)

/-- Recording the calls changes neither what is returned nor the store. -/
theorem recording_feed (r : Reduction σ γ ε) (store : σ) (cursor : γ) (tokens : List Token)
    (before : List (Call σ γ)) :
    r.recording.feed (store, before) cursor tokens =
      (((r.feed store cursor tokens).1, before ++ r.calls store cursor tokens),
        (r.feed store cursor tokens).2) := by
  induction tokens generalizing store cursor before with
  | nil => simp [feed, calls]
  | cons token tokens ih =>
    rcases h : r.reduce store cursor token with ⟨store₁, e | cursor₁⟩
    · simp [feed, calls, recording, h]
    · have hrecording : r.recording.reduce (store, before) cursor token =
          ((store₁, before ++ [⟨store, cursor, token⟩]), .ok cursor₁) := by
        simp [recording, h]
      simp only [feed, calls, hrecording, h]
      rw [ih, List.append_assoc, List.singleton_append]

/-- Where tokens are accepted, each of them is handed over, and no others. -/
theorem map_token_calls (h : r.feed store cursor tokens = (store', .ok cursor')) :
    (r.calls store cursor tokens).map Call.token = tokens := by
  induction tokens generalizing store cursor with
  | nil => rfl
  | cons token tokens ih =>
    simp only [feed] at h
    split at h
    · next hr => simp only [calls, hr, List.map_cons, ih h]
    · exact absurd h (by simp)

/-- The reduction that does nothing with its tokens. -/
def idle : Reduction Unit Unit Empty := .total () fun _ _ _ => ((), ())

end Reduction

/-! ## Runs with a bound -/

/-- The first matches that a lexer makes from a state on, up to a number of them. -/
def State.firstMatches (g : Grammar) : Nat → State → List Match
  | 0, _ => []
  | limit + 1, s =>
    match s.step g with
    | .matched m next => m :: next.firstMatches g limit
    | _ => []

/-- The first tokens that a lexer makes from a state on: those of its first matches. -/
def State.firstTokens (g : Grammar) (limit : Nat) (s : State) : List Token :=
  tokensOf (s.firstMatches g limit)

variable {g : Grammar} {r : Reduction σ γ ε} {s next : State} {m : Match} {token : Token}
  {store store' : σ} {cursor cursor' : γ} {limit : Nat} {log log' : Array LogEvent}

/-- Where a lexer halts, it makes no matches. -/
theorem State.firstMatches_of_halts (h : s.Halts g) : s.firstMatches g limit = [] := by
  cases limit with
  | zero => rfl
  | succ limit =>
    unfold firstMatches
    split
    · next m next hs => exact absurd hs (h m next)
    · rfl

/-- Where a lexer halts, it makes no tokens. -/
theorem State.firstTokens_of_halts (h : s.Halts g) : s.firstTokens g limit = [] := by
  rw [firstTokens, firstMatches_of_halts h]
  rfl

/-- A match that is dropped leaves the tokens to the state behind it. -/
theorem State.firstTokens_of_dropped (h : s.step g = .matched m next) (ht : m.token? = none) :
    s.firstTokens g (limit + 1) = next.firstTokens g limit := by
  simp [firstTokens, firstMatches, tokensOf, h, ht]

/-- A match that makes a token makes the first one. -/
theorem State.firstTokens_of_produced (h : s.step g = .matched m next)
    (ht : m.token? = some token) :
    s.firstTokens g (limit + 1) = token :: next.firstTokens g limit := by
  simp [firstTokens, firstMatches, tokensOf, h, ht]

/-- A run succeeds at the end of its text. -/
theorem State.runFrom_of_finished (h : s.step g = .finished) :
    s.runFrom g r limit store cursor log =
      ⟨s, store, log.push (.finished s.position), .ok r.root⟩ := by
  rw [runFrom]
  simp only [h]

/-- A run stops at a name without a context. -/
theorem State.runFrom_of_undefined (h : s.step g = .undefined) :
    s.runFrom g r limit store cursor log =
      ⟨s, store, log, .error (.undefinedToken s.active)⟩ := by
  rw [runFrom]
  simp only [h]

/-- A run stops where no rule matches. -/
theorem State.runFrom_of_stuck (h : s.step g = .stuck) :
    s.runFrom g r limit store cursor log = ⟨s, store, log, .error (.mismatch s.mismatch)⟩ := by
  rw [runFrom]
  simp only [h]

/-- A run that may make no match stops in front of the first one. -/
theorem State.runFrom_zero_of_matched (h : s.step g = .matched m next) :
    s.runFrom g r 0 store cursor log = ⟨s, store, log, .error .tooManyMatches⟩ := by
  rw [runFrom]
  simp only [h]

/-- A run drops a match that makes no token. -/
theorem State.runFrom_succ_of_dropped (h : s.step g = .matched m next) (ht : m.token? = none) :
    s.runFrom g r (limit + 1) store cursor log =
      next.runFrom g r limit store cursor (log.push (.matched m next.position)) := by
  rw [runFrom]
  simp only [h, ht]

/-- A run goes on behind a token that is accepted. -/
theorem State.runFrom_succ_of_accepted (h : s.step g = .matched m next)
    (ht : m.token? = some token) (hr : r.reduce store cursor token = (store', .ok cursor')) :
    s.runFrom g r (limit + 1) store cursor log =
      next.runFrom g r limit store' cursor' (log.push (.matched m next.position)) := by
  rw [runFrom]
  simp only [h, ht, hr]

/-- A run stops behind a token that is rejected. -/
theorem State.runFrom_succ_of_rejected {e : ε} (h : s.step g = .matched m next)
    (ht : m.token? = some token) (hr : r.reduce store cursor token = (store', .error e)) :
    s.runFrom g r (limit + 1) store cursor log =
      ⟨next, store', log.push (.matched m next.position), .error (.reduction token.name e)⟩ := by
  rw [runFrom]
  simp only [h, ht, hr]

/-- What a run with a bound leaves is decided by its first tokens. If they are accepted, it stops as
it does without a reduction, and otherwise the first rejection stops it. -/
theorem State.runFrom_cases (g : Grammar) (r : Reduction σ γ ε) (limit : Nat) (s : State)
    (store : σ) (cursor : γ) (log log' : Array LogEvent) :
    (∃ cursor', r.feed store cursor (s.firstTokens g limit) =
          ((s.runFrom g r limit store cursor log).store, .ok cursor') ∧
        verdict (s.runFrom g r limit store cursor log).outcome =
          verdict (s.runFrom g .idle limit () () log').outcome) ∨
      ∃ name e, r.feed store cursor (s.firstTokens g limit) =
          ((s.runFrom g r limit store cursor log).store, .error (name, e)) ∧
        (s.runFrom g r limit store cursor log).outcome = .error (.reduction name e) := by
  induction limit generalizing s store cursor log log' with
  | zero =>
    -- No token is fed, and whether the bound is hit is up to the next step alone.
    refine .inl ⟨cursor, ?_, ?_⟩
    · rw [runFrom]
      split <;> rfl
    · rw [runFrom, runFrom]
      cases s.step g <;> simp [LexError.map]
  | succ limit ih =>
    cases hs : s.step g with
    | matched m next =>
      cases ht : m.token? with
      | none =>
        rw [runFrom_succ_of_dropped hs ht, runFrom_succ_of_dropped hs ht,
          firstTokens_of_dropped hs ht]
        exact ih next store cursor _ _
      | some token =>
        rw [firstTokens_of_produced hs ht, Reduction.feed]
        rcases hr : r.reduce store cursor token with ⟨store₁, e | cursor₁⟩
        · -- The first token is rejected. What the run without a reduction does no longer matters.
          rw [runFrom_succ_of_rejected hs ht hr]
          exact .inr ⟨token.name, e, rfl, rfl⟩
        · have hidle : Reduction.idle.reduce () () token = ((), .ok ()) := rfl
          rw [runFrom_succ_of_accepted hs ht hr, runFrom_succ_of_accepted hs ht hidle]
          exact ih next store₁ cursor₁ _ _
    | _ =>
      rw [runFrom, runFrom, firstTokens_of_halts (by simp [Halts, hs])]
      exact .inl ⟨cursor, by simp only [hs, Reduction.feed], by simp [hs, LexError.map]⟩

/-- So a run with a bound leaves the store to which its first tokens lead. -/
theorem State.runFrom_store (g : Grammar) (r : Reduction σ γ ε) (limit : Nat) (s : State)
    (store : σ) (cursor : γ) (log : Array LogEvent) :
    (s.runFrom g r limit store cursor log).store =
      (r.feed store cursor (s.firstTokens g limit)).1 := by
  rcases s.runFrom_cases g r limit store cursor log log with ⟨_, hfeed, -⟩ | ⟨_, _, hfeed, -⟩
  · rw [hfeed]
  · rw [hfeed]

/-- If one of its first tokens is rejected, that stops it. -/
theorem State.runFrom_outcome_of_error {name : String} {e : ε}
    (h : r.feed store cursor (s.firstTokens g limit) = (store', .error (name, e))) :
    (s.runFrom g r limit store cursor log).outcome = .error (.reduction name e) := by
  rcases s.runFrom_cases g r limit store cursor log log with
    ⟨_, hfeed, -⟩ | ⟨name', e', hfeed, hout⟩
  · exact absurd (hfeed.symm.trans h) (by simp)
  · obtain ⟨-, he⟩ := Prod.mk.inj (hfeed.symm.trans h)
    obtain ⟨rfl, rfl⟩ := Prod.mk.inj (Except.error.inj he)
    exact hout

/-- If none of them is rejected, it stops as it does without a reduction. -/
theorem State.runFrom_verdict_of_ok (log' : Array LogEvent)
    (h : r.feed store cursor (s.firstTokens g limit) = (store', .ok cursor')) :
    verdict (s.runFrom g r limit store cursor log).outcome =
      verdict (s.runFrom g .idle limit () () log').outcome := by
  rcases s.runFrom_cases g r limit store cursor log log' with ⟨_, -, hverdict⟩ | ⟨_, _, hfeed, -⟩
  · exact hverdict
  · exact absurd (hfeed.symm.trans h) (by simp)

/-! ## Runs without a bound -/

/-- A run without a bound ends exactly if it keeps to some bound. -/
theorem State.exists_ends_iff :
    (∃ n res, s.Ends g r store n res) ↔
      ∃ limit, verdict (s.run g r limit store).outcome ≠ .error .tooManyMatches := by
  simp only [ne_eq, verdict_eq_tooManyMatches_iff]
  constructor
  · rintro ⟨n, res, h⟩
    have hrun : s.run g r n store = res := h.runFrom_eq (Nat.le_refl n)
    exact ⟨n, by rw [hrun]; exact h.outcome_ne⟩
  · rintro ⟨limit, h⟩
    obtain ⟨n, -, hruns⟩ := runs_of_runFrom h
    exact ⟨n, _, hruns⟩

/-- A run that succeeds returns the root of its reduction. -/
theorem Runs.root_eq {n : Nat} {res : RunResult σ γ ε} {root : γ}
    (h : Runs g r n s store cursor log res) (hok : res.outcome = .ok root) : root = r.root := by
  induction h with
  | finished => exact (Except.ok.inj hok).symm
  | dropped _ _ _ ih => exact ih hok
  | reduced _ _ _ _ ih => exact ih hok
  | _ => exact absurd hok (by simp)

/-- What holds between two matches of the state, the store and the cursor, if every match keeps it
whose token, if it makes one, is accepted. -/
structure Kept (g : Grammar) (r : Reduction σ γ ε) (I : State → σ → γ → Prop) : Prop where
  dropped : ∀ {s store cursor m next}, I s store cursor → s.step g = .matched m next →
    m.token? = none → I next store cursor
  accepted : ∀ {s store cursor m next token store' cursor'}, I s store cursor →
    s.step g = .matched m next → m.token? = some token →
    r.reduce store cursor token = (store', .ok cursor') → I next store' cursor'

/-- It holds in front of every call of a run. It also holds in the end, unless the last call rejects
its token. -/
theorem Runs.kept {I : State → σ → γ → Prop} (hI : Kept g r I) {n : Nat} {res : RunResult σ γ ε}
    (h : Runs g r n s store cursor log res) (hs : I s store cursor)
    (before : List (Call σ γ)) :
    ∃ calls, Runs g r.recording n s (store, before) cursor log
        ⟨res.state, (res.store, before ++ calls), res.log, res.outcome⟩ ∧
      (∀ call ∈ calls, ∃ t m next, I t call.store call.cursor ∧ t.step g = .matched m next ∧
        m.token? = some call.token) ∧
      ((∃ cursor', I res.state res.store cursor' ∧ res.state.ending g r.root = some res.outcome) ∨
        ∃ call ∈ calls, ∃ e, r.reduce call.store call.cursor call.token = (res.store, .error e) ∧
          res.outcome = .error (.reduction call.token.name e)) := by
  -- Where the run halts there are no calls, and what holds at first still holds.
  induction h generalizing before with
  | @finished s store cursor log h =>
    refine ⟨[], by simpa using .finished h, by simp, .inl ⟨cursor, hs, ?_⟩⟩
    simp [State.ending, h]
  | @undefined s store cursor log h =>
    refine ⟨[], by simpa using .undefined h, by simp, .inl ⟨cursor, hs, ?_⟩⟩
    simp [State.ending, h]
  | @stuck s store cursor log h =>
    refine ⟨[], by simpa using .stuck h, by simp, .inl ⟨cursor, hs, ?_⟩⟩
    simp [State.ending, h]
  | dropped h ht _ ih =>
    obtain ⟨calls, hruns, hcalls, hend⟩ := ih (hI.dropped hs h ht) before
    exact ⟨calls, .dropped h ht hruns, hcalls, hend⟩
  | @reduced n s m next token store cursor store' cursor' log res h ht hr _ ih =>
    obtain ⟨calls, hruns, hcalls, hend⟩ :=
      ih (hI.accepted hs h ht hr) (before ++ [⟨store, cursor, token⟩])
    have hrecording : r.recording.reduce (store, before) cursor token =
        ((store', before ++ [⟨store, cursor, token⟩]), .ok cursor') := by
      simp [Reduction.recording, hr]
    refine ⟨⟨store, cursor, token⟩ :: calls, ?_, ?_, ?_⟩
    · exact .reduced h ht hrecording (by simpa using hruns)
    · exact List.forall_mem_cons.2 ⟨⟨s, m, next, hs, h, ht⟩, hcalls⟩
    · rcases hend with hend | ⟨call, hmem, hrejects⟩
      · exact .inl hend
      · exact .inr ⟨call, List.mem_cons_of_mem _ hmem, hrejects⟩
  | @rejected s m next token store cursor store' e log h ht hr =>
    have hrecording : r.recording.reduce (store, before) cursor token =
        ((store', before ++ [⟨store, cursor, token⟩]), .error e) := by
      simp [Reduction.recording, hr]
    refine ⟨[⟨store, cursor, token⟩], .rejected h ht hrecording, ?_, ?_⟩
    · exact List.forall_mem_singleton.2 ⟨s, m, next, hs, h, ht⟩
    · exact .inr ⟨_, List.mem_singleton_self _, e, hr, rfl⟩

end ModalLexer
