import Mathlib.Data.Seq.Basic
import ModalLexer.Proofs.Fold

/-!
# All tokens of a text

A lexer that is not stopped by its reduction makes a list of tokens, which has no end if the lexer
does not halt and keeps making tokens. `State.tokens` is this list. It is put together from the
tokens that are made up to some number of matches, of which more matches only make more
(`State.firstTokens_isPrefix`), so it does not mention a reduction.

Every run is a fold over this list (`runs_fold_tokens`): the calls that the run makes are those of
the fold, one after the other, and either the first token that the fold rejects stops the run, or
the run stops as it does without a reduction, if it stops at all.
-/

namespace ModalLexer

variable {σ γ ε : Type} {g : Grammar} {s : State} {store store' : σ} {cursor cursor' : γ}
  {limit limit' : ℕ}

/-! ## The list of all tokens -/

/-- More matches begin with fewer. -/
theorem State.firstMatches_isPrefix (s : State) (h : limit ≤ limit') :
    s.firstMatches g limit <+: s.firstMatches g limit' := by
  induction limit generalizing s limit' with
  | zero => exact List.nil_prefix
  | succ limit ih =>
    obtain ⟨limit', rfl⟩ := Nat.exists_eq_add_one_of_ne_zero (Nat.ne_zero_of_lt h)
    unfold firstMatches
    split
    · next m next hs => exact List.cons_prefix_cons.2 ⟨rfl, ih next (Nat.le_of_succ_le_succ h)⟩
    · exact List.nil_prefix

/-- The tokens of more matches begin with those of fewer. -/
theorem State.firstTokens_isPrefix (s : State) (h : limit ≤ limit') :
    s.firstTokens g limit <+: s.firstTokens g limit' :=
  (s.firstMatches_isPrefix h).filterMap Match.token?

/-- A place that is taken within two numbers of matches is taken by the same token. -/
theorem State.getElem?_firstTokens {i : ℕ} (hi : i < (s.firstTokens g limit).length)
    (hi' : i < (s.firstTokens g limit').length) :
    (s.firstTokens g limit)[i]? = (s.firstTokens g limit')[i]? := by
  rcases Nat.le_total limit limit' with hle | hle
  · obtain ⟨more, hmore⟩ := s.firstTokens_isPrefix (g := g) hle
    rw [← hmore, List.getElem?_append_left hi]
  · obtain ⟨more, hmore⟩ := s.firstTokens_isPrefix (g := g) hle
    rw [← hmore, List.getElem?_append_left hi']

open Classical in
/-- The token at a place, as soon as there have been matches enough for one. -/
noncomputable def State.token? (g : Grammar) (s : State) (i : ℕ) : Option Token :=
  if h : ∃ limit, i < (s.firstTokens g limit).length then (s.firstTokens g h.choose)[i]? else none

/-- It is found within every number of matches that is large enough. -/
theorem State.token?_eq {i : ℕ} (hi : i < (s.firstTokens g limit).length) :
    s.token? g i = (s.firstTokens g limit)[i]? := by
  have h : ∃ limit, i < (s.firstTokens g limit).length := ⟨limit, hi⟩
  rw [token?, dif_pos h]
  exact getElem?_firstTokens h.choose_spec hi

/-- There is none exactly if no number of matches makes that many tokens. -/
theorem State.token?_eq_none_iff {i : ℕ} :
    s.token? g i = none ↔ ∀ limit, (s.firstTokens g limit).length ≤ i := by
  constructor
  · intro h limit
    by_contra hlt
    have hi : i < (s.firstTokens g limit).length := by omega
    rw [token?_eq hi, List.getElem?_eq_getElem hi] at h
    exact absurd h (by simp)
  · intro h
    rw [token?, dif_neg]
    rintro ⟨limit, hlt⟩
    exact absurd (h limit) (by omega)

/-- All tokens that a lexer makes from a state on if none of them is rejected. The list has no end
if the lexer goes on for ever and does not stop making tokens. -/
noncomputable def State.tokens (g : Grammar) (s : State) : Stream'.Seq Token where
  val := s.token? g
  property hi :=
    token?_eq_none_iff.2 fun limit => (token?_eq_none_iff.1 hi limit).trans (Nat.le_succ _)

/-- They are the tokens that are made within some number of matches. -/
theorem State.get?_tokens {i : ℕ} {token : Token} :
    (s.tokens g).get? i = some token ↔ ∃ limit, (s.firstTokens g limit)[i]? = some token := by
  have hget : (s.tokens g).get? i = s.token? g i := rfl
  rw [hget]
  constructor
  · intro h
    have hnone : ¬ ∀ limit, (s.firstTokens g limit).length ≤ i := by
      rw [← token?_eq_none_iff, h]
      simp
    obtain ⟨limit, hi⟩ := not_forall.1 hnone
    exact ⟨limit, token?_eq (Nat.lt_of_not_le hi) ▸ h⟩
  · rintro ⟨limit, h⟩
    obtain ⟨hi, -⟩ := List.getElem?_eq_some_iff.1 h
    rw [token?_eq hi, h]

/-- So those within one number of matches, in front of their end, are found at their places. -/
theorem State.get?_tokens_of_lt {i : ℕ} (hi : i < (s.firstTokens g limit).length) :
    (s.tokens g).get? i = (s.firstTokens g limit)[i]? :=
  token?_eq hi

/-- The tokens of the first matches are the first ones of all. -/
theorem State.take_tokens (s : State) (limit : ℕ) :
    (s.tokens g).take (s.firstTokens g limit).length = s.firstTokens g limit := by
  refine List.ext_getElem? fun i => ?_
  rw [Stream'.Seq.getElem?_take]
  split
  · next hi => exact get?_tokens_of_lt hi
  · next hi => rw [List.getElem?_eq_none (Nat.le_of_not_lt hi)]

/-- The first ones of all tokens are made within some number of matches. -/
theorem State.exists_take_tokens_isPrefix (s : State) (k : ℕ) :
    ∃ limit, (s.tokens g).take k <+: s.firstTokens g limit := by
  induction k with
  | zero => exact ⟨0, List.nil_prefix⟩
  | succ k ih =>
    cases h : (s.tokens g).get? k with
    | none =>
      -- There are no more tokens than before.
      obtain ⟨limit, hlimit⟩ := ih
      have htake : (s.tokens g).take (k + 1) = (s.tokens g).take k := by
        refine List.ext_getElem? fun i => ?_
        rw [Stream'.Seq.getElem?_take, Stream'.Seq.getElem?_take]
        by_cases hi : i < k
        · rw [if_pos hi, if_pos (by omega)]
        · rw [if_neg hi, (s.tokens g).le_stable (Nat.le_of_not_lt hi) h, ite_self]
      exact ⟨limit, htake ▸ hlimit⟩
    | some token =>
      obtain ⟨limit, hlimit⟩ := get?_tokens.1 h
      obtain ⟨hlt, -⟩ := List.getElem?_eq_some_iff.1 hlimit
      have hprefix : (s.tokens g).take (k + 1) = (s.firstTokens g limit).take (k + 1) := by
        refine List.ext_getElem? fun i => ?_
        rw [Stream'.Seq.getElem?_take, List.getElem?_take]
        split
        · next hi =>
          exact get?_tokens_of_lt (by omega)
        · rfl
      exact ⟨limit, hprefix ▸ List.take_prefix _ _⟩

/-! ## Runs -/

variable {r : Reduction σ γ ε} {start : String} {input : Text}

/-- The calls that a run makes from the start of a text within a number of matches. -/
def callsWithin (g : Grammar) (start : String) (input : Text) (r : Reduction σ γ ε) (limit : ℕ)
    (store : σ) : List (Call σ γ) :=
  (parse g start input r.recording limit (store, [])).store.2

/-- They are the calls that the first tokens take. -/
theorem callsWithin_eq (g : Grammar) (start : String) (input : Text) (r : Reduction σ γ ε)
    (limit : ℕ) (store : σ) :
    callsWithin g start input r limit store =
      r.calls store r.root ((State.fresh start input).firstTokens g limit) := by
  unfold callsWithin parse State.run
  rw [State.runFrom_store, Reduction.recording_feed, List.nil_append]
  rfl

/-- Calls for more tokens begin with those for fewer. -/
theorem Reduction.calls_isPrefix (store : σ) (cursor : γ) {tokens tokens' : List Token}
    (h : tokens <+: tokens') : r.calls store cursor tokens <+: r.calls store cursor tokens' := by
  induction tokens generalizing store cursor tokens' with
  | nil => exact List.nil_prefix
  | cons token tokens ih =>
    obtain ⟨more, rfl⟩ := h
    rw [List.cons_append]
    unfold Reduction.calls
    refine List.cons_prefix_cons.2 ⟨rfl, ?_⟩
    split
    · exact ih _ _ (List.prefix_append tokens more)
    · exact List.nil_prefix

/-- A call is made within some number of matches exactly if the fold over some number of tokens
makes it. -/
theorem exists_callsWithin_iff {i : ℕ} {call : Call σ γ} :
    (∃ limit, (callsWithin g start input r limit store)[i]? = some call) ↔
      ∃ k, (r.calls store r.root (((State.fresh start input).tokens g).take k))[i]? =
        some call := by
  constructor
  · rintro ⟨limit, h⟩
    rw [callsWithin_eq, ← State.take_tokens] at h
    exact ⟨_, h⟩
  · rintro ⟨k, h⟩
    obtain ⟨limit, hlimit⟩ := (State.fresh start input).exists_take_tokens_isPrefix (g := g) k
    obtain ⟨more, hmore⟩ := Reduction.calls_isPrefix (r := r) store r.root hlimit
    obtain ⟨hi, -⟩ := List.getElem?_eq_some_iff.1 h
    refine ⟨limit, ?_⟩
    rw [callsWithin_eq, ← hmore, List.getElem?_append_left hi, h]

/-- Where a lexer halts behind a path, no number of matches makes more than the path. -/
theorem Path.firstMatches_eq {ms : List Match} {t : State} (h : Path g s ms t) (ht : t.Halts g)
    (hle : ms.length ≤ limit) : s.firstMatches g limit = ms := by
  induction h generalizing limit with
  | nil s => exact State.firstMatches_of_halts ht
  | cons hstep _ ih =>
    obtain ⟨limit, rfl⟩ := Nat.exists_eq_add_one_of_ne_zero (Nat.ne_zero_of_lt hle)
    simp only [State.firstMatches, hstep, ih ht (Nat.le_of_succ_le_succ hle)]

/-- So its tokens are those that any number of matches makes from there on. -/
theorem Path.firstTokens_eq {ms : List Match} {t : State} (h : Path g s ms t) (ht : t.Halts g)
    (hle : ms.length ≤ limit) : s.firstTokens g limit = tokensOf ms := by
  rw [State.firstTokens, h.firstMatches_eq ht hle]

/-- And they are all tokens. -/
theorem Path.tokens_eq {ms : List Match} {t : State} (h : Path g s ms t) (ht : t.Halts g) :
    s.tokens g = .ofList (tokensOf ms) := by
  refine Stream'.Seq.ext fun i => Option.ext fun token => ?_
  rw [State.get?_tokens, Stream'.Seq.ofList_get?]
  constructor
  · rintro ⟨limit, hlimit⟩
    obtain ⟨more, hmore⟩ := s.firstTokens_isPrefix (g := g) (Nat.le_max_left limit ms.length)
    obtain ⟨hi, -⟩ := List.getElem?_eq_some_iff.1 hlimit
    rw [← h.firstTokens_eq ht (Nat.le_max_right limit ms.length), ← hmore,
      List.getElem?_append_left hi, hlimit]
  · intro htoken
    exact ⟨ms.length, by rw [h.firstTokens_eq ht le_rfl, htoken]⟩

section

variable {e : ε} {name : String} {n : ℕ} {res : RunResult σ γ ε}

/-- If the fold rejects a token, the run ends there. -/
theorem State.exists_ends_of_feed_error {k : ℕ}
    (h : r.feed store r.root ((s.tokens g).take k) = (store', .error (name, e))) :
    ∃ n res, s.Ends g r store n res ∧ res.outcome = .error (.reduction name e) ∧
      res.store = store' := by
  obtain ⟨limit, more, hmore⟩ := s.exists_take_tokens_isPrefix (g := g) k
  have hfeed : r.feed store r.root (s.firstTokens g limit) = (store', .error (name, e)) := by
    rw [← hmore, Reduction.feed_append_of_error h]
  have hout : (s.run g r limit store).outcome = .error (.reduction name e) :=
    State.runFrom_outcome_of_error hfeed
  have hstore : (s.run g r limit store).store = store' := by
    rw [State.run, State.runFrom_store, hfeed]
  have hmiss : (s.run g r limit store).outcome ≠ .error .tooManyMatches := by
    rw [hout]
    simp
  obtain ⟨n, -, hruns⟩ := runs_of_runFrom hmiss
  exact ⟨n, _, hruns, hout, hstore⟩

/-- If the fold rejects nothing, a run with a bound stops as it does without a reduction. -/
theorem State.run_verdict_of_feed_ok
    (h : ∀ k, ∃ store' cursor, r.feed store r.root ((s.tokens g).take k) = (store', .ok cursor))
    (limit : ℕ) :
    verdict (s.run g r limit store).outcome = verdict (s.run g .idle limit ()).outcome := by
  obtain ⟨store', cursor, hfeed⟩ := h (s.firstTokens g limit).length
  rw [take_tokens] at hfeed
  exact runFrom_verdict_of_ok _ hfeed

/-- And a run without a bound does so if it ends. It has then taken all tokens. -/
theorem State.Ends.of_feed_ok (hends : s.Ends g r store n res)
    (h : ∀ k, ∃ store' cursor, r.feed store r.root ((s.tokens g).take k) = (store', .ok cursor)) :
    ∃ n' res', s.Ends g .idle () n' res' ∧ verdict res.outcome = verdict res'.outcome ∧
      ∃ tokens cursor, s.tokens g = .ofList tokens ∧
        r.feed store r.root tokens = (res.store, .ok cursor) := by
  have hrun : s.run g r n store = res := hends.runFrom_eq le_rfl
  have hverdict : verdict res.outcome = verdict (s.run g .idle n ()).outcome := by
    rw [← hrun, run_verdict_of_feed_ok h]
  -- The run without a reduction keeps to the same bound, so it ends, and the tokens of its path
  -- are all that there are.
  have hmiss : (s.run g .idle n ()).outcome ≠ .error .tooManyMatches := by
    intro hhit
    refine hends.outcome_ne (verdict_eq_tooManyMatches_iff.1 ?_)
    rw [hverdict, verdict_eq_tooManyMatches_iff.2 hhit]
  obtain ⟨n', hn', hidle⟩ := runs_of_runFrom hmiss
  obtain ⟨ms, rfl, hpath, -, hend⟩ := hidle.exists_path_of_accepts (Reduction.total_accepts _ _)
  have hhalts := State.halts_iff_ending.2 ⟨_, hend⟩
  obtain ⟨store', cursor, hfeed⟩ := h (s.firstTokens g n).length
  rw [take_tokens, hpath.firstTokens_eq hhalts hn'] at hfeed
  have hstore : res.store = store' := by
    rw [← hrun, State.run, runFrom_store, hpath.firstTokens_eq hhalts hn', hfeed]
  exact ⟨_, _, hidle, hverdict, _, cursor, hpath.tokens_eq hhalts, hstore ▸ hfeed⟩

end

/-- A run is a fold over a list of tokens that does not depend on its reduction. There is one list
`T`, with an end or without, for all runs from a name on over a text.

It is what a reduction that rejects nothing is called with. And whatever a reduction does, the calls
that its run makes are those of the fold over `T`, in which each call is given the cursor that the
one before returned. If the fold rejects a token, the run ends there, with the name of the token and
the error of the reduction. If it rejects none, the run ends as one without a reduction does, if
that one ends; it returns the root, and the store to which all tokens of `T` lead. -/
theorem runs_fold_tokens (g : Grammar) (start : String) (input : Text) :
    ∃ T : Stream'.Seq Token,
      (∀ {σ γ ε : Type} (r : Reduction σ γ ε) (store : σ), r.Accepts →
        ∀ (i : ℕ) (token : Token), T.get? i = some token ↔
          ∃ limit, ((callsWithin g start input r limit store).map Call.token)[i]? = some token) ∧
      ∀ {σ γ ε : Type} (r : Reduction σ γ ε) (store : σ),
        (∀ (i : ℕ) (call : Call σ γ),
          (∃ limit, (callsWithin g start input r limit store)[i]? = some call) ↔
            ∃ k, (r.calls store r.root (T.take k))[i]? = some call) ∧
        (∀ k store' name e, r.feed store r.root (T.take k) = (store', .error (name, e)) →
          ∃ n res, (State.fresh start input).Ends g r store n res ∧
            res.outcome = .error (.reduction name e) ∧ res.store = store') ∧
        ((∀ k, ∃ store' cursor, r.feed store r.root (T.take k) = (store', .ok cursor)) →
          ((∃ n res, (State.fresh start input).Ends g r store n res) ↔
            ∃ n res, (State.fresh start input).Ends g .idle () n res) ∧
          ∀ n res, (State.fresh start input).Ends g r store n res →
            (∃ n' res', (State.fresh start input).Ends g .idle () n' res' ∧
              verdict res.outcome = verdict res'.outcome) ∧
            (∀ root, res.outcome = .ok root → root = r.root) ∧
            ∃ tokens cursor, T = .ofList tokens ∧
              r.feed store r.root tokens = (res.store, .ok cursor)) := by
  refine ⟨(State.fresh start input).tokens g, ?_, ?_⟩
  · intro σ γ ε r store hr i token
    rw [State.get?_tokens]
    refine exists_congr fun limit => ?_
    obtain ⟨store', cursor, hfeed⟩ :=
      hr.feed_eq store r.root ((State.fresh start input).firstTokens g limit)
    rw [callsWithin_eq, Reduction.map_token_calls hfeed]
  · intro σ γ ε r store
    refine ⟨fun i call => exists_callsWithin_iff, ?_, ?_⟩
    · intro k store' name e h
      exact State.exists_ends_of_feed_error h
    · intro h
      refine ⟨?_, ?_⟩
      · simp only [State.exists_ends_iff, State.run_verdict_of_feed_ok h]
      · intro n res hends
        obtain ⟨n', res', hidle, hverdict, hall⟩ := hends.of_feed_ok h
        exact ⟨⟨n', res', hidle, hverdict⟩, fun root => Runs.root_eq hends, hall⟩

end ModalLexer
