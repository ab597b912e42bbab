import ModalLexer.Lexer.Run
import ModalLexer.Proofs.Path

/-!
# Runs without a bound

`Runs` is the loop of a lexer as a relation: a run goes on behind every match until it halts or a
token is rejected, however many matches that takes. `State.runFrom` is the same loop with a bound on
the matches. The two agree: a run of `n` matches is what the loop leaves for every bound from `n` on
(`Runs.runFrom_eq`), a smaller bound is hit (`Runs.runFrom_hits`), and a bound that is not hit cuts
nothing off (`runs_of_runFrom`).

Where no token is rejected, a run is a path to a state that halts, together with the tokens of the
path handed over in order (`Runs.exists_path`, `Path.runs`). What is handed over is observed by
`Reduction.noting`, which writes every token down and changes nothing else.
-/

namespace ModalLexer

variable {σ γ ε : Type}

/-! ## Reductions -/

namespace Reduction

/-- No token is ever rejected. -/
def Accepts (r : Reduction σ γ ε) : Prop :=
  ∀ store cursor token, ∃ next, (r.reduce store cursor token).2 = .ok next

/-- Hands tokens over in turn, each at the cursor that the one before returned, up to the first one
that is rejected. -/
def feed (r : Reduction σ γ ε) : σ → γ → List Token → σ × Except (String × ε) γ
  | store, cursor, [] => (store, .ok cursor)
  | store, cursor, token :: tokens =>
    match r.reduce store cursor token with
    | (store, .ok cursor) => r.feed store cursor tokens
    | (store, .error e) => (store, .error (token.name, e))

/-- The reduction that also notes every token that it is handed, behind those noted before. -/
def noting (r : Reduction σ γ ε) : Reduction (σ × List Token) γ ε where
  root := r.root
  reduce store cursor token :=
    (((r.reduce store.1 cursor token).1, store.2 ++ [token]), (r.reduce store.1 cursor token).2)

/-- A reduction that rejects nothing returns a new store and a new cursor. -/
theorem Accepts.reduce_eq {r : Reduction σ γ ε} (h : r.Accepts) (store : σ) (cursor : γ)
    (token : Token) : ∃ store' cursor', r.reduce store cursor token = (store', .ok cursor') := by
  obtain ⟨next, hnext⟩ := h store cursor token
  exact ⟨_, next, Prod.ext rfl hnext⟩

/-- Tokens that are handed to a reduction that rejects nothing are all accepted. -/
theorem Accepts.feed_eq {r : Reduction σ γ ε} (h : r.Accepts) (store : σ) (cursor : γ)
    (tokens : List Token) :
    ∃ store' cursor', r.feed store cursor tokens = (store', .ok cursor') := by
  induction tokens generalizing store cursor with
  | nil => exact ⟨store, cursor, rfl⟩
  | cons token tokens ih =>
    obtain ⟨store₁, cursor₁, hred⟩ := h.reduce_eq store cursor token
    obtain ⟨store', cursor', hfeed⟩ := ih store₁ cursor₁
    exact ⟨store', cursor', by simp only [feed, hred, hfeed]⟩

/-- A reduction that is total rejects nothing. -/
theorem total_accepts (root : γ) (reduce : σ → γ → Token → σ × γ) : (total root reduce).Accepts :=
  fun store cursor token => ⟨(reduce store cursor token).2, rfl⟩

/-- Noting tokens rejects none. -/
theorem Accepts.noting {r : Reduction σ γ ε} (h : r.Accepts) : r.noting.Accepts :=
  fun store cursor token => h store.1 cursor token

/-- What is noted of tokens that are accepted is the tokens. -/
theorem noting_feed_of_ok {r : Reduction σ γ ε} {store : σ} {cursor cursor' : γ}
    {notes tokens : List Token} {store' : σ × List Token}
    (h : r.noting.feed (store, notes) cursor tokens = (store', .ok cursor')) :
    store'.2 = notes ++ tokens := by
  induction tokens generalizing store notes cursor with
  | nil =>
    obtain ⟨rfl, -⟩ := Prod.mk.inj h
    simp
  | cons token tokens ih =>
    simp only [feed] at h
    split at h
    · next store₁ cursor₁ hr =>
      obtain ⟨rfl, -⟩ := Prod.mk.inj hr
      rw [ih h, List.append_assoc, List.singleton_append]
    · exact absurd h (by simp)

end Reduction

/-! ## The loop as a relation -/

/-- `Runs g r n s store cursor log res`: from the state `s`, with the next token to attach at
`cursor`, the lexer makes `n` matches and ends with `res`. -/
inductive Runs (g : Grammar) (r : Reduction σ γ ε) :
    Nat → State → σ → γ → Array LogEvent → RunResult σ γ ε → Prop
  /-- The text is at its end. -/
  | finished {s store cursor log} (h : s.step g = .finished) :
    Runs g r 0 s store cursor log ⟨s, store, log.push (.finished s.position), .ok r.root⟩
  /-- The active name has no context. -/
  | undefined {s store cursor log} (h : s.step g = .undefined) :
    Runs g r 0 s store cursor log ⟨s, store, log, .error (.undefinedToken s.active)⟩
  /-- No rule matches. -/
  | stuck {s store cursor log} (h : s.step g = .stuck) :
    Runs g r 0 s store cursor log ⟨s, store, log, .error (.mismatch s.mismatch)⟩
  /-- A match that makes no token. -/
  | dropped {n s m next store cursor log res} (h : s.step g = .matched m next)
    (ht : m.token? = none)
    (hrest : Runs g r n next store cursor (log.push (.matched m next.position)) res) :
    Runs g r (n + 1) s store cursor log res
  /-- A match whose token is accepted. -/
  | reduced {n s m next token store cursor store' cursor' log res}
    (h : s.step g = .matched m next) (ht : m.token? = some token)
    (hr : r.reduce store cursor token = (store', .ok cursor'))
    (hrest : Runs g r n next store' cursor' (log.push (.matched m next.position)) res) :
    Runs g r (n + 1) s store cursor log res
  /-- A match whose token is rejected. -/
  | rejected {s m next token store cursor store' e log} (h : s.step g = .matched m next)
    (ht : m.token? = some token) (hr : r.reduce store cursor token = (store', .error e)) :
    Runs g r 1 s store cursor log
      ⟨next, store', log.push (.matched m next.position), .error (.reduction token.name e)⟩

/-- The state in which a lexer begins. -/
def State.fresh (start : String) (input : Text) : State where
  active := start
  rest := input

/-- A run from the state `s` makes `n` matches and ends with `res`. -/
def State.Ends (g : Grammar) (r : Reduction σ γ ε) (store : σ) (s : State) (n : Nat)
    (res : RunResult σ γ ε) : Prop :=
  Runs g r n s store r.root #[.started s.active (byteCount s.rest)] res

/-- A run from the state `s` makes `n` matches and ends with `res`, and it hands its reduction the
tokens `calls`, in this order and no others. -/
def State.EndsCalling (g : Grammar) (r : Reduction σ γ ε) (store : σ) (s : State) (n : Nat)
    (calls : List Token) (res : RunResult σ γ ε) : Prop :=
  s.Ends g r store n res ∧
    s.Ends g r.noting (store, []) n ⟨res.state, (res.store, calls), res.log, res.outcome⟩

variable {g : Grammar} {r : Reduction σ γ ε} {s t : State} {ms : List Match} {store : σ}
  {cursor : γ} {log : Array LogEvent} {res : RunResult σ γ ε} {n limit : Nat}

/-! ## The loop with a bound -/

/-- A run ends as the loop does under every bound that it keeps to. -/
theorem Runs.runFrom_eq (h : Runs g r n s store cursor log res) (hle : n ≤ limit) :
    s.runFrom g r limit store cursor log = res := by
  induction h generalizing limit with
  | finished h => rw [State.runFrom]; simp only [h]
  | undefined h => rw [State.runFrom]; simp only [h]
  | stuck h => rw [State.runFrom]; simp only [h]
  | dropped h ht _ ih =>
    obtain ⟨limit, rfl⟩ := Nat.exists_eq_add_one_of_ne_zero (Nat.ne_zero_of_lt hle)
    rw [State.runFrom]
    simp only [h, ht]
    exact ih (Nat.le_of_succ_le_succ hle)
  | reduced h ht hr _ ih =>
    obtain ⟨limit, rfl⟩ := Nat.exists_eq_add_one_of_ne_zero (Nat.ne_zero_of_lt hle)
    rw [State.runFrom]
    simp only [h, ht, hr]
    exact ih (Nat.le_of_succ_le_succ hle)
  | rejected h ht hr =>
    obtain ⟨limit, rfl⟩ := Nat.exists_eq_add_one_of_ne_zero (Nat.ne_zero_of_lt hle)
    rw [State.runFrom]
    simp only [h, ht, hr]

/-- In particular, a run from a state is what the run with such a bound leaves. -/
theorem State.Ends.run_eq (h : s.Ends g r store n res) (hle : n ≤ limit) :
    s.run g r limit store = res :=
  h.runFrom_eq hle

/-- A run hits every bound below the number of its matches. -/
theorem Runs.runFrom_hits (h : Runs g r n s store cursor log res) (hlt : limit < n) :
    (s.runFrom g r limit store cursor log).outcome = .error .tooManyMatches := by
  induction h generalizing limit with
  | finished => exact absurd hlt (Nat.not_lt_zero _)
  | undefined => exact absurd hlt (Nat.not_lt_zero _)
  | stuck => exact absurd hlt (Nat.not_lt_zero _)
  | dropped h ht _ ih =>
    rw [State.runFrom]
    simp only [h, ht]
    cases limit with
    | zero => rfl
    | succ limit => exact ih (Nat.lt_of_succ_lt_succ hlt)
  | reduced h ht hr _ ih =>
    rw [State.runFrom]
    simp only [h, ht]
    cases limit with
    | zero => rfl
    | succ limit =>
      simp only [hr]
      exact ih (Nat.lt_of_succ_lt_succ hlt)
  | rejected h =>
    obtain rfl : limit = 0 := Nat.lt_one_iff.1 hlt
    rw [State.runFrom]
    simp only [h]

/-- No run ends because of a bound. -/
theorem Runs.outcome_ne (h : Runs g r n s store cursor log res) :
    res.outcome ≠ .error .tooManyMatches := by
  induction h with
  | dropped _ _ _ ih => exact ih
  | reduced _ _ _ _ ih => exact ih
  | _ => simp

/-- A loop that does not hit its bound is a run, of no more matches than the bound. -/
theorem runs_of_runFrom
    (h : (s.runFrom g r limit store cursor log).outcome ≠ .error .tooManyMatches) :
    ∃ n ≤ limit, Runs g r n s store cursor log (s.runFrom g r limit store cursor log) := by
  induction limit generalizing s store cursor log with
  | zero =>
    rw [State.runFrom] at h ⊢
    split at h
    · next hs => exact ⟨0, Nat.le_refl 0, .finished hs⟩
    · next hs => exact ⟨0, Nat.le_refl 0, .undefined hs⟩
    · next hs => exact ⟨0, Nat.le_refl 0, .stuck hs⟩
    · exact absurd rfl h
  | succ limit ih =>
    rw [State.runFrom] at h ⊢
    split at h
    · next hs => exact ⟨0, Nat.zero_le _, .finished hs⟩
    · next hs => exact ⟨0, Nat.zero_le _, .undefined hs⟩
    · next hs => exact ⟨0, Nat.zero_le _, .stuck hs⟩
    · next m next hs =>
      dsimp only at h ⊢
      split at h
      · next ht =>
        obtain ⟨n, hn, hruns⟩ := ih h
        exact ⟨n + 1, Nat.succ_le_succ hn, .dropped hs ht hruns⟩
      · next token ht =>
        split at h
        · next store' cursor' hr =>
          obtain ⟨n, hn, hruns⟩ := ih h
          exact ⟨n + 1, Nat.succ_le_succ hn, .reduced hs ht hr hruns⟩
        · next store' e hr => exact ⟨1, Nat.succ_le_succ (Nat.zero_le _), .rejected hs ht hr⟩

/-- A run of `n` matches is what the run with the bound `n` leaves, if `n` is the first bound that
is not hit. -/
theorem State.ends_iff : s.Ends g r store n res ↔
    s.run g r n store = res ∧ res.outcome ≠ .error .tooManyMatches ∧
      ∀ limit < n, (s.run g r limit store).outcome = .error .tooManyMatches := by
  constructor
  · intro h
    exact ⟨h.run_eq (Nat.le_refl n), Runs.outcome_ne h, fun limit hlt => Runs.runFrom_hits h hlt⟩
  · rintro ⟨rfl, hmiss, hhits⟩
    obtain ⟨n', hle, hruns⟩ := runs_of_runFrom hmiss
    -- A smaller bound would be hit, but the run keeps to it.
    have hge : n ≤ n' := by
      refine Nat.le_of_not_lt fun hlt => Runs.outcome_ne hruns ?_
      rw [← Runs.runFrom_eq hruns (Nat.le_refl n')]
      exact hhits n' hlt
    obtain rfl := Nat.le_antisymm hle hge
    exact hruns

/-- So runs end in the same way that leave the same under every bound. -/
theorem State.ends_iff_of_run_eq {g' : Grammar}
    (h : ∀ limit, s.run g' r limit store = s.run g r limit store) :
    s.Ends g' r store n res ↔ s.Ends g r store n res := by
  simp only [State.ends_iff, h]

/-- A run ends in one way only, behind one number of matches. -/
theorem Runs.unique {n' : Nat} {res' : RunResult σ γ ε} (h : Runs g r n s store cursor log res)
    (h' : Runs g r n' s store cursor log res') : n = n' ∧ res = res' := by
  have hres : res = res' :=
    (h.runFrom_eq (Nat.le_max_left n n')).symm.trans (h'.runFrom_eq (Nat.le_max_right n n'))
  -- The bound that one of the runs keeps to shows in the outcome if the other one is longer.
  refine ⟨Nat.le_antisymm ?_ ?_, hres⟩
  · -- Otherwise the first run would hit a bound that the second one keeps to.
    refine Nat.le_of_not_lt fun hlt => h'.outcome_ne ?_
    rw [← h'.runFrom_eq (Nat.le_refl n')]
    exact h.runFrom_hits hlt
  · refine Nat.le_of_not_lt fun hlt => h.outcome_ne ?_
    rw [← h.runFrom_eq (Nat.le_refl n)]
    exact h'.runFrom_hits hlt

/-- Two runs that hit the same bounds end behind the same number of matches. -/
theorem State.Ends.length_eq_of_hits_iff {σ' γ' ε' : Type} {g' : Grammar} {s' : State}
    {r' : Reduction σ' γ' ε'} {store' : σ'} {n' : Nat} {res' : RunResult σ' γ' ε'}
    (h : s.Ends g r store n res) (h' : s'.Ends g' r' store' n' res')
    (hhits : ∀ limit, (s.run g r limit store).outcome = .error .tooManyMatches ↔
      (s'.run g' r' limit store').outcome = .error .tooManyMatches) : n = n' := by
  refine Nat.le_antisymm ?_ ?_
  · -- Otherwise the first run would hit a bound that the second one keeps to.
    refine Nat.le_of_not_lt fun hlt => h'.outcome_ne ?_
    have hrun : s'.run g' r' n' store' = res' := h'.run_eq (Nat.le_refl n')
    rw [← hrun]
    exact (hhits n').1 (h.runFrom_hits hlt)
  · refine Nat.le_of_not_lt fun hlt => h.outcome_ne ?_
    have hrun : s.run g r n store = res := h.run_eq (Nat.le_refl n)
    rw [← hrun]
    exact (hhits n).2 (h'.runFrom_hits hlt)

/-- The matches that a log tells of, in order. -/
def matchesOf (log : Array LogEvent) : List Match :=
  log.toList.filterMap fun
    | .matched m _ => some m
    | _ => none

/-- The log tells of a match that has been logged. -/
@[simp] theorem matchesOf_push_matched (log : Array LogEvent) (m : Match) (p : Position) :
    matchesOf (log.push (.matched m p)) = matchesOf log ++ [m] := by
  simp [matchesOf]

/-- The end of a parse is no match. -/
@[simp] theorem matchesOf_push_finished (log : Array LogEvent) (p : Position) :
    matchesOf (log.push (.finished p)) = matchesOf log := by
  simp [matchesOf]

/-- A run logs all of its matches. -/
theorem Runs.length_matchesOf (h : Runs g r n s store cursor log res) :
    (matchesOf res.log).length = (matchesOf log).length + n := by
  induction h with
  | finished => simp
  | undefined => simp
  | stuck => simp
  | dropped _ _ _ ih =>
    rw [ih, matchesOf_push_matched, List.length_append, List.length_singleton]
    omega
  | reduced _ _ _ _ ih =>
    rw [ih, matchesOf_push_matched, List.length_append, List.length_singleton]
    omega
  | rejected => simp

/-- The loop goes along a path and logs its matches, whatever its reduction does and whatever its
bound is. -/
theorem State.exists_path_runFrom (s : State) (g : Grammar) (r : Reduction σ γ ε) (limit : Nat)
    (store : σ) (cursor : γ) (log : Array LogEvent) :
    ∃ ms, Path g s ms (s.runFrom g r limit store cursor log).state ∧
      matchesOf (s.runFrom g r limit store cursor log).log = matchesOf log ++ ms := by
  induction limit generalizing s store cursor log with
  | zero =>
    rw [runFrom]
    split <;> exact ⟨[], .nil s, by simp⟩
  | succ limit ih =>
    rw [runFrom]
    split
    · exact ⟨[], .nil s, by simp⟩
    · exact ⟨[], .nil s, by simp⟩
    · exact ⟨[], .nil s, by simp⟩
    · next m next hs =>
      -- Whatever the reduction does, a run that goes on adds this match in front of its path.
      have hcons : ∀ store cursor,
          ∃ ms, Path g s ms (next.runFrom g r limit store cursor
              (log.push (.matched m next.position))).state ∧
            matchesOf (next.runFrom g r limit store cursor
              (log.push (.matched m next.position))).log = matchesOf log ++ ms := by
        intro store cursor
        obtain ⟨ms, hpath, hlog⟩ := ih next store cursor (log.push (.matched m next.position))
        exact ⟨m :: ms, .cons hs hpath, by rw [hlog]; simp⟩
      dsimp only
      split
      · exact hcons store cursor
      · split
        · next store' cursor' _ => exact hcons store' cursor'
        · exact ⟨[m], .single hs, by simp⟩

/-- A loop that hits its bound could make one match more than the bound allows. -/
theorem exists_path_of_runFrom_hits
    (h : (s.runFrom g r limit store cursor log).outcome = .error .tooManyMatches) :
    ∃ ms t, Path g s ms t ∧ ms.length = limit + 1 := by
  induction limit generalizing s store cursor log with
  | zero =>
    rw [State.runFrom] at h
    split at h
    · simp at h
    · simp at h
    · simp at h
    · next m next hs => exact ⟨[m], next, .single hs, rfl⟩
  | succ limit ih =>
    rw [State.runFrom] at h
    split at h
    · simp at h
    · simp at h
    · simp at h
    · next m next hs =>
      have hcons : ∀ store cursor log,
          (next.runFrom g r limit store cursor log).outcome = .error .tooManyMatches →
            ∃ ms t, Path g s ms t ∧ ms.length = limit + 1 + 1 := by
        intro store cursor log hnext
        obtain ⟨ms, t, hpath, hlen⟩ := ih hnext
        exact ⟨m :: ms, t, .cons hs hpath, congrArg (· + 1) hlen⟩
      dsimp only at h
      split at h
      · exact hcons _ _ _ h
      · split at h
        · exact hcons _ _ _ h
        · simp at h

/-- Where no path is longer than a bound, a run keeps to the bound, and so it ends. -/
theorem State.ends_of_path_length_le (h : ∀ ms t, Path g s ms t → ms.length ≤ limit)
    (r : Reduction σ γ ε) (store : σ) :
    ∃ n ≤ limit, s.Ends g r store n (s.run g r limit store) := by
  refine runs_of_runFrom fun hhit => ?_
  obtain ⟨ms, t, hpath, hlen⟩ := exists_path_of_runFrom_hits hhit
  have := h ms t hpath
  omega

/-! ## Noting tokens -/

/-- Noting tokens leaves a run as it is. -/
theorem Runs.noting (h : Runs g r n s store cursor log res) (notes : List Token) :
    ∃ calls, Runs g r.noting n s (store, notes) cursor log
      ⟨res.state, (res.store, notes ++ calls), res.log, res.outcome⟩ := by
  induction h generalizing notes with
  | finished h => exact ⟨[], by simpa using .finished h⟩
  | undefined h => exact ⟨[], by simpa using .undefined h⟩
  | stuck h => exact ⟨[], by simpa using .stuck h⟩
  | dropped h ht _ ih =>
    obtain ⟨calls, hcalls⟩ := ih notes
    exact ⟨calls, .dropped h ht hcalls⟩
  | @reduced n s m next token store cursor store' cursor' log res h ht hr _ ih =>
    obtain ⟨calls, hcalls⟩ := ih (notes ++ [token])
    have hnoting : r.noting.reduce (store, notes) cursor token =
        ((store', notes ++ [token]), .ok cursor') := by
      simp [Reduction.noting, hr]
    exact ⟨token :: calls, .reduced h ht hnoting (by simpa using hcalls)⟩
  | @rejected s m next token store cursor store' e log h ht hr =>
    have hnoting : r.noting.reduce (store, notes) cursor token =
        ((store', notes ++ [token]), .error e) := by
      simp [Reduction.noting, hr]
    exact ⟨[token], .rejected h ht hnoting⟩

/-! ## Runs along paths -/

/-- The tokens that matches make, in order. -/
def tokensOf (ms : List Match) : List Token := ms.filterMap Match.token?

/-- Tokens follow one another as their matches do. -/
theorem tokensOf_append (ms ns : List Match) : tokensOf (ms ++ ns) = tokensOf ms ++ tokensOf ns :=
  List.filterMap_append

/-- How a run ends in a state in which the lexer halts. -/
def State.ending (g : Grammar) (root : γ) (s : State) : Option (Except (LexError ε) γ) :=
  match s.step g with
  | .finished => some (.ok root)
  | .undefined => some (.error (.undefinedToken s.active))
  | .stuck => some (.error (.mismatch s.mismatch))
  | .matched _ _ => none

/-- A state has an ending exactly where the lexer halts. -/
theorem State.halts_iff_ending {root : γ} :
    s.Halts g ↔ ∃ outcome : Except (LexError ε) γ, s.ending g root = some outcome := by
  unfold Halts ending
  cases s.step g <;> simp

/-- Where a lexer halts under a name with a context, the text is at its end, or no rule matches. -/
theorem State.ending_eq_of_get? {c : Context} (hc : g.get? s.active = some c) (hs : s.Halts g)
    (root : γ) : s.ending g root = some (if s.rest = [] then .ok root
      else .error (.mismatch s.mismatch) : Except (LexError ε) γ) := by
  unfold ending
  cases h : s.step g with
  | finished => rw [if_pos (step_eq_finished_iff.1 h)]
  | undefined =>
    obtain ⟨-, hnone⟩ := step_eq_undefined_iff.1 h
    exact absurd (hc.symm.trans hnone) (by simp)
  | stuck => rw [if_neg (step_eq_stuck_iff.1 h).1]
  | matched m next => exact absurd h (hs m next)

/-- The ending of a state is a mismatch exactly where a step is stuck, and it reports this state. -/
theorem State.ending_eq_mismatch_iff {root : γ} {e : Mismatch} :
    s.ending g root = some (.error (.mismatch e) : Except (LexError ε) γ) ↔
      s.step g = .stuck ∧ s.mismatch = e := by
  unfold ending
  cases s.step g <;> simp

/-- It is an undefined name exactly where a step does not find a context for the active name. -/
theorem State.ending_eq_undefined_iff {root : γ} {name : String} :
    s.ending g root = some (.error (.undefinedToken name) : Except (LexError ε) γ) ↔
      s.step g = .undefined ∧ s.active = name := by
  unfold ending
  cases s.step g <;> simp

/-- A run goes along a path. Either all tokens of the path are accepted and the lexer halts behind
it, or the last match of the path makes the only token that is rejected. -/
theorem Runs.exists_path (h : Runs g r n s store cursor log res) :
    ∃ ms, ms.length = n ∧ Path g s ms res.state ∧
      ((∃ cursor', r.feed store cursor (tokensOf ms) = (res.store, .ok cursor') ∧
          res.state.ending g r.root = some res.outcome) ∨
        ∃ ms₁ m token store₁ cursor₁ e, ms = ms₁ ++ [m] ∧ m.token? = some token ∧
          r.feed store cursor (tokensOf ms₁) = (store₁, .ok cursor₁) ∧
          r.reduce store₁ cursor₁ token = (res.store, .error e) ∧
          res.outcome = .error (.reduction token.name e)) := by
  induction h with
  | @finished s store cursor log h =>
    exact ⟨[], rfl, .nil s, .inl ⟨cursor, rfl, by simp [State.ending, h]⟩⟩
  | @undefined s store cursor log h =>
    exact ⟨[], rfl, .nil s, .inl ⟨cursor, rfl, by simp [State.ending, h]⟩⟩
  | @stuck s store cursor log h =>
    exact ⟨[], rfl, .nil s, .inl ⟨cursor, rfl, by simp [State.ending, h]⟩⟩
  | @dropped n s m next store cursor log res h ht _ ih =>
    have htokens (ms : List Match) : tokensOf (m :: ms) = tokensOf ms := by simp [tokensOf, ht]
    obtain ⟨ms, rfl, hpath, hend⟩ := ih
    refine ⟨m :: ms, rfl, .cons h hpath, ?_⟩
    rcases hend with ⟨cursor', hfeed, hout⟩ | ⟨ms₁, m₁, token₁, store₁, cursor₁, e, rfl, hrest⟩
    · exact .inl ⟨cursor', by rw [htokens, hfeed], hout⟩
    · exact .inr ⟨m :: ms₁, m₁, token₁, store₁, cursor₁, e, rfl, by rwa [htokens]⟩
  | @reduced n s m next token store cursor store' cursor' log res h ht hr _ ih =>
    have hstep (ms : List Match) :
        r.feed store cursor (tokensOf (m :: ms)) = r.feed store' cursor' (tokensOf ms) := by
      simp [tokensOf, ht, Reduction.feed, hr]
    obtain ⟨ms, rfl, hpath, hend⟩ := ih
    refine ⟨m :: ms, rfl, .cons h hpath, ?_⟩
    rcases hend with ⟨cursor'', hfeed, hout⟩ | ⟨ms₁, m₁, token₁, store₁, cursor₁, e, rfl, hrest⟩
    · exact .inl ⟨cursor'', by rw [hstep, hfeed], hout⟩
    · exact .inr ⟨m :: ms₁, m₁, token₁, store₁, cursor₁, e, rfl, by rwa [hstep]⟩
  | @rejected s m next token store cursor store' e log h ht hr =>
    exact ⟨[m], rfl, .single h, .inr ⟨[], m, token, store, cursor, e, rfl, ht, rfl, hr, rfl⟩⟩

/-- A run that is not stopped by a rejection stops in a state in which the lexer halts, with the
ending of this state. -/
theorem Runs.ending_eq (h : Runs g r n s store cursor log res)
    (hres : ∀ name e, res.outcome ≠ .error (.reduction name e)) :
    res.state.ending g r.root = some res.outcome := by
  obtain ⟨-, -, -, ⟨-, -, hend⟩ | ⟨-, -, token, -, -, e, -, -, -, -, hout⟩⟩ := h.exists_path
  · exact hend
  · exact absurd hout (hres token.name e)

/-- A run whose reduction rejects nothing goes along a path to a state in which the lexer halts. -/
theorem Runs.exists_path_of_accepts (h : Runs g r n s store cursor log res) (hr : r.Accepts) :
    ∃ ms, ms.length = n ∧ Path g s ms res.state ∧
      (∃ cursor', r.feed store cursor (tokensOf ms) = (res.store, .ok cursor')) ∧
      res.state.ending g r.root = some res.outcome := by
  obtain ⟨ms, hn, hpath,
    ⟨cursor', hfeed, hend⟩ | ⟨-, -, token, store₁, cursor₁, e, -, -, -, he, -⟩⟩ := h.exists_path
  · exact ⟨ms, hn, hpath, ⟨cursor', hfeed⟩, hend⟩
  · obtain ⟨store', cursor', hok⟩ := hr.reduce_eq store₁ cursor₁ token
    exact absurd (congrArg Prod.snd (he.symm.trans hok)) (by simp)

/-- A path to a state in which the lexer halts is a run, if all of its tokens are accepted. -/
theorem Path.runs {cursor' : γ} {store' : σ} {outcome : Except (LexError ε) γ}
    (h : Path g s ms t) (hfeed : r.feed store cursor (tokensOf ms) = (store', .ok cursor'))
    (hend : t.ending g r.root = some outcome) (log : Array LogEvent) :
    ∃ res, Runs g r ms.length s store cursor log res ∧ res.state = t ∧ res.store = store' ∧
      res.outcome = outcome := by
  induction h generalizing store cursor log with
  | nil s =>
    obtain ⟨rfl, -⟩ := Prod.mk.inj hfeed
    unfold State.ending at hend
    split at hend
    · next h => exact ⟨_, .finished h, rfl, rfl, Option.some.inj hend⟩
    · next h => exact ⟨_, .undefined h, rfl, rfl, Option.some.inj hend⟩
    · next h => exact ⟨_, .stuck h, rfl, rfl, Option.some.inj hend⟩
    · exact absurd hend (by simp)
  | @cons s next t m ms hstep _ ih =>
    cases ht : m.token? with
    | none =>
      simp only [tokensOf, List.filterMap_cons, ht] at hfeed
      obtain ⟨res, hruns, hres⟩ := ih hfeed hend _
      exact ⟨res, .dropped hstep ht hruns, hres⟩
    | some token =>
      simp only [tokensOf, List.filterMap_cons, ht, Reduction.feed] at hfeed
      split at hfeed
      · next store₁ cursor₁ hr =>
        obtain ⟨res, hruns, hres⟩ := ih hfeed hend _
        exact ⟨res, .reduced hstep ht hr hruns, hres⟩
      · exact absurd hfeed (by simp)

/-- Where no token is rejected, the tokens that a run hands over are those of its path. -/
theorem Path.endsCalling {outcome : Except (LexError ε) γ} (h : Path g s ms t) (hr : r.Accepts)
    (hend : t.ending g r.root = some outcome) (store : σ) :
    ∃ res, s.EndsCalling g r store ms.length (tokensOf ms) res ∧ res.state = t ∧
      res.outcome = outcome := by
  obtain ⟨store', cursor', hfeed⟩ := hr.feed_eq store r.root (tokensOf ms)
  obtain ⟨res, hruns, hstate, -, hout⟩ :=
    h.runs hfeed hend #[.started s.active (byteCount s.rest)]
  obtain ⟨calls, hnoting⟩ := hruns.noting []
  -- The run that notes its tokens goes along the same path, so the notes are the tokens of `ms`.
  obtain ⟨ms', -, hpath', ⟨cursor'', hfeed'⟩, hend'⟩ := hnoting.exists_path_of_accepts hr.noting
  have hhalts' := State.halts_iff_ending.2 ⟨_, hend'⟩
  obtain ⟨rfl, -⟩ := hpath'.eq_of_halts hhalts' h (State.halts_iff_ending.2 ⟨_, hend⟩)
  have hcalls : calls = tokensOf ms' := by simpa using Reduction.noting_feed_of_ok hfeed'
  subst hcalls
  exact ⟨res, ⟨hruns, hnoting⟩, hstate, hout⟩

/-! ## A grammar to run -/

/-- Words with gaps between them: a word is `ab`, and it ends with an empty match. -/
def wordGrammar : Grammar :=
  (Grammar.empty.insert "gap"
    [⟨.produce "word", .literal ['a', 'b']⟩, ⟨.skip, .literal ['\n']⟩]).insert "word"
    [⟨.goto "gap", .literal []⟩]

/-- Two words on two lines. -/
def words : Text := ['a', 'b', '\n', 'a', 'b']

/-- Keeps all tokens. -/
def collecting : Reduction (List Token) Unit Empty :=
  .total () fun store _ token => (store ++ [token], ())

end ModalLexer
