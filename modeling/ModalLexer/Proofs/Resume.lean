import ModalLexer.Proofs.Fold
import ModalLexer.Proofs.Position

/-!
# A run goes on as a new one begins

What a lexer has done before does not show in its next run, but for the places that it reports. From
every state, a run makes the matches and the calls of a lexer that begins anew, at the same name and
in front of the text that is left, and it stops in the same way (`run_resumes`). Positions are those
of the new lexer, counted from the place at which the run begins (`Position.offset`), and the match
reported last is the same unless the run has made none.

Two runs from states with the same name and the same text go along paths of the same matches
(`State.runFrom_alike`). Their positions and last matches are then those of the two paths.
-/

namespace ModalLexer

/-! ## Two runs over one text -/

variable {σ γ ε : Type} {g : Grammar} {r : Reduction σ γ ε} {s s' : State}

/-- Runs from two states, with the same matches and the same effect. If no rule matches in the end,
each reports its own state. -/
structure Alike (g : Grammar) (s s' : State) (ms : List Match) (res res' : RunResult σ γ ε) :
    Prop where
  path : Path g s ms res.state
  path' : Path g s' ms res'.state
  active : res.state.active = res'.state.active
  rest : res.state.rest = res'.state.rest
  store : res.store = res'.store
  outcome : (res.outcome = res'.outcome ∧ ∀ m, res'.outcome ≠ .error (.mismatch m)) ∨
    (res.outcome = .error (.mismatch res.state.mismatch) ∧
      res'.outcome = .error (.mismatch res'.state.mismatch))

/-- A match in front of two such runs makes two such runs. -/
theorem Alike.cons {m : Match} {ms : List Match} {t t' : State} {res res' : RunResult σ γ ε}
    (h : Alike g t t' ms res res') (hs : s.step g = .matched m t)
    (hs' : s'.step g = .matched m t') :
    Alike g s s' (m :: ms) res res' :=
  { h with path := .cons hs h.path, path' := .cons hs' h.path' }

/-- The runs are alike where the lexer halts: nothing is matched. -/
theorem State.runFrom_alike_of_halts (h : s.Halts g) (hactive : s.active = s'.active)
    (hrest : s.rest = s'.rest) (r : Reduction σ γ ε) (limit : Nat) (store : σ) (cursor : γ)
    (log log' : Array LogEvent) :
    Alike g s s' [] (s.runFrom g r limit store cursor log)
        (s'.runFrom g r limit store cursor log') ∧
      matchesOf (s.runFrom g r limit store cursor log).log = matchesOf log ∧
      matchesOf (s'.runFrom g r limit store cursor log').log = matchesOf log' := by
  rw [runFrom, runFrom]
  cases hs : s.step g with
  | finished =>
    have hs' : s'.step g = .finished := by
      rw [step_eq_finished_iff] at hs ⊢
      rwa [← hrest]
    simp only [hs', matchesOf_push_finished, and_true]
    exact ⟨.nil s, .nil s', hactive, hrest, rfl, .inl ⟨rfl, by simp⟩⟩
  | undefined =>
    have hs' : s'.step g = .undefined := by
      rw [step_eq_undefined_iff] at hs ⊢
      rwa [← hrest, ← hactive]
    simp only [hs', and_true]
    exact ⟨.nil s, .nil s', hactive, hrest, rfl, .inl ⟨by rw [hactive], by simp⟩⟩
  | stuck =>
    have hs' : s'.step g = .stuck := by
      rw [step_eq_stuck_iff] at hs ⊢
      rwa [← hrest, ← hactive]
    simp only [hs', and_true]
    exact ⟨.nil s, .nil s', hactive, hrest, rfl, .inr ⟨rfl, rfl⟩⟩
  | matched m t => exact absurd hs (h m t)

/-- From states with the same name and the same text, runs with one bound are alike, and they log
the matches of their paths. -/
theorem State.runFrom_alike (hactive : s.active = s'.active) (hrest : s.rest = s'.rest)
    (g : Grammar) (r : Reduction σ γ ε) (limit : Nat) (store : σ) (cursor : γ)
    (log log' : Array LogEvent) :
    ∃ ms, Alike g s s' ms (s.runFrom g r limit store cursor log)
        (s'.runFrom g r limit store cursor log') ∧
      matchesOf (s.runFrom g r limit store cursor log).log = matchesOf log ++ ms ∧
      matchesOf (s'.runFrom g r limit store cursor log').log = matchesOf log' ++ ms := by
  induction limit generalizing s s' store cursor log log' with
  | zero =>
    cases hs : s.step g with
    | matched m t =>
      -- Both runs hit the bound, in front of the same match.
      have hs' := step_transfer hs hactive.symm hrest.symm
      refine ⟨[], ?_⟩
      rw [runFrom, runFrom]
      simp only [hs, hs', List.append_nil, and_true]
      exact ⟨.nil s, .nil s', hactive, hrest, rfl, .inl ⟨rfl, by simp⟩⟩
    | _ =>
      have h : s.Halts g := by simp [Halts, hs]
      exact ⟨[], by simpa using runFrom_alike_of_halts h hactive hrest r 0 store cursor log log'⟩
  | succ limit ih =>
    cases hs : s.step g with
    | matched m t =>
      have hs' := step_transfer hs hactive.symm hrest.symm
      obtain ⟨-, -, -, rfl⟩ := step_eq_matched_iff.1 hs
      -- Behind the match, name and text are the same again.
      have hactive' : (s.after m).active = (s'.after m).active := by rw [after, after, hactive]
      have hrest' : (s.after m).rest = (s'.after m).rest := by rw [after, after, hrest]
      cases ht : m.token? with
      | none =>
        rw [runFrom_succ_of_dropped hs ht, runFrom_succ_of_dropped hs' ht]
        obtain ⟨ms, halike, hlog, hlog'⟩ := ih hactive' hrest' store cursor
          (log.push (.matched m (s.after m).position))
          (log'.push (.matched m (s'.after m).position))
        exact ⟨m :: ms, halike.cons hs hs', by simp [hlog], by simp [hlog']⟩
      | some token =>
        rcases hr : r.reduce store cursor token with ⟨store₁, e | cursor₁⟩
        · -- Both runs are stopped behind this match, by the same error.
          rw [runFrom_succ_of_rejected hs ht hr, runFrom_succ_of_rejected hs' ht hr]
          refine ⟨[m], ⟨.single hs, .single hs', hactive', hrest', rfl, .inl ⟨rfl, by simp⟩⟩,
            ?_, ?_⟩
          · exact matchesOf_push_matched log m _
          · exact matchesOf_push_matched log' m _
        · rw [runFrom_succ_of_accepted hs ht hr, runFrom_succ_of_accepted hs' ht hr]
          obtain ⟨ms, halike, hlog, hlog'⟩ := ih hactive' hrest' store₁ cursor₁
            (log.push (.matched m (s.after m).position))
            (log'.push (.matched m (s'.after m).position))
          exact ⟨m :: ms, halike.cons hs hs', by simp [hlog], by simp [hlog']⟩
    | _ =>
      have h : s.Halts g := by simp [Halts, hs]
      exact ⟨[], by simpa using runFrom_alike_of_halts h hactive hrest r _ store cursor log log'⟩

/-! ## Resuming -/

/-- The report of a lexer that goes on from the state `s`, compared with the report `m'` of one that
begins anew there. -/
structure Mismatch.Resumes (s : State) (m m' : Mismatch) : Prop where
  token : m.token = m'.token
  preview : m.preview = m'.preview
  position : m.position = s.position.offset m'.position

/-- What a lexer leaves that goes on from the state `s`, compared with what one leaves that begins
anew there, at the same name and in front of the same text. -/
structure RunResult.Resumes (s : State) (res res' : RunResult σ γ ε) : Prop where
  matched : matchesOf res.log = matchesOf res'.log
  store : res.store = res'.store
  active : res.state.active = res'.state.active
  rest : res.state.rest = res'.state.rest
  position : res.state.position = s.position.offset res'.state.position
  /-- Whatever stops the one stops the other, and if it is not a mismatch, with the same report. -/
  outcome : (∀ m', res'.outcome ≠ .error (.mismatch m')) → res.outcome = res'.outcome
  /-- The reports of a mismatch differ in the match before it only if the runs have made none. -/
  mismatch : ∀ m', res'.outcome = .error (.mismatch m') →
    ∃ m, res.outcome = .error (.mismatch m) ∧ m.Resumes s m' ∧
      (matchesOf res'.log ≠ [] → m.lastMatch = m'.lastMatch) ∧
      (matchesOf res'.log = [] → m.lastMatch = s.lastMatch ∧ m'.lastMatch = [])

/-- Runs that are alike differ by the place at which they begin. -/
theorem Alike.resumes {ms : List Match} {res res' : RunResult σ γ ε}
    (h : Alike g s (.fresh s.active s.rest) ms res res') (hlog : matchesOf res.log = ms)
    (hlog' : matchesOf res'.log = ms) : res.Resumes s res' := by
  have hposition : res.state.position = s.position.offset res'.state.position := by
    rw [h.path.position_eq, h.path'.position_eq, Position.advance_eq_offset]
    rfl
  refine ⟨hlog.trans hlog'.symm, h.store, h.active, h.rest, hposition, ?_, ?_⟩
  · intro hne
    rcases h.outcome with ⟨hsame, -⟩ | ⟨-, hmismatch⟩
    · exact hsame
    · exact absurd hmismatch (hne _)
  · intro m' hm'
    rcases h.outcome with ⟨-, hne⟩ | ⟨hmismatch, hmismatch'⟩
    · exact absurd hm' (hne m')
    · obtain rfl : res'.state.mismatch = m' := by
        rw [hmismatch'] at hm'
        exact LexError.mismatch.inj (Except.error.inj hm')
      have hlast : res.state.lastMatch = (ms.getLast?.map Match.text).getD s.lastMatch :=
        h.path.lastMatch_eq
      have hlast' : res'.state.lastMatch = (ms.getLast?.map Match.text).getD [] :=
        h.path'.lastMatch_eq
      refine ⟨_, hmismatch, ⟨h.active, congrArg preview h.rest, hposition⟩, ?_, ?_⟩
      · intro hne
        rw [hlog'] at hne
        simp only [State.mismatch, hlast, hlast', List.getLast?_eq_some_getLast hne,
          Option.map_some, Option.getD_some]
      · intro hnil
        obtain rfl : ms = [] := hlog'.symm.trans hnil
        exact ⟨hlast, hlast'⟩

/-- With any bound, a run resumes what a new lexer begins. -/
theorem State.run_resumes_parse (g : Grammar) (r : Reduction σ γ ε) (s : State) (limit : Nat)
    (store : σ) : (s.run g r limit store).Resumes s (parse g s.active s.rest r limit store) := by
  have hactive : s.active = (State.fresh s.active s.rest).active := rfl
  have hrest : s.rest = (State.fresh s.active s.rest).rest := rfl
  obtain ⟨ms, halike, hlog, hlog'⟩ := runFrom_alike hactive hrest g r limit store r.root
    #[.started s.active (byteCount s.rest)] #[.started s.active (byteCount s.rest)]
  exact halike.resumes (hlog.trans (List.nil_append ms)) (hlog'.trans (List.nil_append ms))

/-- So one of them hits the bound exactly if the other one does. -/
theorem RunResult.Resumes.hits_iff {res res' : RunResult σ γ ε} (h : res.Resumes s res') :
    res.outcome = .error .tooManyMatches ↔ res'.outcome = .error .tooManyMatches := by
  by_cases hm : ∃ m', res'.outcome = .error (.mismatch m')
  · obtain ⟨m', hm'⟩ := hm
    obtain ⟨m, hm, -⟩ := h.mismatch m' hm'
    simp [hm, hm']
  · rw [h.outcome fun m' hm' => hm ⟨m', hm'⟩]

/-- And they end behind the same number of matches. -/
theorem State.Ends.length_eq {n n' : Nat} {store : σ} {res res' : RunResult σ γ ε}
    (h : s.Ends g r store n res) (h' : (State.fresh s.active s.rest).Ends g r store n' res') :
    n = n' :=
  h.length_eq_of_hits_iff h' fun limit => (s.run_resumes_parse g r limit store).hits_iff

/-- From every state, however a lexer has come to it, a run goes on as that of a lexer begins which
is new, with the same name active and with the text that is left for its whole text. Under every
bound the two make the same matches and the same calls, and leave the same store, the same name and
the same text, and what stops the one stops the other. So one of them ends if the other one does.
Places are those of the new lexer, counted from the place of the state, and the last match is told
apart only if there has been none. -/
theorem run_resumes (g : Grammar) (r : Reduction σ γ ε) (s : State) (store : σ) :
    (∀ limit, (s.run g r limit store).Resumes s (parse g s.active s.rest r limit store) ∧
        (s.run g r.recording limit (store, [])).store.2 =
          (parse g s.active s.rest r.recording limit (store, [])).store.2) ∧
      ((∃ n res, s.Ends g r store n res) ↔
        ∃ n res, (State.fresh s.active s.rest).Ends g r store n res) ∧
      ∀ n res n' res', s.Ends g r store n res →
        (State.fresh s.active s.rest).Ends g r store n' res' → n = n' ∧ res.Resumes s res' := by
  refine ⟨fun limit => ⟨s.run_resumes_parse g r limit store, ?_⟩, ?_, ?_⟩
  · exact congrArg Prod.snd (s.run_resumes_parse g r.recording limit (store, [])).store
  · simp only [State.exists_ends_iff, ne_eq, verdict_eq_tooManyMatches_iff]
    exact exists_congr fun limit => not_congr (s.run_resumes_parse g r limit store).hits_iff
  · intro n res n' res' h h'
    obtain rfl := h.length_eq h'
    have hrun : s.run g r n store = res := h.runFrom_eq (Nat.le_refl n)
    have hrun' : parse g s.active s.rest r n store = res' := h'.runFrom_eq (Nat.le_refl n)
    exact ⟨rfl, hrun ▸ hrun' ▸ s.run_resumes_parse g r n store⟩

end ModalLexer
