import Mathlib.Data.List.Nodup
import Mathlib.Logic.Embedding.Basic
import Mathlib.Logic.Equiv.Basic
import ModalLexer.Proofs.Retry

/-!
# Names are opaque

A lexer compares names and does nothing else with them: names of any kind do, the empty one and
those that are written like keys among them. `Grammar.rename` gives other names to the contexts of a
grammar and to the targets of its transitions, different names to different ones. `runs_rename` says
that nothing but names is changed by it: runs that reject no token make the same matches, hand over
the same values, and stop in the same way.

A step under the renamed grammar is the renamed step (`State.step_rename`). So a run with any
reduction leaves what the run under the first grammar leaves, renamed, if the reduction is given the
new names there (`State.run_rename`). What is left but for the store is the same for all reductions
that reject nothing (`State.run_eq_of_accepts`).
-/

namespace ModalLexer

/-! ## Other names -/

section

variable (f : String → String)

/-- The transition to the new name. -/
def Transition.rename : Transition → Transition
  | skip => skip
  | goto target => goto (f target)
  | produceSelf => produceSelf
  | produce name => produce (f name)

/-- The rule with its transition renamed. -/
def Rule.rename (rule : Rule) : Rule := { rule with transition := rule.transition.rename f }

/-- The context with its rules renamed. -/
def Context.rename (c : Context) : Context := c.map (Rule.rename f)

/-- The match by the renamed rule, where the new name is active. -/
def Match.rename (m : Match) : Match := ⟨f m.active, m.rule.rename f, m.text⟩

/-- The token with its new name. -/
def Token.rename (token : Token) : Token := { token with name := f token.name }

/-- The state in which the new name is active. -/
def State.rename (s : State) : State := { s with active := f s.active }

/-- The step with its match and its state renamed. -/
def Step.rename : Step → Step
  | finished => finished
  | undefined => undefined
  | stuck => stuck
  | matched m next => matched (m.rename f) (next.rename f)

/-- The error with the name that it tells renamed. -/
def LexError.rename {ε : Type} : LexError ε → LexError ε
  | configuration e => configuration e
  | undefinedToken token => undefinedToken (f token)
  | mismatch m => mismatch { m with token := f m.token }
  | reduction token e => reduction (f token) e
  | tooManyMatches => tooManyMatches

/-- The event with its names renamed. -/
def LogEvent.rename : LogEvent → LogEvent
  | started active bytes => started (f active) bytes
  | matched m position => matched (m.rename f) position
  | finished position => finished position
  | parsed count => parsed count

/-- What a run leaves, with all names but those in the store renamed. -/
def RunResult.rename {σ γ ε : Type} (res : RunResult σ γ ε) : RunResult σ γ ε where
  state := res.state.rename f
  store := res.store
  log := res.log.map (LogEvent.rename f)
  outcome := res.outcome.mapError (LexError.rename f)

/-- The reduction that is given the new names of its tokens. -/
def Reduction.renaming {σ γ ε : Type} (r : Reduction σ γ ε) : Reduction σ γ ε where
  root := r.root
  reduce store cursor token := r.reduce store cursor (token.rename f)

end

/-- The grammar with every name changed, different ones to different ones. -/
def Grammar.rename (f : String ↪ String) (g : Grammar) : Grammar where
  entries := g.entries.map fun e => (f e.1, Context.rename f e.2)
  nodup := by
    have hnames : (g.entries.map fun e => (f e.1, Context.rename f e.2)).map Prod.fst =
        (g.entries.map Prod.fst).map f := by
      rw [List.map_map, List.map_map]
      rfl
    rw [hnames]
    exact List.Nodup.map f.injective g.nodup

/-! ## Steps -/

section

variable (f : String → String)

/-- The name behind the renamed transition is the new name of the one behind the transition. -/
theorem Transition.next_rename (t : Transition) (active : String) :
    (t.rename f).next (f active) = f (t.next active) := by
  cases t <;> rfl

/-- The renamed transition makes a token exactly if the transition does. -/
theorem Transition.produces_rename (t : Transition) : (t.rename f).produces = t.produces := by
  cases t <;> rfl

/-- So the renamed match makes the renamed token. -/
theorem Match.token?_rename (m : Match) : (m.rename f).token? = m.token?.map (Token.rename f) := by
  simp only [token?, rename, Rule.rename, Transition.produces_rename, Transition.next_rename]
  split <;> rfl

/-- The renamed match leads to the renamed state. -/
theorem State.after_rename (s : State) (m : Match) :
    (s.rename f).after (m.rename f) = (s.after m).rename f := by
  simp only [after, rename, Match.rename, Rule.rename, Transition.next_rename]

/-- The tokens of renamed matches are the renamed tokens. -/
theorem tokensOf_map_rename (ms : List Match) :
    tokensOf (ms.map (Match.rename f)) = (tokensOf ms).map (Token.rename f) := by
  unfold tokensOf
  rw [List.filterMap_map, List.map_filterMap]
  exact congrArg (fun p => List.filterMap p ms) (funext (Match.token?_rename f))

/-- The same rule of a context matches first. -/
theorem Context.firstMatch?_rename (c : Context) (t : Text) :
    (c.rename f).firstMatch? t =
      (c.firstMatch? t).map fun found => (found.1.rename f, found.2) :=
  firstMatch?_map (f := Rule.rename f) (fun _ => rfl) c t

end

variable (f : String ↪ String)

/-- Under the new name stands the renamed context. -/
theorem Grammar.get?_rename (g : Grammar) (name : String) :
    (g.rename f).get? (f name) = (g.get? name).map (Context.rename f) :=
  lookup_map_entries (fun _ _ heq => f.injective heq) (fun _ => Context.rename f) g.entries name

/-- A renamed step is a step under the renamed grammar. -/
theorem State.step_rename (s : State) (g : Grammar) :
    (s.rename f).step (g.rename f) = (s.step g).rename f := by
  have hactive : (s.rename f).active = f s.active := rfl
  have hrest : (s.rename f).rest = s.rest := rfl
  unfold step
  rw [hactive, hrest, Grammar.get?_rename]
  split
  · rfl
  · cases g.get? s.active with
    | none => rfl
    | some c =>
      simp only [Option.map_some, Context.firstMatch?_rename]
      cases c.firstMatch? s.rest with
      | none => rfl
      | some found =>
        exact congrArg (Step.matched _) (after_rename f s ⟨s.active, found.1, found.2⟩)

/-! ## Runs -/

section

variable {σ γ ε : Type} (g : Grammar) (r : Reduction σ γ ε)

/-- Where the lexer halts, the loop under the renamed grammar leaves the same, renamed. -/
theorem State.runFrom_rename_of_halts {s : State} (hs : s.Halts g) (limit : Nat) (store : σ)
    (cursor : γ) (log : Array LogEvent) :
    (s.rename f).runFrom (g.rename f) r limit store cursor (log.map (LogEvent.rename f)) =
      (s.runFrom g (r.renaming f) limit store cursor log).rename f := by
  rw [runFrom, runFrom, step_rename]
  cases hstep : s.step g with
  | finished =>
    have hlog : (log.map (LogEvent.rename f)).push (.finished s.position) =
        (log.push (.finished s.position)).map (LogEvent.rename f) := by
      rw [Array.map_push]
      rfl
    exact congrArg (RunResult.mk _ _ · _) hlog
  | undefined => rfl
  | stuck => rfl
  | matched m next => exact absurd hstep (hs m next)

/-- The loop does so everywhere. -/
theorem State.runFrom_rename (limit : Nat) (s : State) (store : σ) (cursor : γ)
    (log : Array LogEvent) :
    (s.rename f).runFrom (g.rename f) r limit store cursor (log.map (LogEvent.rename f)) =
      (s.runFrom g (r.renaming f) limit store cursor log).rename f := by
  induction limit generalizing s store cursor log with
  | zero =>
    cases hs : s.step g with
    | matched m next =>
      have hs' : (s.rename f).step (g.rename f) = .matched (m.rename f) (next.rename f) := by
        rw [step_rename, hs]
        rfl
      rw [runFrom_zero_of_matched hs, runFrom_zero_of_matched hs']
      rfl
    | _ => exact runFrom_rename_of_halts f g r (by simp [Halts, hs]) 0 store cursor log
  | succ limit ih =>
    cases hs : s.step g with
    | matched m next =>
      have hs' : (s.rename f).step (g.rename f) = .matched (m.rename f) (next.rename f) := by
        rw [step_rename, hs]
        rfl
      have hlog : (log.map (LogEvent.rename f)).push (.matched (m.rename f) next.position) =
          (log.push (.matched m next.position)).map (LogEvent.rename f) := by
        rw [Array.map_push]
        rfl
      have hm' := m.token?_rename f
      cases hm : m.token? with
      | none =>
        rw [hm] at hm'
        rw [runFrom_succ_of_dropped hs hm, runFrom_succ_of_dropped hs' hm']
        exact hlog ▸ ih next store cursor _
      | some token =>
        rw [hm] at hm'
        rcases hr : r.reduce store cursor (token.rename f) with ⟨store', e | cursor'⟩
        · have hr' : (r.renaming f).reduce store cursor token = (store', .error e) := hr
          rw [runFrom_succ_of_rejected hs hm hr', runFrom_succ_of_rejected hs' hm' hr]
          exact congrArg (RunResult.mk _ _ · _) hlog
        · have hr' : (r.renaming f).reduce store cursor token = (store', .ok cursor') := hr
          rw [runFrom_succ_of_accepted hs hm hr', runFrom_succ_of_accepted hs' hm' hr]
          exact hlog ▸ ih next store' cursor' _
    | _ => exact runFrom_rename_of_halts f g r (by simp [Halts, hs]) _ store cursor log

/-- And so does a whole run. -/
theorem State.run_rename (s : State) (limit : Nat) (store : σ) :
    (s.rename f).run (g.rename f) r limit store =
      (s.run g (r.renaming f) limit store).rename f := by
  have hlog : #[LogEvent.started (s.rename f).active (byteCount (s.rename f).rest)] =
      Array.map (LogEvent.rename f) #[.started s.active (byteCount s.rest)] := by
    simp [LogEvent.rename, State.rename]
  rw [State.run, hlog]
  exact s.runFrom_rename f g r limit store r.root _

/-- The log tells of the renamed matches. -/
theorem matchesOf_map_rename (f : String → String) (log : Array LogEvent) :
    matchesOf (log.map (LogEvent.rename f)) = (matchesOf log).map (Match.rename f) := by
  simp only [matchesOf, Array.toList_map, List.filterMap_map, List.map_filterMap]
  congr 1
  funext e
  cases e <;> rfl

end

/-! ## Reductions that reject nothing -/

section

variable {σ γ ε σ' γ' ε' : Type} {g : Grammar} {r : Reduction σ γ ε} {r' : Reduction σ' γ' ε'}

/-- A reduction that rejects nothing lets the loop make all the matches that its bound allows. -/
theorem State.matchesOf_runFrom (hr : r.Accepts) (limit : Nat) (s : State) (store : σ) (cursor : γ)
    (log : Array LogEvent) :
    matchesOf (s.runFrom g r limit store cursor log).log =
      matchesOf log ++ s.firstMatches g limit := by
  induction limit generalizing s store cursor log with
  | zero =>
    rw [runFrom, firstMatches, List.append_nil]
    cases s.step g <;> simp
  | succ limit ih =>
    cases hs : s.step g with
    | matched m next =>
      have hmatches : s.firstMatches g (limit + 1) = [m] ++ next.firstMatches g limit := by
        simp only [firstMatches, hs, List.singleton_append]
      rw [hmatches, ← List.append_assoc, ← matchesOf_push_matched log m next.position]
      cases hm : m.token? with
      | none =>
        rw [runFrom_succ_of_dropped hs hm]
        exact ih next store cursor _
      | some token =>
        obtain ⟨store', cursor', hreduce⟩ := hr.reduce_eq store cursor token
        rw [runFrom_succ_of_accepted hs hm hreduce]
        exact ih next store' cursor' _
    | _ =>
      rw [runFrom, firstMatches_of_halts (by simp [Halts, hs]), List.append_nil]
      simp [hs]

/-- Renaming does not make a reduction reject anything. -/
theorem Reduction.Accepts.renaming (hr : r.Accepts) (f : String → String) :
    (r.renaming f).Accepts :=
  fun store cursor token => hr store cursor (token.rename f)

/-- The verdict on the renamed outcome is the renamed verdict. -/
theorem verdict_rename (f : String → String) (outcome : Except (LexError ε) γ) :
    verdict (outcome.mapError (LexError.rename f)) =
      (verdict outcome).mapError (LexError.rename f) := by
  cases outcome with
  | ok root => rfl
  | error e => cases e <;> rfl

/-- Renaming does not make a bound hit. -/
theorem mapError_rename_eq_tooManyMatches_iff {f : String → String}
    {outcome : Except (LexError ε) γ} :
    outcome.mapError (LexError.rename f) = .error .tooManyMatches ↔
      outcome = .error .tooManyMatches := by
  cases outcome with
  | ok root => simp [Except.mapError]
  | error e => cases e <;> simp [Except.mapError, LexError.rename]

/-- What a run does but for its store is the same for all reductions that reject nothing. -/
theorem State.run_eq_of_accepts (hr : r.Accepts) (hr' : r'.Accepts) (s : State) (limit : Nat)
    (store : σ) (store' : σ') :
    (s.run g r limit store).state = (s.run g r' limit store').state ∧
      matchesOf (s.run g r limit store).log = matchesOf (s.run g r' limit store').log ∧
      verdict (s.run g r limit store).outcome = verdict (s.run g r' limit store').outcome := by
  have hmatches : matchesOf (s.run g r limit store).log =
      matchesOf (s.run g r' limit store').log := by
    unfold run
    rw [matchesOf_runFrom hr, matchesOf_runFrom hr']
  obtain ⟨_, _, hfeed⟩ := hr.feed_eq store r.root (s.firstTokens g limit)
  obtain ⟨_, _, hfeed'⟩ := hr'.feed_eq store' r'.root (s.firstTokens g limit)
  have hpath := s.path_run g r limit store
  have hpath' := s.path_run g r' limit store'
  exact ⟨(hpath.eq_of_length_eq hpath' (by rw [hmatches])).2, hmatches,
    (runFrom_verdict_of_ok #[] hfeed).trans (runFrom_verdict_of_ok #[] hfeed').symm⟩

/-- It hands over the tokens of its matches. -/
theorem State.run_noting (hr : r.Accepts) (s : State) (limit : Nat) (store : σ) :
    (s.run g r.noting limit (store, [])).store.2 =
      tokensOf (matchesOf (s.run g r limit store).log) := by
  obtain ⟨store', cursor', hfeed⟩ :=
    hr.noting.feed_eq (store, []) r.noting.root (s.firstTokens g limit)
  unfold run
  rw [runFrom_store, hfeed, Reduction.noting_feed_of_ok hfeed, matchesOf_runFrom hr]
  rfl

end

/-- Names are opaque. Let all names be changed, different ones to different ones, and let two
reductions reject nothing. Then the runs under the grammar and under the renamed one, with any
bound, leave the same text, position and last match, and the new name is active. They make the same
matches and hand over the same values, and they stop in the same way, all under the new names. -/
theorem runs_rename {σ γ ε σ' γ' ε' : Type} {r : Reduction σ γ ε} {r' : Reduction σ' γ' ε'}
    (hr : r.Accepts) (hr' : r'.Accepts) (g : Grammar) (s : State) (store : σ) (store' : σ') :
    (∀ limit,
        ((s.rename f).run (g.rename f) r' limit store').state =
          (s.run g r limit store).state.rename f ∧
        matchesOf ((s.rename f).run (g.rename f) r' limit store').log =
          (matchesOf (s.run g r limit store).log).map (Match.rename f) ∧
        ((s.rename f).run (g.rename f) r'.noting limit (store', [])).store.2 =
          ((s.run g r.noting limit (store, [])).store.2).map (Token.rename f) ∧
        verdict ((s.rename f).run (g.rename f) r' limit store').outcome =
          (verdict (s.run g r limit store).outcome).mapError (LexError.rename f)) ∧
      ((∃ n res, (s.rename f).Ends (g.rename f) r' store' n res) ↔
        ∃ n res, s.Ends g r store n res) ∧
      ∀ n calls res n' calls' res', s.EndsCalling g r store n calls res →
        (s.rename f).EndsCalling (g.rename f) r' store' n' calls' res' →
          n' = n ∧ calls' = calls.map (Token.rename f) ∧ res'.state = res.state.rename f ∧
          matchesOf res'.log = (matchesOf res.log).map (Match.rename f) ∧
          verdict res'.outcome = (verdict res.outcome).mapError (LexError.rename f) ∧
          (∀ root, res.outcome = .ok root → root = r.root) ∧
          ∀ root, res'.outcome = .ok root → root = r'.root := by
  -- The run under the renamed grammar is the renamed run of another reduction, and that one does
  -- not reject anything either.
  have hruns (limit : Nat) :
      ((s.rename f).run (g.rename f) r' limit store').state =
          (s.run g r limit store).state.rename f ∧
        matchesOf ((s.rename f).run (g.rename f) r' limit store').log =
          (matchesOf (s.run g r limit store).log).map (Match.rename f) ∧
        verdict ((s.rename f).run (g.rename f) r' limit store').outcome =
          (verdict (s.run g r limit store).outcome).mapError (LexError.rename f) := by
    obtain ⟨hstate, hmatches, hverdict⟩ :=
      s.run_eq_of_accepts (g := g) (hr'.renaming f) hr limit store' store
    rw [State.run_rename, ← hstate, ← hmatches, ← hverdict]
    exact ⟨rfl, matchesOf_map_rename _ _, verdict_rename _ _⟩
  have hhits (limit : Nat) : (s.run g r limit store).outcome = .error .tooManyMatches ↔
      ((s.rename f).run (g.rename f) r' limit store').outcome = .error .tooManyMatches := by
    have hverdict := (hruns limit).2.2
    calc (s.run g r limit store).outcome = .error .tooManyMatches
        ↔ verdict (s.run g r limit store).outcome = .error .tooManyMatches :=
          verdict_eq_tooManyMatches_iff.symm
      _ ↔ verdict ((s.rename f).run (g.rename f) r' limit store').outcome =
          .error .tooManyMatches := by
          rw [hverdict, mapError_rename_eq_tooManyMatches_iff]
      _ ↔ ((s.rename f).run (g.rename f) r' limit store').outcome = .error .tooManyMatches :=
          verdict_eq_tooManyMatches_iff
  refine ⟨fun limit => ?_, ?_, ?_⟩
  · obtain ⟨hstate, hmatches, hverdict⟩ := hruns limit
    refine ⟨hstate, hmatches, ?_, hverdict⟩
    rw [State.run_noting hr', State.run_noting hr, hmatches, tokensOf_map_rename]
  · simp only [State.exists_ends_iff, ne_eq, verdict_eq_tooManyMatches_iff, hhits]
  · intro n calls res n' calls' res' hends hends'
    obtain rfl := hends.1.length_eq_of_hits_iff hends'.1 hhits
    obtain ⟨hstate, hmatches, hverdict⟩ := hruns n
    rw [hends.1.run_eq (Nat.le_refl _), hends'.1.run_eq (Nat.le_refl _)] at hstate hmatches hverdict
    refine ⟨rfl, ?_, hstate, hmatches, hverdict, fun _ => Runs.root_eq hends.1,
      fun _ => Runs.root_eq hends'.1⟩
    rw [hends'.calls_eq, hends.calls_eq, hmatches, tokensOf_map_rename]

/-- New names for the grammar of words that are written like keys. -/
def likeKeys : String ↪ String :=
  ((Equiv.swap "word" "@self").trans (Equiv.swap "gap" "&")).toEmbedding

/-- Under such names, two words are the same two values. -/
theorem runs_rename_words : collecting.Accepts ∧
    ∃ res res', (State.fresh "gap" words).EndsCalling wordGrammar collecting [] 4
        [⟨"word", ['a', 'b']⟩, ⟨"word", ['a', 'b']⟩] res ∧
      (State.fresh "&" words).EndsCalling (wordGrammar.rename likeKeys) collecting [] 4
        [⟨"@self", ['a', 'b']⟩, ⟨"@self", ['a', 'b']⟩] res' ∧
      res'.state = ⟨"@self", [], res.state.position, res.state.lastMatch⟩ ∧
      matchesOf res'.log = (matchesOf res.log).map (Match.rename likeKeys) := by
  have hr : collecting.Accepts := Reduction.total_accepts _ _
  have hends : ∃ res, (State.fresh "gap" words).EndsCalling wordGrammar collecting [] 4
      [⟨"word", ['a', 'b']⟩, ⟨"word", ['a', 'b']⟩] res ∧ res.state.active = "word" ∧
        res.state.rest = [] :=
    ⟨_, ⟨.reduced rfl rfl rfl <| .dropped rfl rfl <| .dropped rfl rfl <| .reduced rfl rfl rfl <|
        .finished rfl,
      .reduced rfl rfl rfl <| .dropped rfl rfl <| .dropped rfl rfl <| .reduced rfl rfl rfl <|
        .finished rfl⟩, rfl, rfl⟩
  obtain ⟨res, hends, hactive, hrest⟩ := hends
  obtain ⟨-, hiff, hall⟩ :=
    runs_rename likeKeys hr hr wordGrammar (.fresh "gap" words) [] []
  obtain ⟨n', res', hends'⟩ := hiff.2 ⟨4, res, hends.1⟩
  obtain ⟨calls', hnoting⟩ := Runs.noting hends' []
  obtain ⟨rfl, rfl, hstate, hmatches, -⟩ := hall 4 _ res n' calls' res' hends ⟨hends', hnoting⟩
  refine ⟨hr, res, res', hends, ⟨hends', hnoting⟩, ?_, hmatches⟩
  rw [hstate, State.rename, hactive, hrest]
  rfl

end ModalLexer
