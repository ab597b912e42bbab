import ModalLexer.Proofs.Fold
import ModalLexer.Proofs.History

/-!
# Grammars in lockstep

Two grammars are in lockstep where every step under the one is a step under the other: the same text
is matched, the same token made and the same state reached, though perhaps by another rule. Then
their runs leave the same, but for the rules that the log tells of (`Lockstep.run_eq`), and one of
them ends exactly if the other one does (`Lockstep.exists_ends_iff`).

The grammars may differ in what no run meets: what is asked of states is asked of those with a
property that steps keep.
-/

namespace ModalLexer

/-! ## Other rules for the same matches -/

/-- The step with its match changed. -/
def Step.mapMatch (f : Match → Match) : Step → Step
  | finished => finished
  | undefined => undefined
  | stuck => stuck
  | matched m next => matched (f m) next

/-- The event with its match changed. -/
def LogEvent.mapMatch (f : Match → Match) : LogEvent → LogEvent
  | started active bytes => started active bytes
  | matched m position => matched (f m) position
  | finished position => finished position
  | parsed count => parsed count

/-- What a run leaves, with the matches in its log changed. -/
def RunResult.mapMatches {σ γ ε : Type} (f : Match → Match) (res : RunResult σ γ ε) :
    RunResult σ γ ε :=
  { res with log := res.log.map (LogEvent.mapMatch f) }

/-- The changed log tells of the changed matches. -/
theorem matchesOf_map (f : Match → Match) (log : Array LogEvent) :
    matchesOf (log.map (LogEvent.mapMatch f)) = (matchesOf log).map f := by
  simp only [matchesOf, Array.toList_map, List.filterMap_map, List.map_filterMap]
  congr 1
  funext e
  cases e <;> rfl

/-- If no match is changed, neither is the step. -/
theorem Step.mapMatch_id (step : Step) : step.mapMatch id = step := by
  cases step <;> rfl

/-- If no match is changed, neither is what a run leaves. -/
theorem RunResult.mapMatches_id {σ γ ε : Type} (res : RunResult σ γ ε) :
    res.mapMatches id = res := by
  have hid : LogEvent.mapMatch id = id := by
    funext e
    cases e <;> rfl
  rw [mapMatches, hid, Array.map_id]

/-- In the states with the property `I`, each step under `g` is a step under `g'`, with the match
changed by `f`. The changed match makes the same token, and the step keeps the property. -/
structure Lockstep (g g' : Grammar) (f : Match → Match) (I : State → Prop) : Prop where
  step : ∀ s, I s → s.step g' = (s.step g).mapMatch f
  token : ∀ m, (f m).token? = m.token?
  kept : ∀ s m t, I s → s.step g = .matched m t → I t

/-- Two grammars are in lockstep, with no match changed, where their steps are equal. -/
theorem Lockstep.of_step_eq {g g' : Grammar} {I : State → Prop}
    (hstep : ∀ s, I s → s.step g' = s.step g)
    (hkept : ∀ s m t, I s → s.step g = .matched m t → I t) : Lockstep g g' id I where
  step s hs := by rw [hstep s hs, Step.mapMatch_id]
  token _ := rfl
  kept := hkept

/-! ## Runs -/

section

variable {σ γ ε : Type} {g g' : Grammar} {f : Match → Match} {I : State → Prop} {s : State}
  {r : Reduction σ γ ε} {store : σ} {n n' : Nat} {res res' : RunResult σ γ ε}

/-- Where a lexer halts, it does so under both grammars, and it leaves the same. -/
theorem Lockstep.runFrom_eq_of_halts (h : Lockstep g g' f I) (hI : I s) (hs : s.Halts g)
    (r : Reduction σ γ ε) (limit : Nat) (store : σ) (cursor : γ) (log : Array LogEvent) :
    s.runFrom g' r limit store cursor (log.map (LogEvent.mapMatch f)) =
      (s.runFrom g r limit store cursor log).mapMatches f := by
  have hstep := h.step s hI
  cases hg : s.step g with
  | finished =>
    have hg' : s.step g' = .finished := by rw [hstep, hg]; rfl
    rw [State.runFrom_of_finished hg, State.runFrom_of_finished hg', RunResult.mapMatches,
      Array.map_push]
    rfl
  | undefined =>
    have hg' : s.step g' = .undefined := by rw [hstep, hg]; rfl
    rw [State.runFrom_of_undefined hg, State.runFrom_of_undefined hg', RunResult.mapMatches]
  | stuck =>
    have hg' : s.step g' = .stuck := by rw [hstep, hg]; rfl
    rw [State.runFrom_of_stuck hg, State.runFrom_of_stuck hg', RunResult.mapMatches]
  | matched m t => exact absurd hg (hs m t)

/-- With any bound, runs leave the same. -/
theorem Lockstep.runFrom_eq (h : Lockstep g g' f I) (hI : I s) (r : Reduction σ γ ε) (limit : Nat)
    (store : σ) (cursor : γ) (log : Array LogEvent) :
    s.runFrom g' r limit store cursor (log.map (LogEvent.mapMatch f)) =
      (s.runFrom g r limit store cursor log).mapMatches f := by
  induction limit generalizing s store cursor log with
  | zero =>
    cases hs : s.step g with
    | matched m t =>
      have hs' : s.step g' = .matched (f m) t := by rw [h.step s hI, hs]; rfl
      rw [State.runFrom_zero_of_matched hs, State.runFrom_zero_of_matched hs',
        RunResult.mapMatches]
    | _ => exact h.runFrom_eq_of_halts hI (by simp [State.Halts, hs]) r 0 store cursor log
  | succ limit ih =>
    cases hs : s.step g with
    | matched m t =>
      have hs' : s.step g' = .matched (f m) t := by rw [h.step s hI, hs]; rfl
      have hlog : (log.map (LogEvent.mapMatch f)).push (.matched (f m) t.position) =
          (log.push (.matched m t.position)).map (LogEvent.mapMatch f) := by
        rw [Array.map_push]
        rfl
      have ht : I t := h.kept s m t hI hs
      cases hm : m.token? with
      | none =>
        have hm' : (f m).token? = none := (h.token m).trans hm
        rw [State.runFrom_succ_of_dropped hs hm, State.runFrom_succ_of_dropped hs' hm', hlog]
        exact ih ht store cursor _
      | some token =>
        have hm' : (f m).token? = some token := (h.token m).trans hm
        rcases hr : r.reduce store cursor token with ⟨store', e | cursor'⟩
        · rw [State.runFrom_succ_of_rejected hs hm hr, State.runFrom_succ_of_rejected hs' hm' hr,
            hlog, RunResult.mapMatches]
        · rw [State.runFrom_succ_of_accepted hs hm hr, State.runFrom_succ_of_accepted hs' hm' hr,
            hlog]
          exact ih ht store' cursor' _
    | _ => exact h.runFrom_eq_of_halts hI (by simp [State.Halts, hs]) r _ store cursor log

/-- And so do whole runs. -/
theorem Lockstep.run_eq (h : Lockstep g g' f I) (hI : I s) (r : Reduction σ γ ε) (limit : Nat)
    (store : σ) : s.run g' r limit store = (s.run g r limit store).mapMatches f := by
  have hlog : #[LogEvent.started s.active (byteCount s.rest)] =
      Array.map (LogEvent.mapMatch f) #[.started s.active (byteCount s.rest)] := by
    simp [LogEvent.mapMatch]
  rw [State.run, hlog]
  exact h.runFrom_eq hI r limit store r.root _

/-- They are equal if no match is changed. -/
theorem Lockstep.run_eq_of_id (h : Lockstep g g' id I) (hI : I s) (r : Reduction σ γ ε)
    (limit : Nat) (store : σ) : s.run g' r limit store = s.run g r limit store := by
  rw [h.run_eq hI, RunResult.mapMatches_id]

/-- A run keeps the property. -/
theorem Lockstep.kept_run (h : Lockstep g g' f I) (hI : I s) (r : Reduction σ γ ε) (limit : Nat)
    (store : σ) : I (s.run g r limit store).state :=
  (s.path_run g r limit store).kept h.kept hI

/-- Runs one after the other keep the property. -/
theorem Lockstep.kept_afterRuns (h : Lockstep g g' f I) (hI : I s) (runs : List (Client × Nat)) :
    I (s.afterRuns g runs) := by
  induction runs generalizing s with
  | nil => exact hI
  | cons run runs ih =>
    obtain ⟨c, limit⟩ := run
    exact ih (h.kept_run hI c.reduction limit c.store)

/-- They lead to the same state under both grammars. -/
theorem Lockstep.afterRuns_eq (h : Lockstep g g' f I) (hI : I s) (runs : List (Client × Nat)) :
    s.afterRuns g' runs = s.afterRuns g runs := by
  induction runs generalizing s with
  | nil => rfl
  | cons run runs ih =>
    obtain ⟨c, limit⟩ := run
    have hstate : (s.run g' c.reduction limit c.store).state =
        (s.run g c.reduction limit c.store).state := by
      rw [h.run_eq hI]
      rfl
    rw [State.afterRuns, State.afterRuns, hstate]
    exact ih (h.kept_run hI c.reduction limit c.store)

/-- A run without a bound ends under one of the grammars exactly if it does so under the other
one. -/
theorem Lockstep.exists_ends_iff (h : Lockstep g g' f I) (hI : I s) :
    (∃ n res, s.Ends g' r store n res) ↔ ∃ n res, s.Ends g r store n res := by
  simp only [State.exists_ends_iff, h.run_eq hI, RunResult.mapMatches]

/-- It ends behind the same number of matches and leaves the same. -/
theorem Lockstep.ends_eq (h : Lockstep g g' f I) (hI : I s) (hends : s.Ends g r store n res)
    (hends' : s.Ends g' r store n' res') : n' = n ∧ res' = res.mapMatches f := by
  have hhits (limit : Nat) : (s.run g r limit store).outcome = .error .tooManyMatches ↔
      (s.run g' r limit store).outcome = .error .tooManyMatches := by
    rw [h.run_eq hI, RunResult.mapMatches]
  obtain rfl := hends.length_eq_of_hits_iff hends' hhits
  have hrun : s.run g r n store = res := hends.run_eq (Nat.le_refl n)
  have hrun' : s.run g' r n store = res' := hends'.run_eq (Nat.le_refl n)
  exact ⟨rfl, by rw [← hrun', h.run_eq hI, hrun]⟩

end

end ModalLexer
