import ModalLexer.Proofs.Fold
import ModalLexer.Proofs.History
import ModalLexer.Proofs.Storing

/-!
# Grammars with more rules

The rules of a context are tried in order, and the context of a name is looked up only where text is
left. So rules behind those of a context, and contexts under names that have none, come into play
only where a lexer would have stopped for want of a rule or of a context. `run_extended` says what
this means for runs: a run under a grammar is the beginning of the run under every grammar that
extends it, and all of it unless it ends in a mismatch or at a name without a context.

A step that matches is the same step under both grammars (`Grammar.ExtendedBy.step_eq`), so the two
runs stay together until the shorter one stops, and the longer one goes on from that state
(`Grammar.ExtendedBy.runFrom_cases`).
-/

namespace ModalLexer

/-- Under every name that has a context in `g`, the grammar `g'` has this context, perhaps with more
rules behind. Under the other names, `g'` has any contexts or none. -/
def Grammar.ExtendedBy (g g' : Grammar) : Prop :=
  ∀ name c, g.get? name = some c → ∃ more, g'.get? name = some (c ++ more)

/-- A grammar that is extended twice is extended. -/
theorem Grammar.ExtendedBy.trans {g₁ g₂ g₃ : Grammar} (h : g₁.ExtendedBy g₂)
    (h' : g₂.ExtendedBy g₃) : g₁.ExtendedBy g₃ := by
  intro name c hc
  obtain ⟨more, hmore⟩ := h name c hc
  obtain ⟨most, hmost⟩ := h' name _ hmore
  exact ⟨more ++ most, by rw [hmost, List.append_assoc]⟩

/-- Rules are appended behind those of a context, or they make the context of a new name. -/
theorem Grammar.extendedBy_of_append {g g' : Grammar} {name : String} {rules : List RuleSource}
    {old : Option Context} (h : g.append name rules = .ok (old, g')) : g.ExtendedBy g' := by
  obtain ⟨added, -, -, rfl⟩ := storeExtended_eq_ok_iff.1 h
  intro other c hc
  rw [get?_insert]
  split
  · next heq => exact ⟨added, by rw [← heq, hc, Option.getD_some]⟩
  · exact ⟨[], by rw [hc, List.append_nil]⟩

/-- A rule that is preferred stays so in front of more rules. -/
theorem Context.Prefers.append {c : Context} {input text : Text} {rule : Rule}
    (h : c.Prefers input rule text) (more : Context) :
    Context.Prefers (c ++ more) input rule text := by
  obtain ⟨before, behind, rfl, hbefore, hmatch⟩ := h
  exact ⟨before, behind ++ more, by simp, hbefore, hmatch⟩

section

variable {σ γ ε : Type} {g g' : Grammar} {s t : State} {m : Match} {ms : List Match}
  {r : Reduction σ γ ε} {store : σ} {limit n : Nat} {res : RunResult σ γ ε}

/-- A step that matches is made under more rules as well. -/
theorem Grammar.ExtendedBy.step_eq (h : g.ExtendedBy g') (hs : s.step g = .matched m t) :
    s.step g' = .matched m t := by
  obtain ⟨hrest, hactive, ⟨c, hc, hprefers⟩, ht⟩ := State.step_eq_matched_iff.1 hs
  obtain ⟨more, hmore⟩ := h s.active c hc
  exact State.step_eq_matched_iff.2 ⟨hrest, hactive, ⟨_, hmore, hprefers.append more⟩, ht⟩

/-- And so is every path. -/
theorem Grammar.ExtendedBy.path (h : g.ExtendedBy g') (hpath : Path g s ms t) :
    Path g' s ms t := by
  induction hpath with
  | nil s => exact .nil s
  | cons hs _ ih => exact .cons (h.step_eq hs) ih

/-! ## Runs with a bound -/

/-- A run stopped because there was no rule or no context to go on with. -/
def RunResult.Wants (res : RunResult σ γ ε) : Prop :=
  (∃ m, res.outcome = .error (.mismatch m)) ∨
    ∃ token, res.outcome = .error (.undefinedToken token)

/-- From what a run leaves, a run under the grammar `g'` goes on and ends with `res'`. -/
def RunResult.GoesOn (g' : Grammar) (r : Reduction σ γ ε) (res res' : RunResult σ γ ε) : Prop :=
  ∃ limit cursor, res' = res.state.runFrom g' r limit res.store cursor res.log

/-- Where a lexer halts, it is at the end of the text for both grammars, or the one with more rules
may go on. -/
theorem State.runFrom_extended_of_halts (g' : Grammar) (hs : s.Halts g) (r : Reduction σ γ ε)
    (limit : Nat) (store : σ) (cursor : γ) (log : Array LogEvent) :
    s.runFrom g' r limit store cursor log = s.runFrom g r limit store cursor log ∨
      ((s.runFrom g r limit store cursor log).Wants ∧
        (s.runFrom g r limit store cursor log).GoesOn g' r
          (s.runFrom g' r limit store cursor log)) := by
  cases h : s.step g with
  | finished =>
    have h' : s.step g' = .finished := step_eq_finished_iff.2 (step_eq_finished_iff.1 h)
    exact .inl ((runFrom_of_finished h').trans (runFrom_of_finished h).symm)
  | undefined =>
    rw [runFrom_of_undefined h]
    exact .inr ⟨.inr ⟨s.active, rfl⟩, limit, cursor, rfl⟩
  | stuck =>
    rw [runFrom_of_stuck h]
    exact .inr ⟨.inl ⟨s.mismatch, rfl⟩, limit, cursor, rfl⟩
  | matched m t => exact absurd h (hs m t)

/-- Under more rules, a run with a bound is the same, or it goes on where the run under fewer rules
stopped for want of one. -/
theorem Grammar.ExtendedBy.runFrom_cases (h : g.ExtendedBy g') (r : Reduction σ γ ε) (limit : Nat)
    (s : State) (store : σ) (cursor : γ) (log : Array LogEvent) :
    s.runFrom g' r limit store cursor log = s.runFrom g r limit store cursor log ∨
      ((s.runFrom g r limit store cursor log).Wants ∧
        (s.runFrom g r limit store cursor log).GoesOn g' r
          (s.runFrom g' r limit store cursor log)) := by
  induction limit generalizing s store cursor log with
  | zero =>
    cases hs : s.step g with
    | matched m t =>
      -- Both runs hit the bound, in front of the same match.
      rw [State.runFrom_zero_of_matched hs, State.runFrom_zero_of_matched (h.step_eq hs)]
      exact .inl rfl
    | _ => exact s.runFrom_extended_of_halts g' (by simp [State.Halts, hs]) r 0 store cursor log
  | succ limit ih =>
    cases hs : s.step g with
    | matched m t =>
      have hs' := h.step_eq hs
      cases hm : m.token? with
      | none =>
        rw [State.runFrom_succ_of_dropped hs hm, State.runFrom_succ_of_dropped hs' hm]
        exact ih t store cursor _
      | some token =>
        rcases hr : r.reduce store cursor token with ⟨store', e | cursor'⟩
        · -- Both runs are stopped by the same rejection.
          rw [State.runFrom_succ_of_rejected hs hm hr, State.runFrom_succ_of_rejected hs' hm hr]
          exact .inl rfl
        · rw [State.runFrom_succ_of_accepted hs hm hr, State.runFrom_succ_of_accepted hs' hm hr]
          exact ih t store' cursor' _
    | _ => exact s.runFrom_extended_of_halts g' (by simp [State.Halts, hs]) r _ store cursor log

/-- The same for whole runs. -/
theorem Grammar.ExtendedBy.run_cases (h : g.ExtendedBy g') (r : Reduction σ γ ε) (limit : Nat)
    (s : State) (store : σ) :
    s.run g' r limit store = s.run g r limit store ∨
      ((s.run g r limit store).Wants ∧
        (s.run g r limit store).GoesOn g' r (s.run g' r limit store)) :=
  h.runFrom_cases r limit s store r.root #[.started s.active (byteCount s.rest)]

/-- So a run that does not stop for want of a rule or a context stays as it is. -/
theorem Grammar.ExtendedBy.run_eq (h : g.ExtendedBy g') (hres : ¬ (s.run g r limit store).Wants) :
    s.run g' r limit store = s.run g r limit store := by
  rcases h.run_cases r limit s store with heq | ⟨hwants, -⟩
  · exact heq
  · exact absurd hwants hres

/-- And the calls of every run are the first ones of the run under more rules. -/
theorem Grammar.ExtendedBy.calls_isPrefix (h : g.ExtendedBy g') (r : Reduction σ γ ε) (limit : Nat)
    (s : State) (store : σ) :
    (s.run g r.recording limit (store, [])).store.2 <+:
      (s.run g' r.recording limit (store, [])).store.2 := by
  rcases h.run_cases r.recording limit s (store, []) with heq | ⟨-, limit', cursor', hmore⟩
  · exact heq ▸ List.prefix_rfl
  · -- The run that goes on records its calls behind those that it finds.
    rw [hmore, State.runFrom_store]
    obtain ⟨store', calls⟩ := (s.run g r.recording limit (store, [])).store
    rw [Reduction.recording_feed]
    exact List.prefix_append _ _

/-- So are its matches, and the run under more rules comes through the state in which it stops. -/
theorem Grammar.ExtendedBy.exists_path_run (h : g.ExtendedBy g') (r : Reduction σ γ ε)
    (limit : Nat) (s : State) (store : σ) :
    ∃ more, matchesOf (s.run g' r limit store).log =
        matchesOf (s.run g r limit store).log ++ more ∧
      Path g' s (matchesOf (s.run g r limit store).log) (s.run g r limit store).state ∧
      Path g' (s.run g r limit store).state more (s.run g' r limit store).state := by
  have hpath := h.path (s.path_run g r limit store)
  rcases h.run_cases r limit s store with heq | ⟨-, limit', cursor', hmore⟩
  · rw [heq]
    exact ⟨[], (List.append_nil _).symm, hpath, .nil _⟩
  · obtain ⟨more, hpath', hlog⟩ := State.exists_path_runFrom (s.run g r limit store).state g' r
      limit' (s.run g r limit store).store cursor' (s.run g r limit store).log
    rw [hmore]
    exact ⟨more, hlog, hpath, hpath'⟩

/-! ## Runs without a bound -/

/-- A run that is not stopped for want of a rule or a context ends in the same way under more
rules. -/
theorem Grammar.ExtendedBy.runs {cursor : γ} {log : Array LogEvent} (h : g.ExtendedBy g')
    (hruns : Runs g r n s store cursor log res) (hres : ¬ res.Wants) :
    Runs g' r n s store cursor log res := by
  induction hruns with
  | finished hs => exact .finished (State.step_eq_finished_iff.2 (State.step_eq_finished_iff.1 hs))
  | undefined => exact absurd (.inr ⟨_, rfl⟩) hres
  | stuck => exact absurd (.inl ⟨_, rfl⟩) hres
  | dropped hs hm _ ih => exact .dropped (h.step_eq hs) hm (ih hres)
  | reduced hs hm hr _ ih => exact .reduced (h.step_eq hs) hm hr (ih hres)
  | rejected hs hm hr => exact .rejected (h.step_eq hs) hm hr

/-- A run that ends under more rules has ended under fewer. -/
theorem Grammar.ExtendedBy.exists_ends (h : g.ExtendedBy g')
    (hends : s.Ends g' r store n res) : ∃ n res, s.Ends g r store n res := by
  by_contra hnever
  -- A run under `g` that has no end hits every bound, and so the run under `g'` does.
  have hhit : (s.run g r n store).outcome = .error .tooManyMatches := by
    by_contra hmiss
    obtain ⟨n', -, hruns⟩ := runs_of_runFrom hmiss
    exact hnever ⟨n', _, hruns⟩
  have heq : s.run g' r n store = s.run g r n store := h.run_eq (by simp [RunResult.Wants, hhit])
  have hres : s.run g' r n store = res := hends.run_eq (Nat.le_refl n)
  rw [← heq, hres] at hhit
  exact hends.outcome_ne hhit

/-- Rules that are added behind those of a context, and contexts under new names, change nothing of
what a run did without them. Under the larger grammar every run, with any bound, first makes the
matches and the calls that it makes under the smaller one, and comes through the state in which that
run stops. If the run under the smaller grammar does not stop in a mismatch or at a name without a
context, there is nothing more: both leave the same, whether the run succeeds, or a token is
rejected, or the bound is hit. Without a bound, a run that succeeds or is stopped by a rejection
ends in the same way, and a run that never ends never does. -/
theorem run_extended (h : g.ExtendedBy g') (s : State) (r : Reduction σ γ ε) (store : σ) :
    (∀ limit,
        (∃ more, matchesOf (s.run g' r limit store).log =
            matchesOf (s.run g r limit store).log ++ more ∧
          Path g' s (matchesOf (s.run g r limit store).log) (s.run g r limit store).state ∧
          Path g' (s.run g r limit store).state more (s.run g' r limit store).state) ∧
        (s.run g r.recording limit (store, [])).store.2 <+:
          (s.run g' r.recording limit (store, [])).store.2 ∧
        ((∀ m, (s.run g r limit store).outcome ≠ .error (.mismatch m)) →
          (∀ token, (s.run g r limit store).outcome ≠ .error (.undefinedToken token)) →
          s.run g' r limit store = s.run g r limit store)) ∧
      (∀ n calls res, s.EndsCalling g r store n calls res →
        ((∃ root, res.outcome = .ok root) ∨
          ∃ token e, res.outcome = .error (.reduction token e)) →
        s.EndsCalling g' r store n calls res) ∧
      ((¬ ∃ n res, s.Ends g r store n res) → ¬ ∃ n res, s.Ends g' r store n res) := by
  refine ⟨fun limit => ⟨?_, ?_, ?_⟩, ?_, ?_⟩
  · exact h.exists_path_run r limit s store
  · exact h.calls_isPrefix r limit s store
  · intro hmismatch hundefined
    refine h.run_eq ?_
    rintro (⟨m, hm⟩ | ⟨token, htoken⟩)
    · exact hmismatch m hm
    · exact hundefined token htoken
  · rintro n calls res ⟨hends, hnoting⟩ hout
    have hwants : ¬ res.Wants := by
      rintro (⟨m, hm⟩ | ⟨token, htoken⟩)
      · rcases hout with ⟨root, hout⟩ | ⟨name, e, hout⟩ <;> simp [hout] at hm
      · rcases hout with ⟨root, hout⟩ | ⟨name, e, hout⟩ <;> simp [hout] at htoken
    exact ⟨h.runs hends hwants, h.runs hnoting hwants⟩
  · rintro hnever ⟨n, res, hends⟩
    exact hnever (h.exists_ends hends)

/-- One word, without a gap behind it. -/
def oneWordGrammar : Grammar :=
  Grammar.empty.insert "gap" [⟨.produce "word", .literal ['a', 'b']⟩]

/-- With a rule for gaps and a context behind words, one word is lexed as before, and of two words
the first is the beginning. -/
theorem run_extended_words : oneWordGrammar.ExtendedBy wordGrammar ∧
    (State.fresh "gap" ['a', 'b']).run wordGrammar collecting 4 [] =
      (State.fresh "gap" ['a', 'b']).run oneWordGrammar collecting 4 [] ∧
    ∃ more, matchesOf ((State.fresh "gap" words).run wordGrammar collecting 4 []).log =
        matchesOf ((State.fresh "gap" words).run oneWordGrammar collecting 4 []).log ++ more ∧
      more.length = 3 := by
  have hgap : oneWordGrammar.append "gap" [.direct .skip (.literal ['\n'])] = .ok (_, _) := rfl
  have hword : Grammar.append _ "word" [.direct (.goto "gap") (.literal [])] =
      .ok (_, wordGrammar) := rfl
  have h := (Grammar.extendedBy_of_append hgap).trans (Grammar.extendedBy_of_append hword)
  obtain ⟨hone, -⟩ := run_extended h (State.fresh "gap" ['a', 'b']) collecting []
  obtain ⟨htwo, -⟩ := run_extended h (State.fresh "gap" words) collecting []
  have hok : ((State.fresh "gap" ['a', 'b']).run oneWordGrammar collecting 4 []).outcome = .ok () :=
    rfl
  refine ⟨h, (hone 4).2.2 (by simp [hok]) (by simp [hok]), ?_⟩
  obtain ⟨more, hlog, -⟩ := (htwo 4).1
  have hcount : (matchesOf ((State.fresh "gap" words).run wordGrammar collecting 4 []).log).length =
      4 := rfl
  have hcount' :
      (matchesOf ((State.fresh "gap" words).run oneWordGrammar collecting 4 []).log).length = 1 :=
    rfl
  refine ⟨more, hlog, ?_⟩
  rw [hlog, List.length_append, hcount'] at hcount
  omega

end

end ModalLexer
