import ModalLexer.Proofs.Extension
import ModalLexer.Proofs.Lockstep
import ModalLexer.Proofs.Retry

/-!
# The names that a lexer can come to

A transition moves to a name that need not have a context. Which names a lexer can come to is seen
from the grammar without a text: they are the start and, with every name, the targets of the rules
of its context (`Grammar.Reaches`). `runs_within_reach` says what this set decides. However often a
lexer is run, the active name is one of the set; a run stops at an undefined name only if a name of
the set has no context, and it does so right behind the match that moves there; and contexts under
other names do not matter to any run.

All of this comes from one step (`Grammar.Reaches.step`): it consults the context under the active
name, and it leads to a target of this context or stays. Two grammars that agree on the set are in
lockstep as long as the active name is one of it (`Grammar.lockstep_of_agree`). Whether a list of
names holds the set is found by looking at the targets of each (`Grammar.Reaches.mem_of_closed`).
-/

namespace ModalLexer

/-! ## Reachable names -/

/-- The name to which a transition moves, if it moves at all. -/
def Transition.target? : Transition → Option String
  | skip | produceSelf => none
  | goto target => some target
  | produce name => some name

/-- The name behind a transition is its target, or the active name if it has none. -/
theorem Transition.next_eq_getD (t : Transition) (active : String) :
    t.next active = t.target?.getD active := by
  cases t <;> rfl

/-- The names to which the rules of the context under a name move, or none without a context. -/
def Grammar.targets (g : Grammar) (name : String) : List String :=
  ((g.get? name).getD []).filterMap fun rule => rule.transition.target?

/-- The names that a lexer can come to from the name `start`: `start` itself and, with every such
name, the targets of the rules of its context. -/
inductive Grammar.Reaches (g : Grammar) (start : String) : String → Prop
  | start : g.Reaches start start
  | target {name target : String} (h : g.Reaches start name) (htarget : target ∈ g.targets name) :
    g.Reaches start target

/-- They are among any names that hold `start` and, with every name, its targets. -/
theorem Grammar.Reaches.mem_of_closed {g : Grammar} {start name : String} {names : List String}
    (h : g.Reaches start name) (hstart : start ∈ names)
    (hclosed : ∀ name ∈ names, ∀ target ∈ g.targets name, target ∈ names) : name ∈ names := by
  induction h with
  | start => exact hstart
  | target _ htarget ih => exact hclosed _ ih _ htarget

variable {g g' : Grammar} {start : String} {input : Text} {s t : State} {m : Match}
  {ms : List Match}

/-- A step leads from a reachable name to a reachable name. -/
theorem Grammar.Reaches.step (h : g.Reaches start s.active) (hs : s.step g = .matched m t) :
    g.Reaches start t.active := by
  obtain ⟨-, -, ⟨c, hc, hprefers⟩, rfl⟩ := State.step_eq_matched_iff.1 hs
  have hnext : (s.after m).active = m.rule.transition.target?.getD s.active :=
    m.rule.transition.next_eq_getD s.active
  rw [hnext]
  cases htarget : m.rule.transition.target? with
  | none => exact h
  | some target =>
    refine h.target ?_
    rw [Grammar.targets, hc, Option.getD_some]
    exact List.mem_filterMap.2 ⟨m.rule, hprefers.mem, htarget⟩

/-- So however often a lexer has been run, the active name is reachable. -/
theorem History.reaches (h : History g start input ms s) : g.Reaches start s.active :=
  h.path.kept (P := fun s => g.Reaches start s.active) (fun _ _ _ hs hstep => hs.step hstep) .start

/-! ## Undefined names -/

/-- A path to a name without a context is empty, or its last match moves to this name. -/
theorem Path.last_target (h : Path g s ms t) (hnone : g.get? t.active = none) :
    (ms = [] ∧ t = s) ∨
      ∃ before m, ms = before ++ [m] ∧ m.rule.transition.target? = some t.active := by
  rcases List.eq_nil_or_concat ms with rfl | ⟨before, m, rfl⟩
  · cases h
    exact .inl ⟨rfl, rfl⟩
  · rw [List.concat_eq_append] at h ⊢
    obtain ⟨u, -, hstep⟩ := h.exists_last
    obtain ⟨-, -, ⟨c, hc, -⟩, rfl⟩ := State.step_eq_matched_iff.1 hstep
    have hnext : (u.after m).active = m.rule.transition.target?.getD u.active :=
      m.rule.transition.next_eq_getD u.active
    refine .inr ⟨before, m, rfl, ?_⟩
    rw [hnext] at hnone ⊢
    cases htarget : m.rule.transition.target? with
    | none =>
      -- The lexer would have stayed at a name that has a context.
      rw [htarget, Option.getD_none, hc] at hnone
      exact absurd hnone (by simp)
    | some target => rfl

section

variable {σ γ ε : Type} {r : Reduction σ γ ε} {store : σ} {n : Nat} {res : RunResult σ γ ε}
  {name : String}

/-- A run that is stopped at an undefined name stops with this name active, in front of text. -/
theorem State.Ends.step_eq_undefined (h : s.Ends g r store n res)
    (hout : res.outcome = .error (.undefinedToken name)) :
    res.state.step g = .undefined ∧ res.state.active = name := by
  have hend := Runs.ending_eq h (by simp [hout])
  rw [hout] at hend
  exact State.ending_eq_undefined_iff.1 hend

/-- So a run is not stopped in this way if all reachable names have a context. -/
theorem History.outcome_ne_undefined (h : History g start input ms s)
    (hall : ∀ name, g.Reaches start name → g.get? name ≠ none) (r : Reduction σ γ ε) (limit : Nat)
    (store : σ) : (s.run g r limit store).outcome ≠ .error (.undefinedToken name) := by
  intro hout
  have hends : ∃ n ≤ limit, s.Ends g r store n (s.run g r limit store) :=
    runs_of_runFrom (by rw [State.run] at hout; simp [hout])
  obtain ⟨n, -, hends⟩ := hends
  obtain ⟨hstep, -⟩ := hends.step_eq_undefined hout
  obtain ⟨-, hnone⟩ := State.step_eq_undefined_iff.1 hstep
  exact hall _ (h.ends hends).reaches hnone

end

/-! ## Other contexts -/

/-- Two grammars that agree on the reachable names are in lockstep at these names. -/
theorem Grammar.lockstep_of_agree
    (h : ∀ name, g.Reaches start name → g'.get? name = g.get? name) :
    Lockstep g g' id fun s => g.Reaches start s.active :=
  .of_step_eq (fun _ hs => State.step_eq_of_get?_eq (h _ hs)) fun _ _ _ hs hstep => hs.step hstep

/-- So runs are the same under both, from every state at a reachable name. -/
theorem Grammar.run_eq_of_agree {σ γ ε : Type}
    (h : ∀ name, g.Reaches start name → g'.get? name = g.get? name) (hs : g.Reaches start s.active)
    (r : Reduction σ γ ε) (limit : Nat) (store : σ) :
    s.run g' r limit store = s.run g r limit store :=
  (Grammar.lockstep_of_agree h).run_eq_of_id hs r limit store

/-- The names that a lexer can come to bound what its runs do.

The active name is reachable, after every history of runs. A run is stopped at an undefined name
only if this name is reachable and has no context. It is active then, and text is left. All text in
front has been passed by matches up to the one that moves to the name, unless there has been none at
all, and no token has been handed over but those of these matches. So this does not happen to any
run if every reachable name has a context.

A grammar that agrees with this one on the reachable names, in the contexts and in their absence,
cannot be told from it: from the state behind any runs, with any clients, which is the same state,
every run with a bound leaves the same, its log included, and every run without a bound ends behind
the same matches and the same calls. -/
theorem runs_within_reach {σ γ ε : Type} (g : Grammar) (start : String) (input : Text)
    (r : Reduction σ γ ε) (store : σ) :
    (∀ ms s, History g start input ms s → g.Reaches start s.active) ∧
      (∀ ms s n calls res name, History g start input ms s → s.EndsCalling g r store n calls res →
        res.outcome = .error (.undefinedToken name) →
          g.Reaches start name ∧ g.get? name = none ∧
          res.state.active = name ∧ res.state.rest ≠ [] ∧
          textOf (ms ++ matchesOf res.log) ++ res.state.rest = input ∧
          calls = tokensOf (matchesOf res.log) ∧
          ((ms ++ matchesOf res.log = [] ∧ name = start) ∨
            ∃ before m, ms ++ matchesOf res.log = before ++ [m] ∧
              m.rule.transition.target? = some name)) ∧
      ((∀ name, g.Reaches start name → g.get? name ≠ none) →
        ∀ ms s limit name, History g start input ms s →
          (s.run g r limit store).outcome ≠ .error (.undefinedToken name)) ∧
      ∀ g' : Grammar, (∀ name, g.Reaches start name → g'.get? name = g.get? name) →
        ∀ before : List (Client × Nat), ∃ s,
          (State.fresh start input).afterRuns g before = s ∧
          (State.fresh start input).afterRuns g' before = s ∧
          (∀ limit, s.run g' r limit store = s.run g r limit store) ∧
          ∀ n calls res,
            s.EndsCalling g' r store n calls res ↔ s.EndsCalling g r store n calls res := by
  refine ⟨fun ms s h => h.reaches, ?_, ?_, ?_⟩
  · intro ms s n calls res name h hcalling hout
    -- With the run, the history is one more history, and its end has no context.
    have hhistory := h.ends hcalling.1
    obtain ⟨hstep, rfl⟩ := hcalling.1.step_eq_undefined hout
    obtain ⟨hrest, hnone⟩ := State.step_eq_undefined_iff.1 hstep
    refine ⟨hhistory.reaches, hnone, rfl, hrest, hhistory.path.textOf_append_rest,
      hcalling.calls_eq, ?_⟩
    rcases hhistory.path.last_target hnone with ⟨hnil, hfresh⟩ | hlast
    · exact .inl ⟨hnil, congrArg State.active hfresh⟩
    · exact .inr hlast
  · intro hall ms s limit name h
    exact h.outcome_ne_undefined hall r limit store
  · intro g' hagree before
    -- The runs in front lead to the same state, and to a reachable name there.
    have hlock := Grammar.lockstep_of_agree hagree
    have hfresh : g.Reaches start (State.fresh start input).active := .start
    have hbefore := hlock.afterRuns_eq hfresh before
    have hreaches := hlock.kept_afterRuns hfresh before
    have hrun {σ γ ε : Type} (r : Reduction σ γ ε) (store : σ) (limit : Nat) :=
      Grammar.run_eq_of_agree hagree hreaches r limit store
    refine ⟨_, rfl, hbefore, hrun r store, fun n calls res => ?_⟩
    -- The run that notes its calls is the same, too.
    exact and_congr (State.ends_iff_of_run_eq (hrun r store))
      (State.ends_iff_of_run_eq (hrun r.noting (store, [])))

/-- From gaps the lexer comes to words and no further. Where words have no context, a run stops
behind the first of two, and a context under a third name does not change this. -/
theorem runs_within_reach_dangling :
    (∀ name, wordGrammar.Reaches "gap" name → wordGrammar.get? name ≠ none) ∧
    (∀ limit name, ((State.fresh "gap" words).run wordGrammar collecting limit []).outcome ≠
      .error (.undefinedToken name)) ∧
    ∃ res, (State.fresh "gap" words).EndsCalling oneWordGrammar collecting [] 1
        [⟨"word", ['a', 'b']⟩] res ∧
      res.outcome = .error (.undefinedToken "word") ∧
      oneWordGrammar.Reaches "gap" "word" ∧ oneWordGrammar.get? "word" = none ∧
      textOf (matchesOf res.log) ++ res.state.rest = words ∧
      let g := oneWordGrammar.insert "line" [⟨.goto "gap", .literal ['\n']⟩]
      (∀ name, oneWordGrammar.Reaches "gap" name → g.get? name = oneWordGrammar.get? name) ∧
      (State.fresh "gap" words).EndsCalling g collecting [] 1 [⟨"word", ['a', 'b']⟩] res := by
  -- The names of both grammars are closed under their targets.
  have hnames : ∀ name, wordGrammar.Reaches "gap" name → wordGrammar.get? name ≠ none := by
    intro name h
    have hmem : name ∈ ["gap", "word"] := h.mem_of_closed (by decide) (by decide)
    rcases List.mem_pair.1 hmem with rfl | rfl <;> exact Option.some_ne_none _
  have hagree : ∀ name, oneWordGrammar.Reaches "gap" name →
      (oneWordGrammar.insert "line" [⟨.goto "gap", .literal ['\n']⟩]).get? name =
        oneWordGrammar.get? name := by
    intro name h
    have hmem : name ∈ ["gap", "word"] := h.mem_of_closed (by decide) (by decide)
    rcases List.mem_pair.1 hmem with rfl | rfl <;> rfl
  have hends : ∃ res, (State.fresh "gap" words).EndsCalling oneWordGrammar collecting [] 1
      [⟨"word", ['a', 'b']⟩] res ∧ res.outcome = .error (.undefinedToken "word") :=
    ⟨_, ⟨.reduced rfl rfl rfl <| .undefined rfl, .reduced rfl rfl rfl <| .undefined rfl⟩, rfl⟩
  obtain ⟨res, hends, hout⟩ := hends
  obtain ⟨-, -, hwithin, -⟩ := runs_within_reach wordGrammar "gap" words collecting []
  obtain ⟨-, hundefined, -, hsame⟩ := runs_within_reach oneWordGrammar "gap" words collecting []
  obtain ⟨hreaches, hnone, -, -, htext, -⟩ := hundefined _ _ _ _ _ _ .fresh hends hout
  obtain ⟨_, rfl, -, -, hiff⟩ := hsame _ hagree []
  exact ⟨hnames, fun limit name => hwithin hnames _ _ limit name .fresh, res, hends, hout, hreaches,
    hnone, htext, hagree, (hiff _ _ _).2 hends⟩

end ModalLexer
