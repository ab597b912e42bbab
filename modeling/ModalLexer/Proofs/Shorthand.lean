import ModalLexer.Proofs.Lockstep

/-!
# Transitions that stay are shorthand

A transition that stays at the active name can be written as one that moves there, since the context
that is consulted is always the one under the active name. `Grammar.spellOut` writes every context
in this way, for the name that it stands under. `runs_spellOut` says that nothing else is changed by
it: however often a lexer is run, the runs under both grammars make the same matches by the same
rules, but for the transitions written out, hand over the same tokens at the same cursors, stop in
the same way, and go through the same states.
-/

namespace ModalLexer

/-! ## Transitions written out -/

/-- The transition that moves to the name `active` where `t` stays there. -/
def Transition.spellOut (active : String) (t : Transition) : Transition :=
  match t with
  | skip => goto active
  | goto target => goto target
  | produceSelf => produce active
  | produce name => produce name

/-- The rule with its transition written out. -/
def Rule.spellOut (active : String) (r : Rule) : Rule :=
  { r with transition := r.transition.spellOut active }

/-- The match by the rule with its transition written out. -/
def Match.spellOut (m : Match) : Match := { m with rule := m.rule.spellOut m.active }

/-- The context with the transitions of its rules written out. -/
def Context.spellOut (active : String) (c : Context) : Context := c.map (Rule.spellOut active)

/-- The grammar with every transition written out, each for the name of its context. -/
def Grammar.spellOut (g : Grammar) : Grammar where
  entries := g.entries.map fun e => (e.1, Context.spellOut e.1 e.2)
  nodup := by
    have h : Prod.fst ∘ (fun e : String × Context => (e.1, Context.spellOut e.1 e.2)) = Prod.fst :=
      rfl
    simpa [h] using g.nodup

/-- Where the name `active` is active, the transition written out leads to the same name. -/
theorem Transition.next_spellOut (t : Transition) (active : String) :
    (t.spellOut active).next active = t.next active := by
  cases t <;> rfl

/-- The transition written out makes a token exactly if the transition does. -/
theorem Transition.produces_spellOut (t : Transition) (active : String) :
    (t.spellOut active).produces = t.produces := by
  cases t <;> rfl

/-- A match written out makes the same token. -/
theorem Match.token?_spellOut (m : Match) : m.spellOut.token? = m.token? := by
  simp only [token?, spellOut, Rule.spellOut, Transition.produces_spellOut,
    Transition.next_spellOut]

/-- A match written out leads to the same state. -/
theorem State.after_spellOut {s : State} {m : Match} (h : m.active = s.active) :
    s.after m.spellOut = s.after m := by
  simp only [after, Match.spellOut, Rule.spellOut, h, Transition.next_spellOut]

/-- The rule that matches first is the same, with its transition written out. -/
theorem Context.firstMatch?_spellOut (c : Context) (active : String) (t : Text) :
    (c.spellOut active).firstMatch? t =
      (c.firstMatch? t).map fun found => (found.1.spellOut active, found.2) :=
  firstMatch?_map (f := Rule.spellOut active) (fun _ => rfl) c t

/-- Under every name stands the context of the grammar, written out for this name. -/
theorem Grammar.get?_spellOut (g : Grammar) (name : String) :
    g.spellOut.get? name = (g.get? name).map (Context.spellOut name) :=
  lookup_map_entries (fun _ _ => id) Context.spellOut g.entries name

/-! ## Runs -/

/-- Every step is the same step with the transition written out. -/
theorem State.step_spellOut (s : State) (g : Grammar) :
    s.step g.spellOut = (s.step g).mapMatch Match.spellOut := by
  unfold step
  split
  · rfl
  · rw [Grammar.get?_spellOut]
    cases g.get? s.active with
    | none => rfl
    | some c =>
      simp only [Option.map_some, Context.firstMatch?_spellOut]
      cases c.firstMatch? s.rest with
      | none => rfl
      | some found =>
        have hafter : s.after (Match.spellOut ⟨s.active, found.1, found.2⟩) =
            s.after ⟨s.active, found.1, found.2⟩ := after_spellOut rfl
        simp only [Option.map_some, Step.mapMatch, Step.matched.injEq]
        exact ⟨rfl, hafter⟩

/-- So the two grammars are in lockstep, in all states. -/
theorem Grammar.lockstep_spellOut (g : Grammar) :
    Lockstep g g.spellOut Match.spellOut fun _ => True where
  step s _ := s.step_spellOut g
  token := Match.token?_spellOut
  kept _ _ _ _ _ := trivial

/-- The state behind runs one after the other is the same under both grammars. -/
theorem State.afterRuns_spellOut (g : Grammar) (runs : List (Client × Nat)) (s : State) :
    s.afterRuns g.spellOut runs = s.afterRuns g runs :=
  g.lockstep_spellOut.afterRuns_eq trivial runs

/-- A rule that stays at the active name does what the rule does that moves there. Let one lexer
make any runs from the start of a text, with any clients, cut off by any bounds. With all
transitions written out it comes through the same states. The next run, with any bound, makes the
same matches, by the same rules with their transitions written out, and the same calls; it leaves
the same state and the same store, and returns the same. Without a bound, it ends exactly if it does
so without the transitions written out, and then behind as many matches and in the same way. -/
theorem runs_spellOut {σ γ ε : Type} (g : Grammar) (start : String) (input : Text)
    (before : List (Client × Nat)) (r : Reduction σ γ ε) (store : σ) :
    ∃ s, (State.fresh start input).afterRuns g before = s ∧
      (State.fresh start input).afterRuns g.spellOut before = s ∧
      (∀ limit,
        (s.run g.spellOut r limit store).state = (s.run g r limit store).state ∧
        (s.run g.spellOut r limit store).store = (s.run g r limit store).store ∧
        (s.run g.spellOut r limit store).outcome = (s.run g r limit store).outcome ∧
        matchesOf (s.run g.spellOut r limit store).log =
          (matchesOf (s.run g r limit store).log).map Match.spellOut ∧
        (s.run g.spellOut r.recording limit (store, [])).store.2 =
          (s.run g r.recording limit (store, [])).store.2) ∧
      ((∃ n res, s.Ends g.spellOut r store n res) ↔ ∃ n res, s.Ends g r store n res) ∧
      ∀ n res n' res', s.Ends g r store n res → s.Ends g.spellOut r store n' res' →
        n' = n ∧ res'.state = res.state ∧ res'.store = res.store ∧ res'.outcome = res.outcome ∧
          matchesOf res'.log = (matchesOf res.log).map Match.spellOut := by
  have h := g.lockstep_spellOut
  refine ⟨_, rfl, State.afterRuns_spellOut g before _, fun limit => ?_, ?_, ?_⟩
  · rw [h.run_eq trivial, h.run_eq trivial]
    exact ⟨rfl, rfl, rfl, matchesOf_map _ _, rfl⟩
  · exact h.exists_ends_iff trivial
  · intro n res n' res' hends hends'
    obtain ⟨rfl, rfl⟩ := h.ends_eq trivial hends hends'
    exact ⟨rfl, rfl, rfl, rfl, matchesOf_map _ _⟩

end ModalLexer
