import Mathlib.Data.List.Perm.Basic
import ModalLexer.Proofs.Lockstep
import ModalLexer.Proofs.Regex.Longest
import ModalLexer.Proofs.Storing

/-!
# Rules that exclude each other

A context takes the first of its rules that matches, so in general it matters which rule stands in
front. It does not where the rules exclude each other: the rule that is taken is the one that
matches, wherever it stands (`Context.Exclusive.firstMatch?_eq_some_iff`). Rules exclude each other
in particular where the texts that they match begin with different characters
(`Pattern.BeginsWith.excludes`).

If this holds in every context of a grammar, all of them may list their rules in any order. The
grammar can be built in this way too (`Grammar.exists_ofContexts_reorders`), every step is the same
(`Grammar.Reorders.step_eq`), and so is every run, with a bound (`Grammar.Reorders.run_eq`) or
without one (`Grammar.Reorders.endsCalling_iff`).
-/

namespace ModalLexer

/-! ## Exclusive contexts -/

/-- No text is matched by both patterns. -/
def Pattern.Excludes (p q : Pattern) : Prop := ∀ t, p.match? t = none ∨ q.match? t = none

/-- At most one rule of the context matches, whatever the text. -/
def Context.Exclusive (c : Context) : Prop := c.Pairwise fun r r' => r.pattern.Excludes r'.pattern

/-- All contexts of the grammar are exclusive. -/
def Grammar.Exclusive (g : Grammar) : Prop := ∀ a c, g.get? a = some c → c.Exclusive

/-- If a pattern excludes another one, that excludes it. -/
theorem Pattern.Excludes.symm {p q : Pattern} (h : p.Excludes q) : q.Excludes p :=
  fun t => (h t).symm

/-! ## What a match begins with -/

/-- Every text that the pattern matches begins with a character of the set. -/
def Pattern.BeginsWith (p : Pattern) (s : CharSet) : Prop :=
  ∀ t, s.EndsBefore t → p.match? t = none

/-- Patterns exclude each other if no character begins a match of both. -/
theorem Pattern.BeginsWith.excludes {p q : Pattern} {r s : CharSet} (hp : p.BeginsWith r)
    (hq : q.BeginsWith s) (h : r.Disjoint s) : p.Excludes q := by
  intro t
  by_cases ht : r.EndsBefore t
  · exact .inl (hp t ht)
  · simp only [CharSet.EndsBefore, not_forall, Bool.not_eq_false] at ht
    obtain ⟨c, hc, hr⟩ := ht
    refine .inr (hq t fun d hd => ?_)
    obtain rfl := Option.some.inj (hc.symm.trans hd)
    exact h c hr

section

open Regex

variable {source : Text} {s : CharSet} {c : Char}

/-- A run begins with a character of its set. -/
theorem Pattern.beginsWith_oneOrMore
    {h : compile (anchoredSource source) = .ok (Expr.oneOrMore s).atStart.program} :
    (regex source _ h).BeginsWith s :=
  fun _ ht => match?_oneOrMore_eq_none ht

/-- A character with a run behind it begins with this character. -/
theorem Pattern.beginsWith_charThen
    {h : compile (anchoredSource source) = .ok (Expr.charThen c s).atStart.program} :
    (regex source _ h).BeginsWith (.singleton c) := by
  intro t ht
  refine match?_charThen_eq_none fun hhead => ?_
  have hc := ht c hhead
  rw [CharSet.contains_singleton, decide_eq_true rfl] at hc
  exact Bool.noConfusion hc

/-- A run with a character behind it begins with one of the set or with this character. -/
theorem Pattern.beginsWith_thenChar
    {h : compile (anchoredSource source) = .ok (Expr.thenChar s c).atStart.program}
    (hc : s.contains c = false) : (regex source _ h).BeginsWith (s.union (.singleton c)) := by
  intro t ht
  simp only [CharSet.EndsBefore, CharSet.contains_union, CharSet.contains_singleton,
    Bool.or_eq_false_iff, decide_eq_false_iff_not] at ht
  have hcovers : s.Covers [] := fun _ h => absurd h List.not_mem_nil
  have hrun : s.EndsBefore t := fun d hd => (ht d hd).1
  exact match?_thenChar_eq_none hc hcovers hrun fun hhead => (ht c hhead).2 rfl

end

/-! ## The rule that is taken -/

variable {c c' : Context} {t text : Text} {rule : Rule} {g g' g₁ : Grammar} {name : String}
  {rules rules' : List RuleSource} {old : Option Context} {cs cs' : List (String × List RuleSource)}

/-- Two rules make an exclusive context if their patterns exclude each other. -/
theorem Context.exclusive_pair {r r' : Rule} (h : r.pattern.Excludes r'.pattern) :
    Context.Exclusive [r, r'] :=
  List.pairwise_pair.2 h

/-- Among rules that exclude each other, the one is taken that matches. -/
theorem Context.Exclusive.firstMatch?_eq_some_iff (h : c.Exclusive) :
    c.firstMatch? t = some (rule, text) ↔ rule ∈ c ∧ rule.pattern.match? t = some text := by
  rw [Context.firstMatch?_eq_some_iff]
  constructor
  · intro hprefers
    have hmem : rule ∈ c := hprefers.mem
    obtain ⟨-, -, -, -, hmatch⟩ := hprefers
    exact ⟨hmem, hmatch⟩
  · rintro ⟨hmem, hmatch⟩
    obtain ⟨before, behind, rfl⟩ := List.append_of_mem hmem
    obtain ⟨-, -, hbefore⟩ := List.pairwise_append.1 h
    refine ⟨before, behind, rfl, fun r hr => ?_, hmatch⟩
    exact (hbefore r hr rule List.mem_cons_self t).resolve_right (by simp [hmatch])

/-- Rules that exclude each other do so in any order. -/
theorem Context.Exclusive.perm (h : c.Exclusive) (hperm : c'.Perm c) : c'.Exclusive :=
  hperm.symm.pairwise h fun hr => hr.symm

/-- Of rules that exclude each other, the same one is taken in any order. -/
theorem Context.Exclusive.firstMatch?_eq_of_perm (h : c.Exclusive) (hperm : c'.Perm c) (t : Text) :
    c'.firstMatch? t = c.firstMatch? t := by
  refine Option.ext fun ⟨rule, text⟩ => ?_
  rw [(h.perm hperm).firstMatch?_eq_some_iff, h.firstMatch?_eq_some_iff, hperm.mem_iff]

/-! ## Contexts in another order -/

/-- Under every name, `g'` has the rules of `g` in some order, or both have no context. -/
def Grammar.Reorders (g' g : Grammar) : Prop :=
  ∀ name, Option.Rel List.Perm (g'.get? name) (g.get? name)

/-- The written contexts `cs'` are those of `cs`, each with its rules in some order. -/
def SameRules (cs' cs : List (String × List RuleSource)) : Prop :=
  List.Forall₂ (fun e' e => e'.1 = e.1 ∧ e'.2.Perm e.2) cs' cs

/-- Rules that can be stored can be stored in another order as well, and then the grammars differ in
the order of rules as before. -/
theorem Grammar.Reorders.store (h : g'.Reorders g) (hstore : g.store name rules = .ok (old, g₁))
    (hperm : rules'.Perm rules) :
    ∃ old' g₁', g'.store name rules' = .ok (old', g₁') ∧ g₁'.Reorders g₁ := by
  obtain ⟨added, hadded, -, rfl⟩ := storeExtended_eq_ok_iff.1 hstore
  obtain ⟨added', hadded', hperm'⟩ := List.perm_comp_forall₂ hperm hadded
  refine ⟨_, _, storeExtended_eq_ok_iff.2 ⟨added', hadded', rfl, rfl⟩, fun other => ?_⟩
  simp only [get?_insert, List.nil_append]
  split
  · exact .some hperm'
  · exact h other

/-- So a grammar can be built with its rules in another order, if it can be built at all. -/
theorem Grammar.exists_ofContexts_reorders (hcs : SameRules cs' cs)
    (hg : Grammar.ofContexts cs = .ok g) :
    ∃ g', Grammar.ofContexts cs' = .ok g' ∧ g'.Reorders g := by
  refine exists_foldlM_eq_ok_of_forall₂ hcs (fun _ => .none) ?_ hg
  intro g₀ g₀' e e' g₁ h he hok
  obtain ⟨⟨old, g₁⟩, hstore, hpure⟩ := bind_eq_ok_iff.1 hok
  obtain rfl := Except.ok.inj hpure
  obtain ⟨old', g₁', hstore', h₁⟩ := h.store hstore he.2
  rw [← he.1] at hstore'
  exact ⟨g₁', bind_eq_ok_iff.2 ⟨_, hstore', rfl⟩, h₁⟩

/-! ## Runs -/

/-- Where rules exclude each other, every step is the same in any order of the rules. -/
theorem Grammar.Reorders.step_eq (h : g'.Reorders g) (hg : g.Exclusive) (s : State) :
    s.step g' = s.step g := by
  unfold State.step
  have hactive := h s.active
  cases hc : g.get? s.active with
  | none =>
    rw [hc] at hactive
    generalize g'.get? s.active = c' at hactive
    cases hactive
    rfl
  | some c =>
    rw [hc] at hactive
    generalize g'.get? s.active = c' at hactive
    cases hactive with
    | some hperm => simp only [(hg s.active c hc).firstMatch?_eq_of_perm hperm]

/-- Where rules exclude each other, every run with a bound is the same in any order of the rules. -/
theorem Grammar.Reorders.run_eq {σ γ ε : Type} (h : g'.Reorders g) (hg : g.Exclusive) (s : State)
    (r : Reduction σ γ ε) (limit : Nat) (store : σ) :
    s.run g' r limit store = s.run g r limit store := by
  have hlock : Lockstep g g' id fun _ => True :=
    .of_step_eq (fun s _ => h.step_eq hg s) fun _ _ _ _ _ => trivial
  exact hlock.run_eq_of_id trivial r limit store

/-- Where rules exclude each other, every run makes the same calls and ends in the same way in any
order of the rules. -/
theorem Grammar.Reorders.endsCalling_iff {σ γ ε : Type} {s : State} {r : Reduction σ γ ε}
    {store : σ} {n : Nat} {calls : List Token} {res : RunResult σ γ ε} (h : g'.Reorders g)
    (hg : g.Exclusive) :
    s.EndsCalling g' r store n calls res ↔ s.EndsCalling g r store n calls res :=
  -- A run with its calls is the run itself and the one that notes them.
  and_congr (State.ends_iff_of_run_eq fun limit => h.run_eq hg s r limit store)
    (State.ends_iff_of_run_eq fun limit => h.run_eq hg s r.noting limit (store, []))

end ModalLexer
