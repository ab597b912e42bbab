import Mathlib.Data.Set.Card
import ModalLexer.Proofs.Reach
import ModalLexer.Proofs.Repetition

/-!
# Grammars by edits

A grammar is built by edits that follow one another: each of them stores the context of a list of
rules under a name, or puts a list of rules behind those of the context that is there. An edit with
a rule that is at fault changes nothing (`Grammar.edited_of_error`), and every other one puts one
context in its place and leaves all others (`Edit.apply_eq_ok_iff`). Whether an edit fails depends
on its rules alone, so the names that have a context in the end are those of the edits that did not
(`Grammar.mem_names_built_iff`).

What a run does depends on the contexts, and not on the edits that they come from. All this is
brought together in `edits_build_grammar`.
-/

namespace ModalLexer

/-! ## Edits -/

/-- One step in building a grammar. -/
inductive Edit where
  /-- Stores the context of the rules under the name. -/
  | store (name : String) (rules : List RuleSource)
  /-- Puts the rules behind those of the context under the name. -/
  | append (name : String) (rules : List RuleSource)

namespace Edit

/-- The name of the context that is stored. -/
def name : Edit → String
  | store name _ => name
  | append name _ => name

/-- The rules that are written for it. -/
def rules : Edit → List RuleSource
  | store _ rules => rules
  | append _ rules => rules

/-- The context behind whose rules they are put. -/
def base (g : Grammar) : Edit → Context
  | store _ _ => []
  | append name _ => (g.get? name).getD []

/-- Makes an edit of a grammar. -/
def apply (g : Grammar) : Edit → Except ConfigurationError (Option Context × Grammar)
  | store name rules => g.store name rules
  | append name rules => g.append name rules

/-- No rule of the edit is at fault. -/
def Sound (e : Edit) : Prop := ∀ rule ∈ e.rules, rule.Sound

variable {g g' : Grammar} {e : Edit} {old : Option Context} {fault : ConfigurationError}

/-- An edit stores rules behind those of the context that it starts from. -/
theorem apply_eq (g : Grammar) (e : Edit) :
    e.apply g = g.storeExtended e.name (e.base g) e.rules := by
  cases e <;> rfl

/-- An edit that does not fail stores one context. -/
theorem apply_eq_ok_iff : e.apply g = .ok (old, g') ↔
    ∃ added, List.Forall₂ RuleSource.StandsFor e.rules added ∧ old = g.get? e.name ∧
      g' = g.insert e.name (e.base g ++ added) := by
  rw [apply_eq]
  exact Grammar.storeExtended_eq_ok_iff

/-- An edit fails with the first rule that is at fault. -/
theorem apply_eq_error_iff : e.apply g = .error fault ↔
    ∃ front rule behind, e.rules = front ++ rule :: behind ∧ (∀ r ∈ front, r.Sound) ∧
      rule.Faulty fault := by
  rw [apply_eq]
  exact Grammar.storeExtended_eq_error_iff

/-- Whether it fails does not depend on the grammar. -/
theorem exists_apply_iff : (∃ old g', e.apply g = .ok (old, g')) ↔ e.Sound := by
  rw [Sound, ← RuleSource.exists_standsFor_iff]
  simp only [apply_eq_ok_iff]
  constructor
  · rintro ⟨_, _, added, hadded, -, -⟩
    exact ⟨added, hadded⟩
  · rintro ⟨added, hadded⟩
    exact ⟨_, _, added, hadded, rfl, rfl⟩

/-- It fails exactly if some rule is at fault. -/
theorem exists_apply_eq_error_iff :
    (∃ fault, e.apply g = .error fault) ↔ ∃ rule ∈ e.rules, ∃ fault, rule.Faulty fault := by
  have hfails : (∃ fault, e.apply g = .error fault) ↔ ¬ ∃ old g', e.apply g = .ok (old, g') := by
    rcases e.apply g with fault | ⟨old, g'⟩ <;> simp
  rw [hfails, exists_apply_iff]
  simp [Sound, RuleSource.Sound]

end Edit

namespace Grammar

/-- The grammar behind an edit. An edit that fails returns no grammar, and the one before stays. -/
def edited (g : Grammar) (e : Edit) : Grammar :=
  match e.apply g with
  | .ok (_, g') => g'
  | .error _ => g

/-- The grammar behind edits that follow one another, from the one without contexts on. -/
def built (es : List Edit) : Grammar := es.foldl edited empty

variable {g g' : Grammar} {e : Edit} {es : List Edit} {old : Option Context}
  {fault : ConfigurationError} {name : String} {c : Context}

/-- An edit that succeeds makes a new grammar. -/
theorem edited_of_ok (h : e.apply g = .ok (old, g')) : g.edited e = g' := by
  rw [edited, h]

/-- An edit that fails leaves the grammar as it was. -/
theorem edited_of_error (h : e.apply g = .error fault) : g.edited e = g := by
  rw [edited, h]

/-- The last edit is made of the grammar that the others have built. -/
theorem built_append (es : List Edit) (e : Edit) : built (es ++ [e]) = (built es).edited e :=
  List.foldl_append

/-! ## Names with a context -/

/-- A grammar with a context stored has the name of that context and those that it had. -/
theorem mem_names_insert {other : String} :
    other ∈ (g.insert name c).names ↔ other = name ∨ other ∈ g.names := by
  rw [mem_names_iff, mem_names_iff, get?_insert]
  split <;> simp [*]

/-- An edit adds its name to them, unless it fails. -/
theorem mem_names_edited_iff :
    name ∈ (g.edited e).names ↔ (e.Sound ∧ e.name = name) ∨ name ∈ g.names := by
  cases h : e.apply g with
  | error fault =>
    have hsound : ¬ e.Sound := fun hsound => by
      obtain ⟨old, g', hok⟩ := Edit.exists_apply_iff.2 hsound
      rw [h] at hok
      exact absurd hok (by simp)
    rw [edited_of_error h]
    simp [hsound]
  | ok res =>
    obtain ⟨old, g'⟩ := res
    have hsound : e.Sound := Edit.exists_apply_iff.1 ⟨old, g', h⟩
    obtain ⟨added, -, -, rfl⟩ := Edit.apply_eq_ok_iff.1 h
    rw [edited_of_ok h, mem_names_insert]
    simp [hsound, eq_comm]

/-- So the names with a context are those of the edits that did not fail. -/
theorem mem_names_built_iff : name ∈ (built es).names ↔ ∃ e ∈ es, e.Sound ∧ e.name = name := by
  induction es using List.reverseRecOn with
  | nil => simp [built, names, empty]
  | append_singleton es e ih =>
    rw [built_append, mem_names_edited_iff, ih]
    simp [or_and_right, exists_or, or_comm]

/-- The number of names with a context is the number of names that have ever been stored. -/
theorem size_built : (built es).size = {name | ∃ e ∈ es, e.Sound ∧ e.name = name}.ncard := by
  rw [← card_names, ← Set.ncard_coe_finset]
  congr 1
  ext name
  simp [mem_names_built_iff]

end Grammar

/-! ## Histories -/

/-- The history of a grammar tells what becomes of it.

An edit fails exactly if some rule of its list is at fault, and then with what is at fault with the
first such rule; the grammar stays as it is. Otherwise it returns the context that was stored under
its name, or none. Afterwards the rules of its list are found there in their order, behind those of
before if it appends, and every other name has the context that it had. There are as many names with
a context as names that have ever been stored.

Two histories that leave the same context under each name lead to grammars that no run tells apart,
and no run without a bound either. -/
theorem edits_build_grammar {σ γ ε : Type} (es : List Edit) (r : Reduction σ γ ε) (store : σ) :
    (∀ e : Edit, (∃ fault, e.apply (.built es) = .error fault) ↔
        ∃ rule ∈ e.rules, ∃ fault, rule.Faulty fault) ∧
      (∀ (e : Edit) fault, e.apply (.built es) = .error fault →
        (∃ front rule behind, e.rules = front ++ rule :: behind ∧ (∀ r ∈ front, r.Sound) ∧
          rule.Faulty fault) ∧
        Grammar.built (es ++ [e]) = .built es) ∧
      (∀ (e : Edit) old g, e.apply (.built es) = .ok (old, g) →
        Grammar.built (es ++ [e]) = g ∧ old = (Grammar.built es).get? e.name ∧
        (∃ added, List.Forall₂ RuleSource.StandsFor e.rules added ∧
          g.get? e.name = some (e.base (.built es) ++ added)) ∧
        ∀ name, name ≠ e.name → g.get? name = (Grammar.built es).get? name) ∧
      (Grammar.built es).size = {name | ∃ e ∈ es, e.Sound ∧ e.name = name}.ncard ∧
      ∀ es' : List Edit,
        (∀ name, (Grammar.built es').get? name = (Grammar.built es).get? name) →
        ∀ start input,
          (∀ limit, parse (.built es') start input r limit store =
            parse (.built es) start input r limit store) ∧
          ∀ n calls res,
            (State.fresh start input).EndsCalling (.built es') r store n calls res ↔
              (State.fresh start input).EndsCalling (.built es) r store n calls res := by
  refine ⟨fun e => Edit.exists_apply_eq_error_iff, fun e fault h => ⟨?_, ?_⟩, ?_,
    Grammar.size_built, ?_⟩
  · exact Edit.apply_eq_error_iff.1 h
  · rw [Grammar.built_append, Grammar.edited_of_error h]
  · intro e old g h
    obtain ⟨added, hadded, hold, hg⟩ := Edit.apply_eq_ok_iff.1 h
    refine ⟨by rw [Grammar.built_append, Grammar.edited_of_ok h], hold, ⟨added, hadded, ?_⟩, ?_⟩
    · rw [hg, Grammar.get?_insert, if_pos rfl]
    · intro name hne
      rw [hg, Grammar.get?_insert, if_neg hne]
  · intro es' hsame start input
    have hstart : (Grammar.built es).Reaches start (State.fresh start input).active := .start
    have hrun {σ γ ε : Type} (r : Reduction σ γ ε) (store : σ) (limit : Nat) :
        (State.fresh start input).run (.built es') r limit store =
          (State.fresh start input).run (.built es) r limit store :=
      Grammar.run_eq_of_agree (fun name _ => hsame name) hstart r limit store
    exact ⟨hrun r store, fun n calls res => and_congr (State.ends_iff_of_run_eq (hrun r store))
      (State.ends_iff_of_run_eq (hrun r.noting (store, [])))⟩

/-- Words and gaps are stored, and a rule is put behind that of the gaps. A further edit has two
rules with empty keys, and the first of them comes with a regular expression that does not compile:
this is what is reported, and two contexts stay. Stored in another order, they lead to the same
runs. -/
theorem edits_build_grammar_words :
    let word : Edit := .store "word" [.keyed "&gap" (.literal [])]
    let gap : Edit := .store "gap" [.keyed "&" (.literal ['\n'])]
    let more : Edit := .append "gap" [.keyed "word" (.literal ['a', 'b'])]
    let faulty : Edit := .append "gap"
      [.direct .skip (.literal ['x']), .keyed "" (.regex ['(']), .keyed "" (.literal [])]
    (∃ old g, more.apply (.built [word, gap]) = .ok (old, g) ∧ Grammar.built [word, gap, more] = g ∧
      old = some [⟨.skip, .literal ['\n']⟩] ∧
      g.get? "word" = (Grammar.built [word, gap]).get? "word") ∧
    (∃ cause, faulty.apply (.built [word, gap, more]) = .error (.invalidRegex ['('] cause)) ∧
    Grammar.built [word, gap, more, faulty] = .built [word, gap, more] ∧
    (∀ name, (Grammar.built [gap, more, word]).get? name =
      (Grammar.built [word, gap, more]).get? name) ∧
    ∀ limit, parse (.built [gap, more, word]) "gap" words collecting limit [] =
      parse (.built [word, gap, more]) "gap" words collecting limit [] := by
  intro word gap more faulty
  obtain ⟨old, g, hmore⟩ : ∃ old g, more.apply (.built [word, gap]) = .ok (old, g) := ⟨_, _, rfl⟩
  obtain ⟨cause, hfaulty⟩ : ∃ cause, faulty.apply (.built [word, gap, more]) =
      .error (.invalidRegex ['('] cause) := ⟨_, rfl⟩
  obtain ⟨-, -, hstores, -⟩ := edits_build_grammar [word, gap] collecting []
  obtain ⟨hbuilt, hold, -, hothers⟩ := hstores more old g hmore
  obtain ⟨-, hfails, -, -, hsame⟩ := edits_build_grammar [word, gap, more] collecting []
  have hnames : ∀ name, (Grammar.built [gap, more, word]).get? name =
      (Grammar.built [word, gap, more]).get? name := by
    intro name
    by_cases hword : name = "word"
    · rw [hword]
      rfl
    · by_cases hgap : name = "gap"
      · rw [hgap]
        rfl
      · -- There is nothing under any other name.
        have hnone {g : Grammar} (hg : ∀ n ∈ g.names, n = "word" ∨ n = "gap") :
            g.get? name = none := by
          by_contra hsome
          rcases hg name (Grammar.mem_names_iff.2 hsome) with rfl | rfl
          · exact hword rfl
          · exact hgap rfl
        have hleft : (Grammar.built [gap, more, word]).names = ["gap", "word"] := rfl
        have hright : (Grammar.built [word, gap, more]).names = ["word", "gap"] := rfl
        rw [hnone (by simp [hleft]), hnone (by simp [hright])]
  exact ⟨⟨old, g, hmore, hbuilt, hold, hothers "word" (by decide)⟩, ⟨cause, hfaulty⟩,
    (hfails faulty _ hfaulty).2, hnames, (hsame _ hnames "gap" words).1⟩

end ModalLexer
