import Mathlib.Logic.Relation
import ModalLexer.Proofs.Repetition

/-!
# Grammars without cycles of empty matches

A rule that matches the empty text keeps the text that is left, so a lexer can only go on for ever
by empty matches that lead from name to name in a circle. Which empty matches a grammar allows is
seen from each rule by itself: under the name `a` the lexer can hop to `b` if a rule of the context
of `a` matches nothing of some text and leads to `b` (`Grammar.Hops`). Where hops make no cycle,
every run ends (`ends_of_no_cycle_of_hops`). A run can also end where they do make one: no text need
be there in front of which all rules of the cycle match nothing.

A run that does not end repeats a pair of active name and text left (`Proofs/Repetition.lean`).
Between the two, all matches are empty, so they are hops that lead from a name to itself
(`State.Repeats.exists_cycle`).
-/

namespace ModalLexer

variable {g : Grammar} {s t : State} {m : Match} {ms : List Match}

/-- From the name `a`, the lexer can hop to the name `b`: a rule of the context of `a` matches the
empty front of some text that is not empty, and `b` is active behind it. A rule that stays hops to
`a`. -/
def Grammar.Hops (g : Grammar) (a b : String) : Prop :=
  ∃ c rule t, g.get? a = some c ∧ rule ∈ c ∧ t ≠ [] ∧ rule.pattern.match? t = some [] ∧
    rule.transition.next a = b

/-- Where a rank goes down with every hop, hops make no cycle. -/
theorem Grammar.not_transGen_hops_of_rank (rank : String → ℕ)
    (h : ∀ a b, g.Hops a b → rank b < rank a) (a : String) : ¬ Relation.TransGen g.Hops a a := by
  have hlt {b : String} (hb : Relation.TransGen g.Hops a b) : rank b < rank a := by
    induction hb with
    | single hop => exact h _ _ hop
    | tail _ hop ih => exact (h _ _ hop).trans ih
  exact fun hcycle => Nat.lt_irrefl _ (hlt hcycle)

/-- No text comes back on a path. -/
theorem Path.length_rest_le (h : Path g s ms t) : t.rest.length ≤ s.rest.length := by
  rw [← h.textOf_append_rest, List.length_append]
  exact Nat.le_add_left _ _

/-- A step that leaves all of the text is a hop. -/
theorem State.hops_of_step (h : s.step g = .matched m t) (hrest : t.rest.length = s.rest.length) :
    g.Hops s.active t.active := by
  have htext : m.text ++ t.rest = s.rest := text_append_rest_of_step h
  have hempty : m.text = [] := by
    rw [← htext, List.length_append] at hrest
    exact List.eq_nil_of_length_eq_zero (by omega)
  obtain ⟨hne, -, ⟨c, hc, hprefers⟩, rfl⟩ := step_eq_matched_iff.1 h
  have hmem : m.rule ∈ c := hprefers.mem
  obtain ⟨-, -, -, -, hmatch⟩ := hprefers
  exact ⟨c, m.rule, s.rest, hc, hmem, hne, hempty ▸ hmatch, rfl⟩

/-- A path that leaves all of the text is made of hops. -/
theorem Path.transGen_hops (h : Path g s ms t) (hne : ms ≠ [])
    (hrest : t.rest.length = s.rest.length) : Relation.TransGen g.Hops s.active t.active := by
  induction h with
  | nil => exact absurd rfl hne
  | @cons s next t m ms hstep hpath ih =>
    -- The first match and those behind it leave all of the text, since none of it comes back.
    have hfirst : next.rest.length ≤ s.rest.length := (Path.single hstep).length_rest_le
    have hbehind : t.rest.length ≤ next.rest.length := hpath.length_rest_le
    have hop : g.Hops s.active next.active := State.hops_of_step hstep (by omega)
    by_cases hms : ms = []
    · subst hms
      cases hpath
      exact .single hop
    · exact .head hop (ih hms (by omega))

/-- A lexer that repeats a pair of active name and text left goes round a cycle of hops. -/
theorem State.Repeats.exists_cycle (h : s.Repeats g) : ∃ a, Relation.TransGen g.Hops a a := by
  obtain ⟨ms, ns, t, u, ht, hu, hlt, -, -, hactive, hrest, -⟩ := h
  obtain ⟨round, rfl, hround⟩ := ht.prefix_of_length_le hu hlt.le
  have hne : round ≠ [] := by
    rintro rfl
    simp at hlt
  have hcycle := hround.transGen_hops hne (by rw [hrest])
  rw [← hactive] at hcycle
  exact ⟨t.active, hcycle⟩

/-- If hops make no cycle, every run ends, whatever the text and the reduction, and so does every
loop that is given matches enough. There is at most one match for each context and each character.
-/
theorem ends_of_no_cycle_of_hops (hg : ∀ a, ¬ Relation.TransGen g.Hops a a) (start : String)
    (input : Text) {σ γ ε : Type} (r : Reduction σ γ ε) (store : σ) :
    ∃ n ≤ g.size * input.length, ∃ res, (State.fresh start input).Ends g r store n res ∧
      ∀ limit, n ≤ limit → parse g start input r limit store = res := by
  have hrepeats : ¬ (State.fresh start input).Repeats g := by
    intro hrep
    obtain ⟨a, hcycle⟩ := hrep.exists_cycle
    exact hg a hcycle
  -- A longer path would come to the same name in front of the same text twice.
  have hle : ∀ ms t, Path g (.fresh start input) ms t → ms.length ≤ g.size * input.length :=
    fun ms t hpath => Nat.le_of_not_lt fun hlt => hrepeats (hpath.repeats_of_length hlt)
  obtain ⟨n, hn, hends⟩ := State.ends_of_path_length_le hle r store
  exact ⟨n, hn, _, hends, fun limit hlimit => hends.run_eq hlimit⟩

/-- In the grammar of words the only hop leads from a word to the gap behind it. -/
theorem wordGrammar_hops_iff {a b : String} : wordGrammar.Hops a b ↔ a = "word" ∧ b = "gap" := by
  constructor
  · rintro ⟨c, rule, t, hc, hrule, -, hmatch, rfl⟩
    -- The literals of a gap are not empty, and the one of a word is.
    have hentries : (a, c) = ("gap", [⟨.produce "word", .literal ['a', 'b']⟩,
        ⟨.skip, .literal ['\n']⟩]) ∨ (a, c) = ("word", [⟨.goto "gap", .literal []⟩]) := by
      simpa [wordGrammar, Grammar.insert, Grammar.empty] using Grammar.mem_entries_of_get? hc
    rcases hentries with hgap | hword
    · obtain ⟨rfl, rfl⟩ := Prod.mk.inj hgap
      rcases List.mem_pair.1 hrule with rfl | rfl <;> simp [Pattern.match?] at hmatch
    · obtain ⟨rfl, rfl⟩ := Prod.mk.inj hword
      obtain rfl := List.mem_singleton.1 hrule
      exact ⟨rfl, rfl⟩
  · rintro ⟨rfl, rfl⟩
    exact ⟨_, _, ['a'], rfl, List.mem_singleton_self _, List.cons_ne_nil _ _, rfl, rfl⟩

/-- A word can end with an empty match, which leads to a gap, and no match in a gap is empty. So a
text of five characters is lexed in ten matches at most, since there are two contexts. -/
theorem ends_of_no_cycle_of_hops_words :
    (∀ a, ¬ Relation.TransGen wordGrammar.Hops a a) ∧ wordGrammar.Hops "word" "gap" ∧
      ∃ n ≤ 10, ∃ res, (State.fresh "gap" words).Ends wordGrammar collecting [] n res ∧
        ∀ limit, n ≤ limit → parse wordGrammar "gap" words collecting limit [] = res := by
  have hg : ∀ a, ¬ Relation.TransGen wordGrammar.Hops a a := by
    refine Grammar.not_transGen_hops_of_rank (fun a => if a = "word" then 1 else 0) ?_
    intro a b hop
    obtain ⟨rfl, rfl⟩ := wordGrammar_hops_iff.1 hop
    decide
  exact ⟨hg, wordGrammar_hops_iff.2 ⟨rfl, rfl⟩,
    ends_of_no_cycle_of_hops hg "gap" words collecting []⟩

end ModalLexer
