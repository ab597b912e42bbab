import ModalLexer.Proofs.Lexes
import ModalLexer.Proofs.Regex.Longest

/-!
# Texts cut short

A match may depend on the text behind it, so in general a lexer takes the front of a text apart in
another way than the whole text. Here it does not: a pattern can be cut if what it matches at the
front of a text it also matches when the text behind the match is cut short, and where it does not
match a text it matches no front of the text either. Runs of a set can be cut, with a character in
front or behind (`Pattern.cuttable_oneOrMore`, `Pattern.cuttable_charThen`,
`Pattern.cuttable_thenChar`).

If all patterns of a grammar can be cut, then a path can be walked over every front of its text that
holds its matches (`Path.cut`), and where a lexer halts with text left, it halts in front of every
front of that text (`State.Halts.cut`).
-/

namespace ModalLexer

/-! ## Patterns -/

/-- The pattern can be cut: less text behind a match does not change it, and less text in front of
which there is no match does not bring one about. -/
structure Pattern.Cuttable (p : Pattern) : Prop where
  stays : ∀ {w t u : Text}, p.match? (w ++ t) = some w → u <+: t → p.match? (w ++ u) = some w
  fails : ∀ {t u : Text}, p.match? t = none → u <+: t → p.match? u = none

section

open Regex

variable {source : Text} {s : CharSet} {c : Char}

/-- A run of a set can be cut. -/
theorem Pattern.cuttable_oneOrMore
    {h : compile (anchoredSource source) = .ok (Expr.oneOrMore s).atStart.program} :
    (regex source _ h).Cuttable where
  stays {w t u} hmatch hu := by
    obtain ⟨v, hv, hne, hw, hend⟩ := match?_oneOrMore_eq_some_iff.1 hmatch
    obtain rfl := List.append_cancel_left hv
    exact match?_oneOrMore hne hw (hend.of_isPrefix hu)
  fails hmatch hu :=
    match?_oneOrMore_eq_none ((match?_oneOrMore_eq_none_iff.1 hmatch).of_isPrefix hu)

/-- A character with a run behind it can be cut. -/
theorem Pattern.cuttable_charThen
    {h : compile (anchoredSource source) = .ok (Expr.charThen c s).atStart.program} :
    (regex source _ h).Cuttable where
  stays {w t u} hmatch hu := by
    obtain ⟨w, v, hv, rfl, hw, hend⟩ := match?_charThen_eq_some_iff.1 hmatch
    obtain rfl := List.append_cancel_left hv
    exact match?_charThen hw (hend.of_isPrefix hu)
  fails {t u} hmatch hu := by
    refine match?_charThen_eq_none fun hhead => match?_charThen_eq_none_iff.1 hmatch ?_
    obtain ⟨v, rfl⟩ := hu
    rw [List.head?_append, hhead, Option.some_or]

/-- A run with a character behind it that is not in the set can be cut. -/
theorem Pattern.cuttable_thenChar
    {h : compile (anchoredSource source) = .ok (Expr.thenChar s c).atStart.program}
    (hc : s.contains c = false) : (regex source _ h).Cuttable where
  stays {w t u} hmatch hu := by
    obtain ⟨w, v, -, rfl, hw⟩ := (match?_thenChar_eq_some_iff hc).1 hmatch
    rw [List.append_assoc, List.singleton_append]
    exact match?_thenChar hc hw
  fails {t u} hmatch hu := by
    refine Option.eq_none_iff_forall_ne_some.2 fun m hm => ?_
    -- A match in front of `u` is one in front of the longer text.
    obtain ⟨w, v, rfl, rfl, hw⟩ := (match?_thenChar_eq_some_iff hc).1 hm
    obtain ⟨v', rfl⟩ := hu
    rw [List.append_assoc, List.cons_append, match?_thenChar hc hw] at hmatch
    exact absurd hmatch (by simp)

end

/-! ## Paths -/

/-- All patterns of the grammar can be cut. -/
def Grammar.Cuttable (g : Grammar) : Prop :=
  ∀ a c, g.get? a = some c → ∀ rule ∈ c, rule.pattern.Cuttable

variable {g : Grammar} {s s' t t' : State} {ms : List Match} {u : Text}

/-- The preferred rule stays so when the text behind its match is cut short. -/
theorem Context.Prefers.cut {c : Context} {text rest : Text} {rule : Rule}
    (hc : ∀ rule ∈ c, rule.pattern.Cuttable) (h : c.Prefers (text ++ rest) rule text)
    (hu : u <+: rest) : c.Prefers (text ++ u) rule text := by
  obtain ⟨before, behind, rfl, hbefore, hmatch⟩ := h
  have hfront : text ++ u <+: text ++ rest := (List.prefix_append_right_inj text).2 hu
  refine ⟨before, behind, rfl, fun r hr => ?_, ?_⟩
  · exact (hc r (List.mem_append_left _ hr)).fails (hbefore r hr) hfront
  · exact (hc rule (by simp)).stays hmatch hu

/-- A path can be walked over its matches with less text behind them. It leads to the same name. -/
theorem Path.cut (hg : g.Cuttable) (hg' : g.Consumes) (h : Path g s ms t) (hu : u <+: t.rest)
    (hactive : s'.active = s.active) (hrest : s'.rest = textOf ms ++ u) :
    ∃ t', Path g s' ms t' ∧ t'.active = t.active ∧ t'.rest = u := by
  induction h generalizing s' with
  | nil s => exact ⟨s', .nil s', hactive, hrest⟩
  | @cons s next t m ms hstep hpath ih =>
    have htext := State.text_append_rest_of_step hstep
    have hbehind := hpath.textOf_append_rest
    have hne := hg'.text_ne_nil hstep
    obtain ⟨-, hm, ⟨c, hc, hprefers⟩, rfl⟩ := State.step_eq_matched_iff.1 hstep
    rw [textOf_cons, List.append_assoc] at hrest
    -- What is left behind the match is a front of what was left there before.
    have hfront : textOf ms ++ u <+: (s.after m).rest :=
      hbehind ▸ (List.prefix_append_right_inj _).2 hu
    have hstep' : s'.step g = .matched m (s'.after m) := by
      refine State.step_eq_matched_iff.2 ⟨?_, hm.trans hactive.symm, ⟨c, ?_, ?_⟩, rfl⟩
      · rw [hrest]
        exact List.append_ne_nil_of_left_ne_nil hne _
      · rwa [hactive]
      · rw [← htext] at hprefers
        exact hrest ▸ hprefers.cut (hg _ c hc) hfront
    have hactive' : (s'.after m).active = (s.after m).active := by simp [State.after, hactive]
    have hrest' : (s'.after m).rest = textOf ms ++ u := by simp [State.after, hrest]
    obtain ⟨t', hpath', ht'⟩ := ih hu hactive' hrest'
    exact ⟨t', .cons hstep' hpath', ht'⟩

/-- In particular, from the beginning of a text that is cut short. -/
theorem Path.cut_fresh {a : String} {input : Text} (hg : g.Cuttable) (hg' : g.Consumes)
    (h : Path g (.fresh a input) ms t) (hu : u <+: t.rest) :
    ∃ t', Path g (.fresh a (textOf ms ++ u)) ms t' ∧ t'.active = t.active ∧ t'.rest = u := by
  have hactive : (State.fresh a (textOf ms ++ u)).active = a := rfl
  exact h.cut hg hg' hu hactive rfl

/-- Where a lexer halts, it halts with less text left. -/
theorem State.Halts.cut (hg : g.Cuttable) (h : s.Halts g) (hactive : s'.active = s.active)
    (hrest : s'.rest <+: s.rest) : s'.Halts g := by
  intro m t hstep
  obtain ⟨hne, -, ⟨c, hc, hprefers⟩, -⟩ := step_eq_matched_iff.1 hstep
  rw [hactive] at hc
  have hne' : s.rest ≠ [] := by
    intro hnil
    rw [hnil, List.prefix_nil] at hrest
    exact hne hrest
  -- The rule that matches the text that is left did not match the longer one, so it does not now.
  obtain ⟨before, behind, rfl, -, hmatch⟩ := hprefers
  have hmem : m.rule ∈ before ++ m.rule :: behind := by simp
  have hstuck := h.match?_eq_none hne' hc m.rule hmem
  rw [(hg _ _ hc m.rule hmem).fails hstuck hrest] at hmatch
  exact absurd hmatch (by simp)

end ModalLexer
