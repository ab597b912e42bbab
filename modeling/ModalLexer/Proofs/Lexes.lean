import ModalLexer.Proofs.Split

/-!
# Texts and their tokens

What a grammar makes of a text from some name on is a list of tokens, if it takes the text apart to
its end at all. `Grammar.Lexes` is this relation, without the matches in between. `Grammar.Passes`
says the same of the front of a text: where the lexer comes to, and the tokens that it makes on the
way. It is put together from single matches, and it tells what can be lexed before from what can be
lexed behind (`Grammar.Passes.lexes_iff`), so the language of a grammar can be worked out name by
name.

A run succeeds exactly if the text is lexed, within the bound, and its tokens are accepted one after
the other (`parse_ok_iff`). Where no rule matches the empty text, a bound of as many matches as
characters is no restriction (`parse_ok_iff_lexes`).
-/

namespace ModalLexer

variable {g : Grammar} {a b d : String} {c : Context} {t u v text : Text} {rule : Rule}
  {tokens made more : List Token} {ms ns : List Match} {s s' : State}

/-! ## Passing on -/

/-- From the name `a` in front of `t`, the lexer comes to the name `b` in front of `u`, and its
matches on the way make `tokens`. -/
def Grammar.Passes (g : Grammar) (a : String) (t : Text) (tokens : List Token) (b : String)
    (u : Text) : Prop :=
  ∃ ms s, Path g (.fresh a t) ms s ∧ tokensOf ms = tokens ∧ s.active = b ∧ s.rest = u

namespace Grammar.Passes

/-- Without a match, the lexer stays where it is. -/
theorem refl (g : Grammar) (a : String) (t : Text) : g.Passes a t [] a t :=
  ⟨[], _, .nil _, rfl, rfl, rfl⟩

/-- A path from where the lexer comes to goes on the path that leads there. -/
theorem exists_path_append (h : g.Passes a t made b u) (hpath : Path g (.fresh b u) ns s') :
    ∃ ms s, Path g (.fresh a t) ms s ∧ tokensOf ms = made ++ tokensOf ns ∧
      s.active = s'.active ∧ s.rest = s'.rest := by
  obtain ⟨ms, s, hfirst, rfl, hactive, hrest⟩ := h
  obtain ⟨s'', hnext, hactive', hrest'⟩ := hpath.transfer hactive hrest
  exact ⟨ms ++ ns, s'', hfirst.append hnext, tokensOf_append ms ns, hactive', hrest'⟩

/-- A path to where the lexer halts comes through every place on the way. -/
theorem exists_path_of_halts (h : g.Passes a t made b u) (hpath : Path g (.fresh a t) ms s)
    (hs : s.Halts g) :
    ∃ ns s', Path g (.fresh b u) ns s' ∧ tokensOf ms = made ++ tokensOf ns ∧
      s'.active = s.active ∧ s'.rest = s.rest := by
  obtain ⟨front, s₁, hfirst, rfl, rfl, rfl⟩ := h
  obtain ⟨ns, rfl, hnext⟩ :=
    hfirst.prefix_of_length_le hpath (hpath.length_le_of_halts hs hfirst)
  have hname : (State.fresh s₁.active s₁.rest).active = s₁.active := rfl
  obtain ⟨s', hpath', hactive, hrest⟩ := hnext.transfer hname rfl
  exact ⟨ns, s', hpath', tokensOf_append front ns, hactive, hrest⟩

/-- Ways that meet make one way. -/
theorem trans (h : g.Passes a t made b u) (h' : g.Passes b u more d v) :
    g.Passes a t (made ++ more) d v := by
  obtain ⟨ns, s', hpath, rfl, rfl, rfl⟩ := h'
  exact h.exists_path_append hpath

/-- At the end of the text, the lexer is at the name that it passes to. -/
theorem active_eq (h : g.Passes a t made b []) (hpath : Path g (.fresh a t) ms s)
    (hs : s.rest = []) : s.active = b := by
  obtain ⟨ms', s', hpath', -, rfl, hrest⟩ := h
  obtain ⟨-, rfl⟩ := hpath.eq_of_halts (State.halts_of_rest_eq_nil hs) hpath'
    (State.halts_of_rest_eq_nil hrest)
  rfl

/-- A match is passed with the token that it makes, if it makes one. -/
theorem of_match (hne : text ++ t ≠ []) (hc : g.get? a = some c)
    (hm : c.firstMatch? (text ++ t) = some (rule, text)) :
    g.Passes a (text ++ t) (Match.token? ⟨a, rule, text⟩).toList (rule.transition.next a) t := by
  have hprefers := Context.firstMatch?_eq_some_iff.1 hm
  have hstep := State.step_eq_matched_iff (s := .fresh a (text ++ t)) (m := ⟨a, rule, text⟩).2
    ⟨hne, rfl, ⟨c, hc, hprefers⟩, rfl⟩
  refine ⟨_, _, .single hstep, ?_, rfl, List.drop_left⟩
  cases htoken : Match.token? ⟨a, rule, text⟩ <;> simp [tokensOf, htoken]

/-- A match that is dropped makes none. -/
theorem of_drops (hne : text ++ t ≠ []) (hc : g.get? a = some c)
    (hm : c.firstMatch? (text ++ t) = some (rule, text))
    (hdrop : rule.transition.produces = false) :
    g.Passes a (text ++ t) [] (rule.transition.next a) t := by
  have htoken : Match.token? ⟨a, rule, text⟩ = none := by simp [Match.token?, hdrop]
  simpa [htoken] using of_match hne hc hm

/-- A match that is not dropped makes a token under the name that is active behind it. -/
theorem of_produces (hne : text ++ t ≠ []) (hc : g.get? a = some c)
    (hm : c.firstMatch? (text ++ t) = some (rule, text))
    (hproduce : rule.transition.produces = true) :
    g.Passes a (text ++ t) [⟨rule.transition.next a, text⟩] (rule.transition.next a) t := by
  have htoken : Match.token? ⟨a, rule, text⟩ = some ⟨rule.transition.next a, text⟩ := by
    simp [Match.token?, hproduce]
  simpa [htoken] using of_match hne hc hm

end Grammar.Passes

/-! ## Lexing to the end -/

/-- From the name `a`, the text `t` is taken apart to its end, and its matches make `tokens`. -/
def Grammar.Lexes (g : Grammar) (a : String) (t : Text) (tokens : List Token) : Prop :=
  ∃ ms b, Split g a ms b ∧ textOf ms = t ∧ tokensOf ms = tokens

/-- A text is lexed exactly if the lexer passes to its end. -/
theorem Grammar.lexes_iff_passes : g.Lexes a t tokens ↔ ∃ b, g.Passes a t tokens b [] := by
  constructor
  · rintro ⟨ms, b, hsplit, rfl, rfl⟩
    obtain ⟨s, hpath, hactive, hrest⟩ := hsplit.path (s := .fresh a (textOf ms)) rfl rfl
    exact ⟨b, ms, s, hpath, rfl, hactive, hrest⟩
  · rintro ⟨b, ms, s, hpath, rfl, rfl, hrest⟩
    exact ⟨ms, s.active, hpath.split hrest, hpath.textOf_eq hrest, rfl⟩

/-- The empty text has no tokens, whatever the name. -/
theorem Grammar.lexes_nil_iff : g.Lexes a [] tokens ↔ tokens = [] := by
  constructor
  · rintro ⟨ms, b, hsplit, htext, rfl⟩
    cases hsplit with
    | nil => rfl
    | cons hne => exact absurd htext hne
  · rintro rfl
    exact ⟨[], a, .nil a, rfl, rfl⟩

/-- What the lexer passes is lexed exactly if what is behind is lexed, and the tokens on the way are
the first ones. -/
theorem Grammar.Passes.lexes_iff (h : g.Passes a t made b u) :
    g.Lexes a t tokens ↔ ∃ rest, g.Lexes b u rest ∧ tokens = made ++ rest := by
  simp only [Grammar.lexes_iff_passes]
  constructor
  · rintro ⟨d, ms, s, hpath, rfl, rfl, hrest⟩
    obtain ⟨ns, s', hpath', htokens, hactive, hrest'⟩ :=
      h.exists_path_of_halts hpath (State.halts_of_rest_eq_nil hrest)
    exact ⟨_, ⟨s'.active, ns, s', hpath', rfl, rfl, hrest'.trans hrest⟩, htokens⟩
  · rintro ⟨rest, ⟨d, hrest⟩, rfl⟩
    exact ⟨d, h.trans hrest⟩

/-- Where no rule matches, a text cannot be lexed. -/
theorem Grammar.not_lexes (ht : t ≠ []) (hc : g.get? a = some c) (hm : c.firstMatch? t = none) :
    ¬ g.Lexes a t tokens := by
  rintro ⟨ms, b, hsplit, rfl, -⟩
  cases hsplit with
  | nil => exact ht rfl
  | cons _ hc' hr' =>
    obtain rfl := Option.some.inj (hc.symm.trans hc')
    exact absurd (hm.symm.trans (Context.firstMatch?_eq_some_iff.2 hr')) (by simp)

/-! ## Runs -/

section

variable {σ γ ε : Type} {start : String} {input : Text} {r : Reduction σ γ ε} {limit : Nat}
  {store store' : σ}

/-- A run succeeds exactly if the text can be split, into no more matches than the bound, and all of
its tokens are accepted. -/
theorem parse_ok_iff :
    (∃ root, (parse g start input r limit store).outcome = .ok root) ∧
        (parse g start input r limit store).store = store' ↔
      ∃ ms last cursor, Split g start ms last ∧ textOf ms = input ∧ ms.length ≤ limit ∧
        r.feed store r.root (tokensOf ms) = (store', .ok cursor) := by
  constructor
  · rintro ⟨⟨root, hok⟩, rfl⟩
    have hmiss : (parse g start input r limit store).outcome ≠ .error .tooManyMatches := by
      rw [hok]
      simp
    obtain ⟨n, hn, hruns⟩ := runs_of_runFrom hmiss
    obtain ⟨ms, hsplit, htext, rfl, cursor, hfeed⟩ := hruns.exists_split hok
    exact ⟨ms, _, cursor, hsplit, htext, hn, hfeed⟩
  · rintro ⟨ms, last, cursor, hsplit, rfl, hle, hfeed⟩
    obtain ⟨t, hpath, -, hrest⟩ := hsplit.path (s := .fresh start (textOf ms)) rfl rfl
    have hend : t.ending g r.root = some (.ok r.root : Except (LexError ε) γ) :=
      State.ending_eq_ok_iff.2 ⟨hrest, rfl⟩
    obtain ⟨res, hruns, -, hstore, hout⟩ :=
      hpath.runs hfeed hend #[.started start (byteCount (textOf ms))]
    have hres : parse g start (textOf ms) r limit store = res := hruns.runFrom_eq hle
    rw [hres]
    exact ⟨⟨r.root, hout⟩, hstore⟩

/-- No rule of the grammar ever matches the empty text. -/
def Grammar.Consumes (g : Grammar) : Prop :=
  ∀ a c, g.get? a = some c → ∀ rule ∈ c, ∀ t, rule.pattern.match? t ≠ some []

/-- Then a step that matches takes a character at least. -/
theorem Grammar.Consumes.text_ne_nil (hg : g.Consumes) {s u : State} {m : Match}
    (h : s.step g = .matched m u) : m.text ≠ [] := by
  obtain ⟨-, -, ⟨c, hc, before, behind, rfl, -, hmatch⟩, -⟩ := State.step_eq_matched_iff.1 h
  intro hempty
  exact hg s.active _ hc m.rule (by simp) s.rest (hempty ▸ hmatch)

/-- So a path has at most as many matches as characters. -/
theorem Path.length_le (hg : g.Consumes) {s u : State} (h : Path g s ms u) :
    ms.length ≤ s.rest.length := by
  induction h with
  | nil => exact Nat.zero_le _
  | @cons s next u m ms hstep _ ih =>
    have hpos := List.length_pos_iff.2 (hg.text_ne_nil hstep)
    calc (m :: ms).length = 1 + ms.length := Nat.add_comm ms.length 1
      _ ≤ m.text.length + next.rest.length := Nat.add_le_add hpos ih
      _ = s.rest.length := by rw [← List.length_append, State.text_append_rest_of_step hstep]

/-- A split has at most as many matches as characters. -/
theorem Split.length_le (hg : g.Consumes) (h : Split g a ms b) :
    ms.length ≤ (textOf ms).length := by
  obtain ⟨u, hpath, -⟩ := h.path (s := .fresh a (textOf ms)) rfl rfl
  exact hpath.length_le hg

/-- And a run of at most as many matches as characters succeeds exactly if the text is lexed and its
tokens are accepted. -/
theorem parse_ok_iff_lexes (hg : g.Consumes) (hle : input.length ≤ limit) :
    (∃ root, (parse g start input r limit store).outcome = .ok root) ∧
        (parse g start input r limit store).store = store' ↔
      ∃ tokens cursor, g.Lexes start input tokens ∧
        r.feed store r.root tokens = (store', .ok cursor) := by
  rw [parse_ok_iff]
  constructor
  · rintro ⟨ms, last, cursor, hsplit, htext, -, hfeed⟩
    exact ⟨_, cursor, ⟨ms, last, hsplit, htext, rfl⟩, hfeed⟩
  · rintro ⟨_, cursor, ⟨ms, last, hsplit, rfl, rfl⟩, hfeed⟩
    exact ⟨ms, last, cursor, hsplit, rfl, Nat.le_trans (hsplit.length_le hg) hle, hfeed⟩

end

end ModalLexer
