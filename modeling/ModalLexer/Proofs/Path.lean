import ModalLexer.Lexer.Error
import ModalLexer.Lexer.State

/-!
# Paths of a lexer

A path is the sequence of matches that leads from one state of a lexer to a later one. It does not
depend on what is done with the tokens, so every run goes along a path (`Proofs/Run.lean`).

A step is described without the search for a rule: the rule taken is the one that its context
prefers for the text that is left (`State.step_eq_matched_iff`). From there the lemmas on paths are
inductions on the matches. A path consumes the text that its matches hold and no more
(`Path.textOf_append_rest`), position and last match follow from that text (`Path.position_eq`,
`Path.lastMatch_eq`), the paths from one state are prefixes of each other
(`Path.prefix_of_length_le`), and a path depends on the active name and the text that is left alone
(`Path.transfer`).
-/

namespace ModalLexer

variable {g : Grammar} {s t u : State} {m : Match} {ms ns : List Match}

/-! ## The preferred rule -/

/-- Among the rules of a context, `rule` is the first one that matches the front of a text, and
`text` is what it matches there. -/
def Context.Prefers (c : Context) (input : Text) (rule : Rule) (text : Text) : Prop :=
  ∃ before behind, c = before ++ rule :: behind ∧
    (∀ r ∈ before, r.pattern.match? input = none) ∧ rule.pattern.match? input = some text

/-- The search for a rule finds the preferred one. -/
theorem Context.firstMatch?_eq_some_iff {c : Context} {input text : Text} {rule : Rule} :
    c.firstMatch? input = some (rule, text) ↔ c.Prefers input rule text := by
  unfold firstMatch? Prefers
  rw [List.findSome?_eq_some_iff]
  constructor
  · rintro ⟨before, r, behind, hc, hr, hbefore⟩
    obtain ⟨found, hfound, h⟩ := Option.map_eq_some_iff.1 hr
    obtain ⟨rfl, rfl⟩ := Prod.mk.inj h
    exact ⟨before, behind, hc, fun r' h' => Option.map_eq_none_iff.1 (hbefore r' h'), hfound⟩
  · rintro ⟨before, behind, hc, hbefore, hr⟩
    exact ⟨before, rule, behind, hc, by rw [hr, Option.map_some],
      fun r' h' => Option.map_eq_none_iff.2 (hbefore r' h')⟩

/-- The search fails exactly when no rule matches. -/
theorem Context.firstMatch?_eq_none_iff {c : Context} {input : Text} :
    c.firstMatch? input = none ↔ ∀ r ∈ c, r.pattern.match? input = none := by
  simp [firstMatch?]

/-- The first rule is taken if it matches. -/
theorem Context.firstMatch?_cons_of_some {c : Context} {input text : Text} {rule : Rule}
    (h : rule.pattern.match? input = some text) :
    firstMatch? (rule :: c) input = some (rule, text) := by
  rw [firstMatch?, List.findSome?_cons, h, Option.map_some]

/-- It is passed over if it does not match. -/
theorem Context.firstMatch?_cons_of_none {c : Context} {input : Text} {rule : Rule}
    (h : rule.pattern.match? input = none) :
    firstMatch? (rule :: c) input = c.firstMatch? input := by
  rw [firstMatch?, List.findSome?_cons, h, Option.map_none]
  rfl

/-- Where rules are changed but for their patterns, the same rule is taken, changed. -/
theorem Context.firstMatch?_map {f : Rule → Rule} (hf : ∀ rule, (f rule).pattern = rule.pattern)
    (c : Context) (input : Text) :
    firstMatch? (c.map f) input = (c.firstMatch? input).map fun found => (f found.1, found.2) := by
  induction c with
  | nil => rfl
  | cons rule c ih =>
    rw [List.map_cons]
    cases hmatch : rule.pattern.match? input with
    | none =>
      rw [firstMatch?_cons_of_none (hf rule ▸ hmatch), firstMatch?_cons_of_none hmatch, ih]
    | some text =>
      rw [firstMatch?_cons_of_some (hf rule ▸ hmatch), firstMatch?_cons_of_some hmatch]
      rfl

/-- A context prefers at most one rule for a text, and one match of it. -/
theorem Context.Prefers.unique {c : Context} {input text text' : Text} {rule rule' : Rule}
    (h : c.Prefers input rule text) (h' : c.Prefers input rule' text') :
    rule = rule' ∧ text = text' := by
  rw [← firstMatch?_eq_some_iff] at h h'
  exact Prod.mk.inj (Option.some.inj (h.symm.trans h'))

/-- A pattern matches a front of the text. -/
theorem Pattern.prefix_of_match? {p : Pattern} {input text : Text}
    (h : p.match? input = some text) : text <+: input := by
  cases p with
  | regex source program compiled =>
    obtain ⟨n, -, rfl⟩ := Option.map_eq_some_iff.1 h
    exact List.take_prefix n input
  | literal l =>
    simp only [match?] at h
    split at h
    · next hl => exact Option.some.inj h ▸ List.isPrefixOf_iff_prefix.1 hl
    · exact absurd h (by simp)

/-- The preferred match is a front of the text. -/
theorem Context.Prefers.isPrefix {c : Context} {input text : Text} {rule : Rule}
    (h : c.Prefers input rule text) : text <+: input := by
  obtain ⟨-, -, -, -, hr⟩ := h
  exact Pattern.prefix_of_match? hr

/-- The preferred rule is one of the context. -/
theorem Context.Prefers.mem {c : Context} {input text : Text} {rule : Rule}
    (h : c.Prefers input rule text) : rule ∈ c := by
  obtain ⟨before, behind, rfl, -, -⟩ := h
  exact List.mem_append_right before List.mem_cons_self

/-! ## Steps -/

namespace State

/-- A step finishes exactly at the end of the text. -/
theorem step_eq_finished_iff : s.step g = .finished ↔ s.rest = [] := by
  unfold step
  split
  · next h => simpa using h
  · next h =>
    have hrest : s.rest ≠ [] := by simpa using h
    split
    · simp [hrest]
    · split <;> simp [hrest]

/-- A step fails to find a context exactly when text is left and the active name has none. -/
theorem step_eq_undefined_iff : s.step g = .undefined ↔ s.rest ≠ [] ∧ g.get? s.active = none := by
  unfold step
  split
  · next h =>
    have hrest : s.rest = [] := by simpa using h
    simp [hrest]
  · next h =>
    have hrest : s.rest ≠ [] := by simpa using h
    split
    · next hc => simp [hrest, hc]
    · next c hc => split <;> simp [hc]

/-- A step is stuck exactly when text is left and no rule of the active context matches it. -/
theorem step_eq_stuck_iff : s.step g = .stuck ↔
    s.rest ≠ [] ∧ ∃ c, g.get? s.active = some c ∧ ∀ r ∈ c, r.pattern.match? s.rest = none := by
  unfold step
  split
  · next h =>
    have hrest : s.rest = [] := by simpa using h
    simp [hrest]
  · next h =>
    have hrest : s.rest ≠ [] := by simpa using h
    split
    · next hc => simp [hc]
    · next c hc =>
      split
      · next hm => simpa [hrest, hc] using Context.firstMatch?_eq_none_iff.1 hm
      · next r text hm =>
        have hsome : ¬ ∀ r ∈ c, r.pattern.match? s.rest = none := by
          rw [← Context.firstMatch?_eq_none_iff, hm]
          simp
        simp [hc, hsome]

/-- A step matches exactly when text is left and the active context prefers a rule for it; the next
state is the one behind that match. -/
theorem step_eq_matched_iff : s.step g = .matched m t ↔
    s.rest ≠ [] ∧ m.active = s.active ∧
      (∃ c, g.get? s.active = some c ∧ c.Prefers s.rest m.rule m.text) ∧ t = s.after m := by
  obtain ⟨active, rule, text⟩ := m
  simp only [← Context.firstMatch?_eq_some_iff]
  unfold step
  split
  · next h =>
    have hrest : s.rest = [] := by simpa using h
    simp [hrest]
  · next h =>
    have hrest : s.rest ≠ [] := by simpa using h
    split
    · next hc => simp [hc]
    · next c hc =>
      split
      · next hm => simp [hc, hm]
      · next r found hm =>
        simp only [Step.matched.injEq, Match.mk.injEq, ne_eq, hrest, not_false_eq_true, true_and,
          hc, Option.some.injEq, exists_eq_left', hm, Prod.mk.injEq]
        constructor
        · rintro ⟨⟨rfl, rfl, rfl⟩, rfl⟩
          exact ⟨rfl, ⟨rfl, rfl⟩, rfl⟩
        · rintro ⟨rfl, ⟨rfl, rfl⟩, rfl⟩
          exact ⟨⟨rfl, rfl, rfl⟩, rfl⟩

/-- A match consumes its own text. -/
theorem text_append_rest_of_step (h : s.step g = .matched m t) : m.text ++ t.rest = s.rest := by
  obtain ⟨-, -, ⟨c, -, hc⟩, rfl⟩ := step_eq_matched_iff.1 h
  obtain ⟨rest, hrest⟩ := hc.isPrefix
  simp [after, ← hrest]

/-- Two grammars with the same context under the active name make the same step. -/
theorem step_eq_of_get?_eq {g' : Grammar} (h : g'.get? s.active = g.get? s.active) :
    s.step g' = s.step g := by
  rw [step, step, h]

/-- The next step depends on the active name and the text that is left, and on nothing else. -/
theorem step_transfer (h : s.step g = .matched m t) (ha : u.active = s.active)
    (hr : u.rest = s.rest) : u.step g = .matched m (u.after m) := by
  rw [step_eq_matched_iff] at h ⊢
  obtain ⟨hrest, hm, hc, -⟩ := h
  exact ⟨hr ▸ hrest, hm.trans ha.symm, by rw [ha, hr]; exact hc, rfl⟩

/-- The lexer makes no match in this state. -/
def Halts (g : Grammar) (s : State) : Prop := ∀ m t, s.step g ≠ .matched m t

/-- Nor does it make one where it has the same name and the same text left. -/
theorem Halts.transfer (h : s.Halts g) (ha : u.active = s.active) (hr : u.rest = s.rest) :
    u.Halts g :=
  fun m _ hstep => h m _ (step_transfer hstep ha.symm hr.symm)

/-- Where a lexer halts with text left, no rule of the context matches, if there is one. -/
theorem Halts.match?_eq_none {c : Context} (h : s.Halts g) (hrest : s.rest ≠ [])
    (hc : g.get? s.active = some c) : ∀ r ∈ c, r.pattern.match? s.rest = none := by
  cases hs : s.step g with
  | finished => exact absurd (step_eq_finished_iff.1 hs) hrest
  | undefined =>
    obtain ⟨-, hnone⟩ := step_eq_undefined_iff.1 hs
    exact absurd (hc.symm.trans hnone) (by simp)
  | stuck =>
    obtain ⟨-, c', hc', hnone⟩ := step_eq_stuck_iff.1 hs
    obtain rfl := Option.some.inj (hc.symm.trans hc')
    exact hnone
  | matched m t => exact absurd hs (h m t)

end State

/-! ## Paths -/

/-- The matches `ms` lead from the first state to the second. -/
inductive Path (g : Grammar) : State → List Match → State → Prop
  | nil (s : State) : Path g s [] s
  | cons {s next t : State} {m : Match} {ms : List Match} :
    s.step g = .matched m next → Path g next ms t → Path g s (m :: ms) t

/-- The text of matches, one behind the other. -/
def textOf (ms : List Match) : Text := ms.flatMap Match.text

/-- No matches have no text. -/
@[simp] theorem textOf_nil : textOf [] = [] := rfl

/-- The text of matches is that of the first one in front of that of the others. -/
@[simp] theorem textOf_cons (m : Match) (ms : List Match) :
    textOf (m :: ms) = m.text ++ textOf ms := rfl

namespace Path

/-- A path of one match is a step. -/
theorem single (h : s.step g = .matched m t) : Path g s [m] t := .cons h (.nil t)

/-- Paths that meet make one path. -/
theorem append (h : Path g s ms t) (h' : Path g t ns u) : Path g s (ms ++ ns) u := by
  induction h with
  | nil => exact h'
  | cons hstep _ ih => exact .cons hstep (ih h')

/-- A path can be cut between any two of its matches. -/
theorem split_append (h : Path g s (ms ++ ns) u) : ∃ t, Path g s ms t ∧ Path g t ns u := by
  induction ms generalizing s with
  | nil => exact ⟨s, .nil s, h⟩
  | cons m ms ih =>
    cases h with
    | cons hstep hrest =>
      obtain ⟨t, h1, h2⟩ := ih hrest
      exact ⟨t, .cons hstep h1, h2⟩

/-- The last match of a path is a step to its end. -/
theorem exists_last (h : Path g s (ms ++ [m]) u) :
    ∃ t, Path g s ms t ∧ t.step g = .matched m u := by
  obtain ⟨t, hbefore, hlast⟩ := h.split_append
  cases hlast with
  | cons hstep hnil =>
    cases hnil
    exact ⟨t, hbefore, hstep⟩

/-- Each match of a path is a step, from the state to which the matches before it lead. -/
theorem exists_step {i : Nat} (h : Path g s ms u) (hm : ms[i]? = some m) :
    ∃ t v, Path g s (ms.take i) t ∧ t.step g = .matched m v ∧ Path g v (ms.drop (i + 1)) u := by
  obtain ⟨hi, rfl⟩ := List.getElem?_eq_some_iff.1 hm
  have hsplit : ms.take i ++ ms[i] :: ms.drop (i + 1) = ms := by
    rw [List.getElem_cons_drop, List.take_append_drop]
  rw [← hsplit] at h
  obtain ⟨t, hbefore, hrest⟩ := h.split_append
  cases hrest with
  | cons hstep hbehind => exact ⟨t, _, hbefore, hstep, hbehind⟩

/-- What every step keeps, a path keeps. -/
theorem kept {P : State → Prop} (h : Path g s ms t)
    (hstep : ∀ s m t, P s → s.step g = .matched m t → P t) (hs : P s) : P t := by
  induction h with
  | nil => exact hs
  | cons h _ ih => exact ih (hstep _ _ _ hs h)

/-- Nothing is lost on a path: the matches and the text that is left make up the text before. -/
theorem textOf_append_rest (h : Path g s ms t) : textOf ms ++ t.rest = s.rest := by
  induction h with
  | nil => rfl
  | cons hstep _ ih =>
    rw [textOf_cons, List.append_assoc, ih, State.text_append_rest_of_step hstep]

/-- A path to the end of the text holds all of it. -/
theorem textOf_eq (h : Path g s ms t) (ht : t.rest = []) : textOf ms = s.rest := by
  rw [← h.textOf_append_rest, ht, List.append_nil]

/-- The position moves over the text of the matches. -/
theorem position_eq (h : Path g s ms t) : t.position = s.position.advance (textOf ms) := by
  induction h with
  | nil => rfl
  | cons hstep _ ih =>
    obtain ⟨-, -, -, rfl⟩ := State.step_eq_matched_iff.1 hstep
    rw [ih, textOf_cons, Position.advance_append]
    rfl

/-- The last match of a path is the one that its end remembers. -/
theorem lastMatch_eq (h : Path g s ms t) :
    t.lastMatch = (ms.getLast?.map Match.text).getD s.lastMatch := by
  induction h with
  | nil => rfl
  | @cons s next t m ms hstep _ ih =>
    obtain ⟨-, -, -, rfl⟩ := State.step_eq_matched_iff.1 hstep
    rw [ih, List.getLast?_cons]
    cases ms.getLast? with
    | none => rfl
    | some last => rfl

/-- Of two paths from one state, the shorter one is the front of the longer one. -/
theorem prefix_of_length_le (h : Path g s ms t) (h' : Path g s ns u)
    (hle : ms.length ≤ ns.length) : ∃ more, ns = ms ++ more ∧ Path g t more u := by
  induction h generalizing ns with
  | nil => exact ⟨ns, rfl, h'⟩
  | cons hstep _ ih =>
    cases h' with
    | nil => simp at hle
    | cons hstep' hrest' =>
      obtain ⟨rfl, rfl⟩ := Step.matched.inj (hstep.symm.trans hstep')
      obtain ⟨more, rfl, hmore⟩ := ih hrest' (by simpa using hle)
      exact ⟨more, rfl, hmore⟩

/-- A path that ends where no match is made is the longest one. -/
theorem length_le_of_halts (h : Path g s ms t) (ht : t.Halts g) (h' : Path g s ns u) :
    ns.length ≤ ms.length := by
  rcases Nat.le_total ns.length ms.length with hle | hge
  · exact hle
  · obtain ⟨more, rfl, hmore⟩ := h.prefix_of_length_le h' hge
    cases hmore with
    | nil => simp
    | cons hstep _ => exact absurd hstep (ht _ _)

/-- Two paths of equally many matches from one state are the same. -/
theorem eq_of_length_eq (h : Path g s ms t) (h' : Path g s ns u) (hlen : ms.length = ns.length) :
    ms = ns ∧ t = u := by
  obtain ⟨more, rfl, hmore⟩ := h.prefix_of_length_le h' (Nat.le_of_eq hlen)
  rw [List.length_append] at hlen
  obtain rfl : more = [] := List.eq_nil_of_length_eq_zero (by omega)
  cases hmore
  exact ⟨(List.append_nil ms).symm, rfl⟩

/-- Two paths from one state to ends without a match are the same. -/
theorem eq_of_halts (h : Path g s ms t) (ht : t.Halts g) (h' : Path g s ns u) (hu : u.Halts g) :
    ms = ns ∧ t = u := by
  -- Neither path is longer than the other one.
  have hle : ms.length ≤ ns.length := h'.length_le_of_halts hu h
  have hge : ns.length ≤ ms.length := h.length_le_of_halts ht h'
  exact h.eq_of_length_eq h' (Nat.le_antisymm hle hge)

/-- A path can be walked from every state with the same active name and the same text left, and it
leads to the same name and text again. -/
theorem transfer {s' : State} (h : Path g s ms t) (ha : s'.active = s.active)
    (hr : s'.rest = s.rest) :
    ∃ t', Path g s' ms t' ∧ t'.active = t.active ∧ t'.rest = t.rest := by
  induction h generalizing s' with
  | nil => exact ⟨s', .nil s', ha, hr⟩
  | @cons s next t m ms hstep _ ih =>
    -- The same rule is preferred, and the states behind it again agree in name and text.
    have hstep' := State.step_transfer hstep ha hr
    obtain ⟨-, -, -, rfl⟩ := State.step_eq_matched_iff.1 hstep
    have hname : (s'.after m).active = (s.after m).active := by simp [State.after, ha]
    have htext : (s'.after m).rest = (s.after m).rest := by simp [State.after, hr]
    obtain ⟨t', hpath, ha', hr'⟩ := ih hname htext
    exact ⟨t', .cons hstep' hpath, ha', hr'⟩

end Path

end ModalLexer
