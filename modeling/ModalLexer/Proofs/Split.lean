import ModalLexer.Proofs.Run

/-!
# Runs that succeed are splits of the text

`Split` says without a state or a loop what it means that a grammar takes a text apart: there are
pieces that make up the text and a name behind each of them, and each piece is what the preferred
rule of the name before it matches at the front of everything that is left. A run that rejects no
token succeeds exactly on the texts that can be split, and the split tells which tokens it makes and
where it ends (`ends_ok_iff_split`). There is at most one split of a text, since the preferred rule
is determined (`Split.unique`).
-/

namespace ModalLexer

variable {g : Grammar} {s t : State} {a b : String} {ms ns : List Match}

/-- From the name `a`, the matches `ms` take their text apart and lead to the name `b`: in front of
each match text is left, its name has a context, and it is the match of the rule that this context
prefers for all the text from there on. The name behind it is the one that its rule moves to. -/
inductive Split (g : Grammar) : String → List Match → String → Prop
  | nil (a : String) : Split g a [] a
  | cons {a b : String} {rule : Rule} {text : Text} {ms : List Match} {c : Context}
    (hne : text ++ textOf ms ≠ []) (hc : g.get? a = some c)
    (hr : c.Prefers (text ++ textOf ms) rule text) (hrest : Split g (rule.transition.next a) ms b) :
    Split g a (⟨a, rule, text⟩ :: ms) b

/-- A split is a path over its text. -/
theorem Split.path (h : Split g a ms b) (ha : s.active = a) (hs : s.rest = textOf ms) :
    ∃ t, Path g s ms t ∧ t.active = b ∧ t.rest = [] := by
  induction h generalizing s with
  | nil => exact ⟨s, .nil s, ha, hs⟩
  | @cons a b rule text ms c hne hc hr _ ih =>
    subst ha
    rw [textOf_cons] at hs
    have hstep : s.step g = .matched ⟨s.active, rule, text⟩ (s.after ⟨s.active, rule, text⟩) :=
      State.step_eq_matched_iff.2 ⟨hs ▸ hne, rfl, ⟨c, hc, hs ▸ hr⟩, rfl⟩
    have hrest : (s.after ⟨s.active, rule, text⟩).rest = textOf ms := by simp [State.after, hs]
    obtain ⟨t, hpath, ht⟩ := ih rfl hrest
    exact ⟨t, .cons hstep hpath, ht⟩

/-- A path to the end of the text is a split. -/
theorem Path.split (h : Path g s ms t) (ht : t.rest = []) : Split g s.active ms t.active := by
  induction h with
  | nil s => exact .nil s.active
  | @cons s next t m ms hstep hpath ih =>
    obtain ⟨active, rule, text⟩ := m
    have hrest : text ++ textOf ms = s.rest := by
      simpa [ht] using (Path.cons hstep hpath).textOf_append_rest
    obtain ⟨hne, rfl, ⟨c, hc, hr⟩, rfl⟩ := State.step_eq_matched_iff.1 hstep
    exact .cons (hrest ▸ hne) hc (hrest ▸ hr) (ih ht)

/-- A lexer halts at the end of the text. -/
theorem State.halts_of_rest_eq_nil (h : s.rest = []) : s.Halts g := by
  intro m t hstep
  exact (step_eq_matched_iff.1 hstep).1 h

/-- A text is split in one way only. -/
theorem Split.unique {b' : String} (h : Split g a ms b) (h' : Split g a ns b')
    (htext : textOf ms = textOf ns) : ms = ns ∧ b = b' := by
  obtain ⟨t, hpath, rfl, ht⟩ := h.path (s := .fresh a (textOf ms)) rfl rfl
  obtain ⟨u, hpath', rfl, hu⟩ := h'.path (s := .fresh a (textOf ms)) rfl htext
  obtain ⟨rfl, rfl⟩ := hpath.eq_of_halts (State.halts_of_rest_eq_nil ht) hpath'
    (State.halts_of_rest_eq_nil hu)
  exact ⟨rfl, rfl⟩

section

variable {σ γ ε : Type} {r : Reduction σ γ ε} {n : Nat} {store : σ} {cursor root : γ}
  {log : Array LogEvent} {res : RunResult σ γ ε}

/-- The ending of a state is a success exactly at the end of the text. -/
theorem State.ending_eq_ok_iff {root' : γ} :
    s.ending g root = some (.ok root' : Except (LexError ε) γ) ↔ s.rest = [] ∧ root = root' := by
  rw [← step_eq_finished_iff (g := g)]
  unfold ending
  cases s.step g <;> simp

/-- A run that succeeds is a split, and all tokens of the split are accepted. -/
theorem Runs.exists_split (h : Runs g r n s store cursor log res) (hok : res.outcome = .ok root) :
    ∃ ms, Split g s.active ms res.state.active ∧ textOf ms = s.rest ∧ ms.length = n ∧
      ∃ cursor', r.feed store cursor (tokensOf ms) = (res.store, .ok cursor') := by
  obtain ⟨ms, hn, hpath, ⟨cursor', hfeed, hend⟩ | ⟨_, _, _, _, _, e, -, -, -, -, herr⟩⟩ :=
    h.exists_path
  · obtain ⟨hrest, -⟩ := State.ending_eq_ok_iff.1 (hend.trans (congrArg some hok))
    exact ⟨ms, hpath.split hrest, hpath.textOf_eq hrest, hn, cursor', hfeed⟩
  · exact absurd (hok.symm.trans herr) (by simp)

/-- A split is a run that succeeds, and the tokens handed over are those of the split. -/
theorem Split.endsCalling (h : Split g a ms b) (hr : r.Accepts) (store : σ) :
    ∃ res, (State.fresh a (textOf ms)).EndsCalling g r store ms.length (tokensOf ms) res ∧
      res.outcome = .ok r.root ∧ res.state.active = b ∧ res.state.rest = [] ∧
      res.state.position = Position.start.advance (textOf ms) := by
  obtain ⟨t, hpath, hactive, hrest⟩ := h.path (s := .fresh a (textOf ms)) rfl rfl
  have hend : t.ending g r.root = some (.ok r.root : Except (LexError ε) γ) :=
    State.ending_eq_ok_iff.2 ⟨hrest, rfl⟩
  obtain ⟨res, hcalls, rfl, hout⟩ := hpath.endsCalling hr hend store
  exact ⟨res, hcalls, hout, hactive, hrest, hpath.position_eq⟩

/-- A run from the start of a text that rejects no token succeeds exactly if the text can be split
from the start name on. There is one such split at most. The run makes the tokens of the split, in
order and no others, and ends with the last name of the split at the end of the text. -/
theorem ends_ok_iff_split (g : Grammar) (start : String) (input : Text) (r : Reduction σ γ ε)
    (hr : r.Accepts) (store : σ) :
    ((∃ n res root, (State.fresh start input).Ends g r store n res ∧ res.outcome = .ok root) ↔
        ∃ ms last, Split g start ms last ∧ textOf ms = input) ∧
      (∀ ms last ms' last', Split g start ms last → textOf ms = input →
        Split g start ms' last' → textOf ms' = input → ms' = ms ∧ last' = last) ∧
      ∀ ms last, Split g start ms last → textOf ms = input →
        ∃ res, (State.fresh start input).EndsCalling g r store ms.length (tokensOf ms) res ∧
          (∀ limit, ms.length ≤ limit → parse g start input r limit store = res) ∧
          res.outcome = .ok r.root ∧ res.state.active = last ∧ res.state.rest = [] ∧
          res.state.position = Position.start.advance input := by
  refine ⟨⟨?_, ?_⟩, ?_, ?_⟩
  · rintro ⟨n, res, root, hends, hok⟩
    obtain ⟨ms, hsplit, htext, -⟩ := Runs.exists_split hends hok
    exact ⟨ms, res.state.active, hsplit, htext⟩
  · rintro ⟨ms, last, hsplit, rfl⟩
    obtain ⟨res, ⟨hends, -⟩, hok, -⟩ := hsplit.endsCalling hr store
    exact ⟨ms.length, res, r.root, hends, hok⟩
  · intro ms last ms' last' h htext h' htext'
    exact h'.unique h (htext'.trans htext.symm)
  · rintro ms last h rfl
    obtain ⟨res, hcalls, hres⟩ := h.endsCalling hr store
    exact ⟨res, hcalls, fun limit hle => hcalls.1.runFrom_eq hle, hres⟩

/-- Two words are split into four matches, one of them empty, and make two tokens. -/
theorem ends_ok_iff_split_words : collecting.Accepts ∧
    ∃ res, (State.fresh "gap" words).EndsCalling wordGrammar collecting [] 4
        [⟨"word", ['a', 'b']⟩, ⟨"word", ['a', 'b']⟩] res ∧
      res.outcome = .ok () ∧ res.state.active = "word" ∧ res.state.rest = [] ∧
      res.state.position = ⟨2, 3⟩ := by
  have hr : collecting.Accepts := Reduction.total_accepts _ _
  have hprefers {c : Context} {t text : Text} {rule : Rule}
      (h : c.firstMatch? t = some (rule, text)) : c.Prefers t rule text :=
    Context.firstMatch?_eq_some_iff.1 h
  let word : Rule := ⟨.produce "word", .literal ['a', 'b']⟩
  have hsplit : Split wordGrammar "gap"
      [⟨"gap", word, ['a', 'b']⟩, ⟨"word", ⟨.goto "gap", .literal []⟩, []⟩,
        ⟨"gap", ⟨.skip, .literal ['\n']⟩, ['\n']⟩, ⟨"gap", word, ['a', 'b']⟩] "word" :=
    .cons (by decide) rfl (hprefers rfl) <| .cons (by decide) rfl (hprefers rfl) <|
      .cons (by decide) rfl (hprefers rfl) <| .cons (by decide) rfl (hprefers rfl) <| .nil "word"
  obtain ⟨res, hcalls, -, hend⟩ :=
    (ends_ok_iff_split wordGrammar "gap" words collecting hr []).2.2 _ _ hsplit rfl
  exact ⟨hr, res, hcalls, hend⟩

end

end ModalLexer
