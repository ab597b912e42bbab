import Mathlib.Data.Finset.Card
import Mathlib.Data.Finset.Prod
import Mathlib.Order.Interval.Finset.Nat
import ModalLexer.Proofs.Run

/-!
# Runs that never end

A lexer goes on in the same way from every state with the same active name and the same text left.
So a run that comes back to such a pair never ends, and there are not many pairs that it can pass
before it does: the name needs a context, and the text left is an end of the whole text that is not
empty. `ends_or_repeats` counts them. A run that rejects no token makes at most one match for each
context and each character, or it repeats a pair and never ends.

The proof has two halves. A path of more matches passes some pair twice (`Path.repeats_of_length`,
by the pigeonhole principle), and behind a repetition there are paths of every length
(`State.Repeats.exists_path`), while a run that ends leaves no path longer than its own.
-/

namespace ModalLexer

variable {g : Grammar} {s t u : State} {ms : List Match}

/-- On the way from the state `s`, one pair of active name and text left stands in front of two
different matches. -/
def State.Repeats (g : Grammar) (s : State) : Prop :=
  ∃ ms ns t u, Path g s ms t ∧ Path g s ns u ∧ ms.length < ns.length ∧
    (∃ m v, t.step g = .matched m v) ∧ (∃ m v, u.step g = .matched m v) ∧
    t.active = u.active ∧ t.rest = u.rest ∧ t.rest ≠ []

/-! ## Long paths repeat a pair -/

/-- The names that have a context. -/
def Grammar.names (g : Grammar) : List String := g.entries.map Prod.fst

/-- There are as many of them as the grammar is large. -/
theorem Grammar.card_names (g : Grammar) : g.names.toFinset.card = g.size := by
  rw [names, List.toFinset_card_of_nodup g.nodup, List.length_map, size]

/-- A name is among them exactly if it has a context. -/
theorem Grammar.mem_names_iff {name : String} : name ∈ g.names ↔ g.get? name ≠ none := by
  rw [get?, Ne, lookup_eq_none_iff_not_mem, not_not, names]

/-- The text left behind a path is an end of the text before. -/
theorem Path.rest_eq_drop (h : Path g s ms t) :
    t.rest = s.rest.drop (s.rest.length - t.rest.length) := by
  have htext := h.textOf_append_rest
  have hlen : s.rest.length - t.rest.length = (textOf ms).length := by
    rw [← htext, List.length_append]
    omega
  rw [hlen, ← htext, List.drop_left]

/-- What stands in front of a match: one of the names with a context, and a text that is left. -/
theorem Path.mem_pairs {m : Match} (h : Path g s ms t) (hstep : t.step g = .matched m u) :
    (t.active, t.rest.length) ∈ g.names.toFinset ×ˢ Finset.Icc 1 s.rest.length := by
  obtain ⟨hne, -, ⟨c, hc, -⟩, -⟩ := State.step_eq_matched_iff.1 hstep
  have hle : t.rest.length ≤ s.rest.length := by
    rw [← h.textOf_append_rest, List.length_append]
    omega
  rw [Finset.mem_product, List.mem_toFinset, Finset.mem_Icc]
  exact ⟨Grammar.mem_names_iff.2 (by simp [hc]), List.length_pos_iff.2 hne, hle⟩

/-- A path of more matches than there are pairs repeats one. -/
theorem Path.repeats_of_length (h : Path g s ms t) (hlen : g.size * s.rest.length < ms.length) :
    s.Repeats g := by
  -- There are more matches than pairs, so two matches have the same pair in front of them.
  choose before next hpath hstep _ using fun i : Fin ms.length =>
    h.exists_step (List.getElem?_eq_getElem i.isLt)
  have hcard : (g.names.toFinset ×ˢ Finset.Icc 1 s.rest.length).card <
      (Finset.univ : Finset (Fin ms.length)).card := by
    rw [Finset.card_product, g.card_names, Nat.card_Icc, Finset.card_univ, Fintype.card_fin]
    simpa using hlen
  obtain ⟨i, -, j, -, hij, hpair⟩ := Finset.exists_ne_map_eq_of_card_lt_of_maps_to hcard
    (f := fun i => ((before i).active, (before i).rest.length))
    (fun i _ => (hpath i).mem_pairs (hstep i))
  obtain ⟨hactive, hrest⟩ := Prod.mk.inj hpair
  have htext : (before i).rest = (before j).rest := by
    rw [(hpath i).rest_eq_drop, (hpath j).rest_eq_drop, hrest]
  have hne : (before i).rest ≠ [] := (State.step_eq_matched_iff.1 (hstep i)).1
  have hcount (k : Fin ms.length) : (ms.take k).length = k := by simp [k.isLt.le]
  rcases lt_or_gt_of_ne hij with hlt | hgt
  · exact ⟨_, _, before i, before j, hpath i, hpath j, by rw [hcount, hcount]; exact hlt,
      ⟨_, _, hstep i⟩, ⟨_, _, hstep j⟩, hactive, htext, hne⟩
  · exact ⟨_, _, before j, before i, hpath j, hpath i, by rw [hcount, hcount]; exact hgt,
      ⟨_, _, hstep j⟩, ⟨_, _, hstep i⟩, hactive.symm, htext.symm, htext ▸ hne⟩

/-! ## A repetition goes on for ever -/

/-- A path that comes back to its first pair can be walked again and again. -/
theorem Path.exists_path_of_cycle (h : Path g s ms t) (hne : ms ≠ []) (ha : t.active = s.active)
    (hr : t.rest = s.rest) (n : ℕ) :
    ∀ v : State, v.active = s.active → v.rest = s.rest →
      ∃ ns w, Path g v ns w ∧ n ≤ ns.length := by
  induction n with
  | zero => exact fun v _ _ => ⟨[], v, .nil v, Nat.le_refl 0⟩
  | succ n ih =>
    intro v hva hvr
    obtain ⟨v', hround, hva', hvr'⟩ := h.transfer hva hvr
    obtain ⟨ns, w, hpath, hlen⟩ := ih v' (hva'.trans ha) (hvr'.trans hr)
    refine ⟨ms ++ ns, w, hround.append hpath, ?_⟩
    have := List.length_pos_iff.2 hne
    rw [List.length_append]
    omega

/-- Behind a repetition there are paths of every length. -/
theorem State.Repeats.exists_path (h : s.Repeats g) (n : ℕ) :
    ∃ ns w, Path g s ns w ∧ n ≤ ns.length := by
  obtain ⟨ms, ns, t, u, ht, hu, hlt, -, -, ha, hr, -⟩ := h
  -- The longer path goes through the end of the shorter one, and from there round a cycle.
  obtain ⟨round, rfl, hround⟩ := ht.prefix_of_length_le hu hlt.le
  have hne : round ≠ [] := by
    rintro rfl
    simp at hlt
  obtain ⟨more, w, hmore, hlen⟩ := hround.exists_path_of_cycle hne ha.symm hr.symm n t rfl rfl
  refine ⟨ms ++ more, w, ht.append hmore, ?_⟩
  rw [List.length_append]
  omega

/-! ## Runs -/

section

variable {σ γ ε : Type} {r : Reduction σ γ ε} {store : σ} {res : RunResult σ γ ε} {n limit : ℕ}

/-- A run that repeats a pair does not end. -/
theorem State.Ends.not_repeats (h : s.Ends g r store n res) (hr : r.Accepts) : ¬ s.Repeats g := by
  intro hrep
  obtain ⟨ms, -, hpath, -, hend⟩ := Runs.exists_path_of_accepts h hr
  obtain ⟨ns, w, hlong, hlen⟩ := hrep.exists_path (ms.length + 1)
  have := hpath.length_le_of_halts (State.halts_iff_ending.2 ⟨_, hend⟩) hlong
  omega

/-- A run that ends makes at most one match for each context and each character. -/
theorem State.Ends.le_size_mul_length (h : s.Ends g r store n res) (hr : r.Accepts) :
    n ≤ g.size * s.rest.length := by
  obtain ⟨ms, rfl, hpath, -⟩ := Runs.exists_path_of_accepts h hr
  by_contra hlt
  exact h.not_repeats hr (hpath.repeats_of_length (by omega))

/-- A run without a repetition ends. -/
theorem State.exists_ends_of_not_repeats (hrep : ¬ s.Repeats g) (r : Reduction σ γ ε) (store : σ) :
    ∃ n res, s.Ends g r store n res := by
  have hle : ∀ ms t, Path g s ms t → ms.length ≤ g.size * s.rest.length := by
    intro ms t hpath
    by_contra hlt
    exact hrep (hpath.repeats_of_length (by omega))
  obtain ⟨n, -, hends⟩ := State.ends_of_path_length_le hle r store
  exact ⟨n, _, hends⟩

/-- How a run ends that rejects no token. -/
theorem State.Ends.outcome_cases (h : s.Ends g r store n res) (hr : r.Accepts) :
    res.outcome = .ok r.root ∨ (∃ m, res.outcome = .error (.mismatch m)) ∨
      ∃ token, res.outcome = .error (.undefinedToken token) := by
  obtain ⟨-, -, -, -, hend⟩ := Runs.exists_path_of_accepts h hr
  unfold State.ending at hend
  split at hend
  · exact .inl (Option.some.inj hend).symm
  · exact .inr (.inr ⟨_, (Option.some.inj hend).symm⟩)
  · exact .inr (.inl ⟨_, (Option.some.inj hend).symm⟩)
  · exact absurd hend (by simp)

/-- A run from the start of a text that rejects no token either ends behind at most one match for
each context and each character, or it never ends, and it never ends exactly if it repeats a pair of
active name and text left. So a bound of that many matches or more is hit exactly by the runs that
never end, and from the first bound on that is not hit every bound gives the answer of the run. -/
theorem ends_or_repeats (g : Grammar) (start : String) (input : Text) (r : Reduction σ γ ε)
    (hr : r.Accepts) (store : σ) :
    (∀ n res, (State.fresh start input).Ends g r store n res → n ≤ g.size * input.length ∧
        (res.outcome = .ok r.root ∨ (∃ m, res.outcome = .error (.mismatch m)) ∨
          ∃ token, res.outcome = .error (.undefinedToken token))) ∧
      ((¬ ∃ n res, (State.fresh start input).Ends g r store n res) ↔
        (State.fresh start input).Repeats g) ∧
      (∀ limit, g.size * input.length ≤ limit →
        ((parse g start input r limit store).outcome = .error .tooManyMatches ↔
          ¬ ∃ n res, (State.fresh start input).Ends g r store n res)) ∧
      ∀ limit, (parse g start input r limit store).outcome ≠ .error .tooManyMatches →
        ∃ n res, (State.fresh start input).Ends g r store n res ∧
          ∀ limit', limit ≤ limit' → parse g start input r limit' store = res := by
  refine ⟨?_, ⟨?_, ?_⟩, ?_, ?_⟩
  · intro n res h
    exact ⟨h.le_size_mul_length hr, h.outcome_cases hr⟩
  · intro hnever
    by_contra hrep
    exact hnever (State.exists_ends_of_not_repeats hrep r store)
  · rintro hrep ⟨n, res, h⟩
    exact h.not_repeats hr hrep
  · intro limit hle
    constructor
    · rintro hhit ⟨n, res, h⟩
      have hn : n ≤ limit := (h.le_size_mul_length hr).trans hle
      exact h.outcome_ne (h.runFrom_eq hn ▸ hhit)
    · intro hnever
      by_contra hmiss
      obtain ⟨n, -, hruns⟩ := runs_of_runFrom hmiss
      exact hnever ⟨n, _, hruns⟩
  · intro limit hmiss
    obtain ⟨n, hn, hruns⟩ := runs_of_runFrom hmiss
    exact ⟨n, _, hruns, fun limit' hle => hruns.runFrom_eq (hn.trans hle)⟩

/-- A name is never left whose only rule matches the empty text and stays there: one match, for one
context and one character, does not reach the end. Two words are lexed in four matches. -/
theorem ends_or_repeats_words : collecting.Accepts ∧
    (¬ ∃ n res, (State.fresh "init" ['x']).Ends
      (Grammar.empty.insert "init" [⟨.skip, .literal []⟩]) collecting [] n res) ∧
    (State.fresh "init" ['x']).Repeats (Grammar.empty.insert "init" [⟨.skip, .literal []⟩]) ∧
    ¬ (State.fresh "gap" words).Repeats wordGrammar := by
  have hr : collecting.Accepts := Reduction.total_accepts _ _
  obtain ⟨-, hrepeats, hbound, -⟩ := ends_or_repeats
    (Grammar.empty.insert "init" [⟨.skip, .literal []⟩]) "init" ['x'] collecting hr []
  have hnever := (hbound 1 (by decide)).1 rfl
  obtain ⟨-, hrepeats', -, hunhit⟩ := ends_or_repeats wordGrammar "gap" words collecting hr []
  have hok : (parse wordGrammar "gap" words collecting 4 []).outcome = .ok () := rfl
  obtain ⟨n, res, hends, -⟩ := hunhit 4 (by simp [hok])
  exact ⟨hr, hnever, hrepeats.1 hnever, fun h => hrepeats'.2 h ⟨n, res, hends⟩⟩

end

end ModalLexer
