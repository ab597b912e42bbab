import ModalLexer.Proofs.Retry
import ModalLexer.Proofs.Position
import ModalLexer.Proofs.Split

/-!
# Runs that stop for good

A run that is not stopped by a rejection stops for good: whatever is run on the lexer afterwards
makes no match and no call, leaves the state as it is, and stops in the same way. A run that is
stopped by a rejection does not. The match of the token that was rejected stays consumed, and the
next run begins behind it. Both is said by `final_states_absorb`.

The first part comes from the state in which the run stops, where the lexer halts
(`Runs.ending_eq`): a run from there is over at once (`State.Halts.exists_endsCalling`), and what
stops it depends on the state (`State.ending`) and not on the client. For the second part, the last
match of the run is told apart from the others (`State.EndsCalling.exists_rejected`).
-/

namespace ModalLexer

variable {σ γ ε : Type} {g : Grammar} {r : Reduction σ γ ε} {s : State} {store : σ} {n : Nat}
  {calls : List Token} {res : RunResult σ γ ε}

/-! ## Runs from where the lexer halts -/

/-- Where the lexer halts, a run makes no match and no call and changes nothing. -/
theorem State.Halts.exists_endsCalling (h : s.Halts g) (r : Reduction σ γ ε) (store : σ) :
    ∃ res, s.EndsCalling g r store 0 [] res ∧ res.state = s ∧ res.store = store ∧
      s.ending g r.root = some res.outcome := by
  obtain ⟨outcome, hend⟩ := State.halts_iff_ending.1 h
  obtain ⟨res, hruns, hstate, hstore, rfl⟩ :=
    (Path.nil s).runs rfl hend #[.started s.active (byteCount s.rest)]
  obtain ⟨calls, hnoting⟩ := hruns.noting []
  have hcalling : s.EndsCalling g r store 0 calls res := ⟨hruns, hnoting⟩
  obtain ⟨ms, hlen, -, rfl, -⟩ := hcalling.exists_path
  -- There is no match to make a token.
  obtain rfl := List.eq_nil_of_length_eq_zero hlen
  exact ⟨res, hcalling, hstate, hstore, hend⟩

/-- So runs one after the other do not lead away from there. -/
theorem State.Halts.afterRuns_eq (h : s.Halts g) (runs : List (Client × Nat)) :
    s.afterRuns g runs = s := by
  induction runs with
  | nil => rfl
  | cons run runs ih =>
    obtain ⟨c, limit⟩ := run
    obtain ⟨res, ⟨hends, -⟩, hstate, -⟩ := h.exists_endsCalling c.reduction c.store
    rw [afterRuns, hends.run_eq (Nat.zero_le limit), hstate, ih]

/-! ## Runs that are stopped by a rejection -/

/-- The last match of a run that is stopped by a rejection makes the token that is rejected. This
token is the last one handed over, and it is named for the name that is active afterwards. -/
theorem State.EndsCalling.exists_rejected {name : String} {e : ε}
    (h : s.EndsCalling g r store n calls res) (hout : res.outcome = .error (.reduction name e)) :
    ∃ before m t, matchesOf res.log = before ++ [m] ∧ Path g s before t ∧
      t.step g = .matched m res.state ∧ calls = tokensOf before ++ [⟨name, m.text⟩] ∧
      m.rule.transition.next m.active = name := by
  obtain ⟨ms, rfl, hpath, rfl, hend | ⟨before, m, token, e', rfl, htoken, -, hout'⟩⟩ :=
    h.exists_path
  · exact absurd (hend.trans (congrArg some hout)) State.ending_ne_reduction
  · obtain ⟨t, hbefore, hstep⟩ := hpath.exists_last
    have hcalls : tokensOf (before ++ [m]) = tokensOf before ++ [token] := by
      rw [tokensOf_append]
      simp [tokensOf, htoken]
    obtain ⟨-, rfl⟩ := Match.token?_eq_some_iff.1 htoken
    rw [hout] at hout'
    obtain ⟨rfl, -⟩ := LexError.reduction.inj (Except.error.inj hout')
    exact ⟨before, m, t, h.1.matchesOf_eq hpath, hbefore, hstep, hcalls, rfl⟩

/-- A run that makes no call is not stopped by a rejection. -/
theorem State.EndsCalling.calls_ne_nil {name : String} {e : ε}
    (h : s.EndsCalling g r store n calls res) (hout : res.outcome = .error (.reduction name e)) :
    calls ≠ [] := by
  obtain ⟨before, m, -, -, -, -, rfl, -⟩ := h.exists_rejected hout
  simp

/-! ## Both kinds of runs -/

/-- What a run leaves that is not stopped by a rejection is final. Let any runs follow, with any
clients and bounds: the state stays as it is. The next run, with any client, ends at once. It makes
no match and no call, changes neither the state nor the store, and is stopped as the first one was:
it returns the root of its own client if that one succeeded, and reports the same mismatch or the
same undefined name if that one did.

After a rejection this is not so. The match of the rejected token stays consumed, and it is the last
match of the state. If it is not empty, the lexer stands strictly behind its beginning. The active
name is the one to which its transition has led, and the one reported. A later run that is stopped
by a rejection again has made a call. -/
theorem final_states_absorb (h : s.EndsCalling g r store n calls res) :
    ((∀ name e, res.outcome ≠ .error (.reduction name e)) →
      ∀ (later : List (Client × Nat)) (c : Client),
        res.state.afterRuns g later = res.state ∧
        ∃ res', res.state.EndsCalling g c.reduction c.store 0 [] res' ∧
          (∀ limit, res.state.run g c.reduction limit c.store = res') ∧
          res'.state = res.state ∧ res'.store = c.store ∧
          (∀ root, res.outcome = .ok root → res'.outcome = .ok c.reduction.root) ∧
          (∀ m, res.outcome = .error (.mismatch m) → res'.outcome = .error (.mismatch m)) ∧
          ∀ name, res.outcome = .error (.undefinedToken name) →
            res'.outcome = .error (.undefinedToken name)) ∧
    ∀ name e, res.outcome = .error (.reduction name e) →
      (∃ before m t, matchesOf res.log = before ++ [m] ∧ Path g s before t ∧
        t.step g = .matched m res.state ∧ calls = tokensOf before ++ [⟨name, m.text⟩] ∧
        m.text ++ res.state.rest = t.rest ∧ res.state.lastMatch = m.text ∧
        (m.text ≠ [] →
          res.state.rest.length < t.rest.length ∧ t.position < res.state.position) ∧
        res.state.active = m.rule.transition.next t.active ∧ res.state.active = name) ∧
      ∀ (c : Client) n' calls' res', res.state.EndsCalling g c.reduction c.store n' calls' res' →
        verdict res'.outcome = verdict res.outcome → calls' ≠ [] := by
  constructor
  · intro hres later c
    have hend := h.1.ending_eq hres
    have hhalts : res.state.Halts g := State.halts_iff_ending.2 ⟨_, hend⟩
    obtain ⟨res', hcalling, hstate, hstore, hend'⟩ := hhalts.exists_endsCalling c.reduction c.store
    refine ⟨hhalts.afterRuns_eq later, res', hcalling,
      fun limit => hcalling.1.run_eq (Nat.zero_le limit), hstate, hstore, ?_, ?_, ?_⟩
    -- What stops a run can be seen from the state, and the state is the same.
    · intro root hok
      rw [hok] at hend
      obtain ⟨hrest, -⟩ := State.ending_eq_ok_iff.1 hend
      exact Option.some.inj (hend'.symm.trans (State.ending_eq_ok_iff.2 ⟨hrest, rfl⟩))
    · intro m hmismatch
      rw [hmismatch] at hend
      have hstuck := State.ending_eq_mismatch_iff.1 hend
      exact Option.some.inj (hend'.symm.trans (State.ending_eq_mismatch_iff.2 hstuck))
    · intro name hundefined
      rw [hundefined] at hend
      have hnone := State.ending_eq_undefined_iff.1 hend
      exact Option.some.inj (hend'.symm.trans (State.ending_eq_undefined_iff.2 hnone))
  · intro name e hout
    obtain ⟨before, m, t, hlog, hpath, hstep, hcalls, hname⟩ := h.exists_rejected hout
    have htext : m.text ++ res.state.rest = t.rest := State.text_append_rest_of_step hstep
    obtain ⟨-, hactive, -, hafter⟩ := State.step_eq_matched_iff.1 hstep
    have hlast : res.state.lastMatch = m.text := by rw [hafter, State.after]
    have hnext : res.state.active = m.rule.transition.next t.active := by rw [hafter, State.after]
    have hposition : res.state.position = t.position.advance m.text := by rw [hafter, State.after]
    refine ⟨⟨before, m, t, hlog, hpath, hstep, hcalls, htext, hlast, fun hne => ⟨?_, ?_⟩, hnext,
      ?_⟩, ?_⟩
    · have hpos := List.length_pos_iff.2 hne
      rw [← htext, List.length_append]
      omega
    · rw [hposition]
      exact t.position.lt_advance hne
    · rw [hnext, ← hactive, hname]
    · intro c n' calls' res' h' hverdict
      -- The later run is stopped by a rejection as well.
      rw [hout] at hverdict
      cases hout' : res'.outcome with
      | ok root => simp [hout'] at hverdict
      | error e' =>
        cases e' with
        | reduction name' e' => exact h'.calls_ne_nil hout'
        | _ => simp [hout', LexError.map] at hverdict

/-- The first of two words is rejected, and the next run goes on behind it. It comes to the end of
the text, so from there on nothing more happens, not even with a client that would reject. -/
theorem final_states_absorb_words :
    ∃ first second, (State.fresh "gap" words).EndsCalling wordGrammar refusing.reduction
        refusing.store 1 [⟨"word", ['a', 'b']⟩] first ∧
      first.outcome = .error (.reduction "word" ()) ∧
      (∃ before m t, matchesOf first.log = before ++ [m] ∧
        Path wordGrammar (.fresh "gap" words) before t ∧
        t.step wordGrammar = .matched m first.state ∧ m.text ++ first.state.rest = t.rest ∧
        first.state.active = "word") ∧
      first.state.EndsCalling wordGrammar collecting [] 3 [⟨"word", ['a', 'b']⟩] second ∧
      second.outcome = .ok () ∧
      second.state.afterRuns wordGrammar [(refusing, 7)] = second.state ∧
      ∃ third, second.state.EndsCalling wordGrammar refusing.reduction refusing.store 0 [] third ∧
        third.state = second.state ∧ third.outcome = .ok () := by
  have hfirst : ∃ first, (State.fresh "gap" words).EndsCalling wordGrammar refusing.reduction
      refusing.store 1 [⟨"word", ['a', 'b']⟩] first ∧
      first.outcome = .error (.reduction "word" ()) ∧
      first.state = ⟨"word", ['\n', 'a', 'b'], ⟨1, 3⟩, ['a', 'b']⟩ :=
    ⟨_, ⟨.rejected rfl rfl rfl, .rejected rfl rfl rfl⟩, rfl, rfl⟩
  obtain ⟨first, hfirst, hrejected, hstate⟩ := hfirst
  have hsecond : ∃ second, State.EndsCalling wordGrammar collecting []
      ⟨"word", ['\n', 'a', 'b'], ⟨1, 3⟩, ['a', 'b']⟩ 3 [⟨"word", ['a', 'b']⟩] second ∧
      second.outcome = .ok () :=
    ⟨_, ⟨.dropped rfl rfl <| .dropped rfl rfl <| .reduced rfl rfl rfl <| .finished rfl,
      .dropped rfl rfl <| .dropped rfl rfl <| .reduced rfl rfl rfl <| .finished rfl⟩, rfl⟩
  obtain ⟨second, hsecond, hok⟩ := hsecond
  rw [← hstate] at hsecond
  obtain ⟨⟨before, m, t, hlog, hpath, hstep, -, htext, -, -, -, hactive⟩, -⟩ :=
    (final_states_absorb hfirst).2 "word" () hrejected
  obtain ⟨hlater, third, hthird, -, hsame, -, hroot, -⟩ :=
    (final_states_absorb hsecond).1 (by simp [hok]) [(refusing, 7)] refusing
  exact ⟨first, second, hfirst, hrejected, ⟨before, m, t, hlog, hpath, hstep, htext, hactive⟩,
    hsecond, hok, hlater, third, hthird, hsame, hroot () hok⟩

end ModalLexer
