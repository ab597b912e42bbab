import ModalLexer.Proofs.Fold
import ModalLexer.Proofs.History
import ModalLexer.Proofs.Split

/-!
# Runs after rejections

A token that is rejected stops a run, and the lexer stays behind the match of that token. So one
lexer can be run again and again, each time with another client, until a run is not stopped by a
rejection. All these runs together do what one run does that rejects nothing
(`retries_lose_nothing`): they hand over the same tokens, each of them once, and the last of them
stops where that run stops and in the same way.

The runs go along one path. Each of them takes a front of the path that is left, and either it takes
all of it or it stops behind a token that it rejects (`Client.Tries.cases`).
-/

namespace ModalLexer

variable {σ γ ε : Type} {g : Grammar} {r : Reduction σ γ ε} {s t : State} {store : σ}
  {ms : List Match} {n : Nat} {calls : List Token} {res : RunResult σ γ ε}

/-! ## Runs and the tokens of their paths -/

/-- A run hands over the tokens of its path, up to the one that it rejects. -/
theorem State.EndsCalling.exists_path (h : s.EndsCalling g r store n calls res) :
    ∃ ms, ms.length = n ∧ Path g s ms res.state ∧ calls = tokensOf ms ∧
      (res.state.ending g r.root = some res.outcome ∨
        ∃ ms₁ m token e, ms = ms₁ ++ [m] ∧ m.token? = some token ∧
          (∃ store cursor store', r.reduce store cursor token = (store', .error e)) ∧
          res.outcome = .error (.reduction token.name e)) := by
  obtain ⟨ms, hn, hpath, hend⟩ := Runs.exists_path h.2
  refine ⟨ms, hn, hpath, ?_⟩
  rcases hend with ⟨cursor, hfeed, hend⟩ |
    ⟨ms₁, m, token, store₁, cursor₁, e, rfl, htoken, hfeed, hreduce, hout⟩
  · exact ⟨Reduction.noting_feed_of_ok hfeed, .inl hend⟩
  · have hnotes := Reduction.noting_feed_of_ok hfeed
    obtain ⟨hstore, hresult⟩ := Prod.mk.inj hreduce
    obtain ⟨-, hcalls⟩ := Prod.mk.inj hstore
    refine ⟨?_, .inr ⟨ms₁, m, token, e, rfl, htoken, ?_, hout⟩⟩
    · rw [← hcalls, hnotes]
      simp [tokensOf, htoken]
    · exact ⟨store₁.1, cursor₁, _, Prod.ext rfl hresult⟩

/-- These are the tokens of the matches that it logs. -/
theorem State.EndsCalling.calls_eq (h : s.EndsCalling g r store n calls res) :
    calls = tokensOf (matchesOf res.log) := by
  obtain ⟨ms, rfl, hpath, rfl, -⟩ := h.exists_path
  rw [h.1.matchesOf_eq hpath]

/-- If nothing is rejected, they lead to the store that the run leaves. -/
theorem State.EndsCalling.exists_feed_eq (h : s.EndsCalling g r store n calls res)
    (hr : r.Accepts) : ∃ cursor, r.feed store r.root calls = (res.store, .ok cursor) := by
  obtain ⟨ms, rfl, hpath, ⟨cursor, hfeed⟩, -⟩ := h.1.exists_path_of_accepts hr
  exact ⟨cursor, by rw [h.calls_eq, h.1.matchesOf_eq hpath, hfeed]⟩

/-- What each call of a total reduction keeps, as a relation to a value beside it, relates what the
run leaves to a fold over its tokens. -/
theorem State.EndsCalling.store_refines {α : Type} {root : γ} {f : σ → γ → Token → σ × γ}
    {res : RunResult σ γ Empty} (h : s.EndsCalling g (.total root f) store n calls res)
    (R : σ → γ → α → Prop) (next : α → Token → α)
    (hstep : ∀ store cursor a token, R store cursor a →
      R (f store cursor token).1 (f store cursor token).2 (next a token))
    {a : α} (ha : R store root a) : ∃ cursor, R res.store cursor (calls.foldl next a) := by
  obtain ⟨cursor, hfeed⟩ := h.exists_feed_eq (Reduction.total_accepts root f)
  obtain ⟨store', cursor', hfeed', hR⟩ := Reduction.total_feed_refines hstep ha calls
  obtain ⟨rfl, -⟩ := Prod.mk.inj (hfeed'.symm.trans hfeed)
  exact ⟨cursor', hR⟩

/-- A run ends that can go along a path to a state in which the lexer halts, whether its tokens are
accepted or not. -/
theorem Path.exists_endsCalling (h : Path g s ms t) (ht : t.Halts g) (r : Reduction σ γ ε)
    (store : σ) : ∃ n calls res, s.EndsCalling g r store n calls res := by
  obtain ⟨n, -, hends⟩ :=
    State.ends_of_path_length_le (fun ns u => h.length_le_of_halts ht) r store
  obtain ⟨calls, hnoting⟩ := Runs.noting hends []
  rw [List.nil_append] at hnoting
  exact ⟨n, calls, _, hends, hnoting⟩

/-- A run that succeeds hands over the same tokens to any other reduction that accepts them, and
succeeds. -/
theorem State.EndsCalling.exists_ok {σ' γ' ε' : Type} {root : γ}
    (h : s.EndsCalling g r store n calls res) (hok : res.outcome = .ok root)
    {r' : Reduction σ' γ' ε'} (hr' : r'.Accepts) (store' : σ') :
    ∃ res', s.EndsCalling g r' store' n calls res' ∧ res'.outcome = .ok r'.root := by
  obtain ⟨ms, rfl, hpath, rfl, hend | ⟨_, _, _, _, -, -, -, hout⟩⟩ := h.exists_path
  · obtain ⟨hrest, -⟩ := State.ending_eq_ok_iff.1 (hend.trans (congrArg some hok))
    obtain ⟨res', hends, -, hok'⟩ :=
      hpath.endsCalling hr' (State.ending_eq_ok_iff.2 ⟨hrest, rfl⟩) store'
    exact ⟨res', hends, hok'⟩
  · exact absurd (hok.symm.trans hout) (by simp)

/-- An ending is not a rejection. -/
theorem State.ending_ne_reduction {root : γ} {name : String} {e : ε} :
    s.ending g root ≠ some (.error (.reduction name e)) := by
  unfold ending
  split <;> simp

/-- The verdict of an ending does not depend on the reduction. -/
theorem State.ending_verdict {root : γ} {outcome : Except (LexError ε) γ}
    (h : s.ending g root = some outcome) : s.ending g () = some (verdict outcome) := by
  unfold ending at h ⊢
  split at h
  · exact Option.some.inj h ▸ rfl
  · exact Option.some.inj h ▸ rfl
  · exact Option.some.inj h ▸ rfl
  · exact absurd h (by simp)

/-! ## One lexer, many clients -/

/-- What is seen of a run from outside: the tokens that it hands over, the state that it leaves, and
what stops it. -/
structure Trial where
  calls : List Token
  state : State
  verdict : Except (LexError Unit) Unit

/-- The client rejects a token, at some store and cursor. -/
def Client.Rejects (c : Client) (token : Token) : Prop :=
  ∃ store cursor store' e, c.reduction.reduce store cursor token = (store', .error e)

/-- A run from the state `s` with the client `c` is seen as `trial`. -/
def Client.Tries (c : Client) (g : Grammar) (s : State) (trial : Trial) : Prop :=
  ∃ n res, s.EndsCalling g c.reduction c.store n trial.calls res ∧ res.state = trial.state ∧
    ModalLexer.verdict res.outcome = trial.verdict

/-- From the state `s`, one lexer is run again and again, with the next client each time, as long as
runs are stopped by rejections. `trials` are these runs, in order. -/
inductive Retries (g : Grammar) : (Nat → Client) → State → List Trial → Prop
  /-- The first run is not stopped by a rejection. -/
  | settled {cs : Nat → Client} {s : State} {trial : Trial} (h : (cs 0).Tries g s trial)
    (hv : ∀ name, trial.verdict ≠ .error (.reduction name ())) : Retries g cs s [trial]
  /-- It is, and the lexer is run again. -/
  | rejected {cs : Nat → Client} {s : State} {trial : Trial} {trials : List Trial} {name : String}
    (h : (cs 0).Tries g s trial) (hv : trial.verdict = .error (.reduction name ()))
    (hrest : Retries g (fun i => cs (i + 1)) trial.state trials) :
    Retries g cs s (trial :: trials)

/-- Where a path leads to a state in which the lexer halts, a run takes all of it, or a front of it
up to a token that it rejects. -/
theorem Client.Tries.cases {c : Client} {trial : Trial} (hc : c.Tries g s trial)
    (h : Path g s ms t) (ht : t.Halts g) :
    (trial.calls = tokensOf ms ∧ trial.state = t ∧ t.ending g () = some trial.verdict) ∨
      ∃ ms₁ ms₂ token, ms = ms₁ ++ ms₂ ∧ ms₁ ≠ [] ∧ Path g trial.state ms₂ t ∧
        trial.calls = tokensOf ms₁ ∧ (tokensOf ms₁).getLast? = some token ∧ c.Rejects token ∧
        trial.verdict = .error (.reduction token.name ()) := by
  obtain ⟨calls, state, v⟩ := trial
  obtain ⟨n, res, hends, rfl, rfl⟩ := hc
  obtain ⟨ns, -, hpath, rfl, hend⟩ := hends.exists_path
  rcases hend with hend | ⟨ns₁, m, token, e, rfl, htoken, ⟨store, cursor, store', hreduce⟩, hout⟩
  · -- The run halts by itself, and there is only one path to where the lexer halts.
    obtain ⟨rfl, rfl⟩ := hpath.eq_of_halts (State.halts_iff_ending.2 ⟨_, hend⟩) h ht
    exact .inl ⟨rfl, rfl, State.ending_verdict hend⟩
  · -- It is stopped, no later than where the path ends, so the path goes on from there.
    obtain ⟨ms₂, rfl, hmore⟩ := hpath.prefix_of_length_le h (h.length_le_of_halts ht hpath)
    refine .inr ⟨_, ms₂, token, rfl, by simp, hmore, rfl, ?_, ?_, ?_⟩
    · simp [tokensOf, htoken]
    · exact ⟨store, cursor, store', e, hreduce⟩
    · rw [hout]
      rfl

/-- However the clients choose, a lexer that can halt is run to an end that is not a rejection. -/
theorem Path.exists_retries (h : Path g s ms t) (ht : t.Halts g) (cs : Nat → Client) :
    ∃ trials, Retries g cs s trials := by
  -- Behind a rejection, less of the path is left.
  induction hlen : ms.length using Nat.strongRecOn generalizing ms s cs with
  | ind k ih =>
    subst hlen
    obtain ⟨n, calls, res, hends⟩ := h.exists_endsCalling ht (cs 0).reduction (cs 0).store
    have htries : (cs 0).Tries g s ⟨calls, res.state, verdict res.outcome⟩ :=
      ⟨n, res, hends, rfl, rfl⟩
    rcases htries.cases h ht with ⟨-, -, hend⟩ | ⟨ms₁, ms₂, token, rfl, hne, hpath, -, -, -, hv⟩
    · refine ⟨_, .settled htries fun name hv => ?_⟩
      exact State.ending_ne_reduction (hend.trans (congrArg some hv))
    · have hshorter : ms₂.length < (ms₁ ++ ms₂).length := by
        have := List.length_pos_iff.2 hne
        rw [List.length_append]
        omega
      obtain ⟨trials, htrials⟩ := ih _ hshorter hpath (fun i => cs (i + 1)) rfl
      exact ⟨_, .rejected htries hv htrials⟩

/-- The runs take the path piece by piece. -/
theorem Retries.of_path {cs : Nat → Client} {trials : List Trial} (h : Retries g cs s trials)
    (hpath : Path g s ms t) (ht : t.Halts g) :
    trials.flatMap Trial.calls = tokensOf ms ∧
      (∃ last, trials.getLast? = some last ∧ last.state = t ∧ t.ending g () = some last.verdict) ∧
      ∀ i trial, trials[i]? = some trial → i + 1 < trials.length →
        ∃ token, trial.calls.getLast? = some token ∧ (cs i).Rejects token ∧
          trial.verdict = .error (.reduction token.name ()) := by
  induction h generalizing ms with
  | @settled cs s trial htries hv =>
    rcases htries.cases hpath ht with ⟨hcalls, hstate, hend⟩ | ⟨_, _, _, -, -, -, -, -, -, hv'⟩
    · refine ⟨by simp [hcalls], ⟨trial, rfl, hstate, hend⟩, ?_⟩
      intro i _ _ hi
      exact absurd hi (by simp)
    · exact absurd hv' (hv _)
  | @rejected cs s trial trials name htries hv _ ih =>
    rcases htries.cases hpath ht with ⟨-, -, hend⟩ |
      ⟨ms₁, ms₂, token, rfl, -, hpath', hcalls, hlast, hrejects, hv'⟩
    · exact absurd (hend.trans (congrArg some hv)) State.ending_ne_reduction
    · obtain ⟨hall, ⟨last, hlast', hstate, hend⟩, hnamed⟩ := ih hpath'
      refine ⟨?_, ⟨last, ?_, hstate, hend⟩, ?_⟩
      · rw [List.flatMap_cons, hall, hcalls]
        simp [tokensOf]
      · rw [List.getLast?_cons, hlast', Option.getD_some]
      · intro i trial' hi hlt
        cases i with
        | zero =>
          obtain rfl := Option.some.inj hi
          exact ⟨token, hcalls ▸ hlast, hrejects, hv'⟩
        | succ i => exact hnamed i trial' hi (Nat.lt_of_succ_lt_succ hlt)

/-- A rejection loses nothing and doubles nothing. Let a run from the start of a text end that
rejects no token. Then one lexer that is run again and again, with any clients, comes to a run that
is not stopped by a rejection. All its runs together hand over the tokens of the one run, in order,
those that are rejected among them. The last one stops as the one run does, with all that is
reported, and leaves the same state. And each run in front of it is stopped with the name of the
last token that it hands over, which its client rejects. -/
theorem retries_lose_nothing (hr : r.Accepts) {start : String} {input : Text}
    (h : (State.fresh start input).EndsCalling g r store n calls res) (cs : Nat → Client) :
    (∃ trials, Retries g cs (.fresh start input) trials) ∧
      ∀ trials, Retries g cs (.fresh start input) trials →
        trials.flatMap Trial.calls = calls ∧
        (∃ last, trials.getLast? = some last ∧ last.state = res.state ∧
          last.verdict = verdict res.outcome) ∧
        ∀ i trial, trials[i]? = some trial → i + 1 < trials.length →
          ∃ token, trial.calls.getLast? = some token ∧ (cs i).Rejects token ∧
            trial.verdict = .error (.reduction token.name ()) := by
  obtain ⟨ms, -, hpath, rfl, hend | ⟨-, -, token, e, -, -, ⟨store₁, cursor, store', hreduce⟩, -⟩⟩ :=
    h.exists_path
  · -- The one run gives the path that all the others share.
    have hhalts := State.halts_iff_ending.2 ⟨_, hend⟩
    have hverdict := State.ending_verdict hend
    refine ⟨hpath.exists_retries hhalts cs, fun trials htrials => ?_⟩
    obtain ⟨hall, ⟨last, hlast, hstate, hlastEnd⟩, hnamed⟩ := htrials.of_path hpath hhalts
    have hsame : last.verdict = verdict res.outcome :=
      Option.some.inj (hlastEnd.symm.trans hverdict)
    exact ⟨hall, ⟨last, hlast, hstate, hsame⟩, hnamed⟩
  · obtain ⟨next, hnext⟩ := hr store₁ cursor token
    rw [hreduce] at hnext
    exact absurd hnext (by simp)

/-- A client that rejects every token. -/
def refusing : Client where
  reduction := ⟨(), fun _ _ _ => ((), .error ())⟩
  store := ()

/-- A client that keeps all tokens. -/
def keeping : Client := ⟨collecting, []⟩

/-- The first of two words is rejected, and the second one is handed over by a further run. -/
theorem retries_lose_nothing_words : collecting.Accepts ∧
    ∃ res, (State.fresh "gap" words).EndsCalling wordGrammar collecting [] 4
        [⟨"word", ['a', 'b']⟩, ⟨"word", ['a', 'b']⟩] res ∧
      ∃ first last, Retries wordGrammar (fun i => if i = 0 then refusing else keeping)
          (.fresh "gap" words) [first, last] ∧
        first.calls = [⟨"word", ['a', 'b']⟩] ∧ last.calls = [⟨"word", ['a', 'b']⟩] ∧
        first.calls ++ last.calls = [⟨"word", ['a', 'b']⟩, ⟨"word", ['a', 'b']⟩] ∧
        last.state = res.state ∧ last.verdict = verdict res.outcome ∧
        first.verdict = .error (.reduction "word" ()) := by
  have hr : collecting.Accepts := Reduction.total_accepts _ _
  have h : ∃ res, (State.fresh "gap" words).EndsCalling wordGrammar collecting [] 4
      [⟨"word", ['a', 'b']⟩, ⟨"word", ['a', 'b']⟩] res :=
    ⟨_, .reduced rfl rfl rfl <| .dropped rfl rfl <| .dropped rfl rfl <| .reduced rfl rfl rfl <|
        .finished rfl,
      .reduced rfl rfl rfl <| .dropped rfl rfl <| .dropped rfl rfl <| .reduced rfl rfl rfl <|
        .finished rfl⟩
  obtain ⟨res, hends⟩ := h
  have hfirst : ∃ s, refusing.Tries wordGrammar (.fresh "gap" words)
      ⟨[⟨"word", ['a', 'b']⟩], s, .error (.reduction "word" ())⟩ ∧
      s = ⟨"word", ['\n', 'a', 'b'], ⟨1, 3⟩, ['a', 'b']⟩ :=
    ⟨_, ⟨1, _, ⟨.rejected rfl rfl rfl, .rejected rfl rfl rfl⟩, rfl, rfl⟩, rfl⟩
  obtain ⟨-, hfirst, rfl⟩ := hfirst
  have hlast : ∃ s, keeping.Tries wordGrammar ⟨"word", ['\n', 'a', 'b'], ⟨1, 3⟩, ['a', 'b']⟩
      ⟨[⟨"word", ['a', 'b']⟩], s, .ok ()⟩ :=
    ⟨_, 3, _, ⟨.dropped rfl rfl <| .dropped rfl rfl <| .reduced rfl rfl rfl <| .finished rfl,
      .dropped rfl rfl <| .dropped rfl rfl <| .reduced rfl rfl rfl <| .finished rfl⟩, rfl, rfl⟩
  obtain ⟨s, hlast⟩ := hlast
  have htrials : Retries wordGrammar (fun i => if i = 0 then refusing else keeping)
      (.fresh "gap" words) [_, _] := .rejected hfirst rfl (.settled hlast (by simp))
  obtain ⟨hall, ⟨last, hlast', hstate, hverdict⟩, -⟩ :=
    (retries_lose_nothing hr hends fun i => if i = 0 then refusing else keeping).2 _ htrials
  obtain rfl := Option.some.inj hlast'
  exact ⟨hr, res, hends, _, _, htrials, rfl, rfl, hall, hstate, hverdict, rfl⟩

end ModalLexer
