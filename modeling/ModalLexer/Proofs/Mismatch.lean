import ModalLexer.Proofs.History
import ModalLexer.Proofs.Position

/-!
# What the report of a mismatch says

The report of a mismatch holds a name, a position, a preview and a piece of text. Together they tell
what happened (`mismatch_exact`): the position is that of one place of the text, which is where the
lexer has stopped; the name has a context and none of its rules matches the text behind that place,
which the preview shows the front of; and the piece in front of the place is the match made last, by
whichever run of the lexer.

A run is stopped by a mismatch in a state in which a step is stuck, and the report is taken from
this state (`State.Ends.stuck_of_mismatch`). The fields of the state are known from the matches of
its history, and a text has no two places with the same position (`Position.eq_of_advance_eq`).
-/

namespace ModalLexer

variable {σ γ ε : Type} {g : Grammar} {r : Reduction σ γ ε} {start : String} {input : Text}
  {s : State} {ms : List Match} {store : σ} {n : Nat} {res : RunResult σ γ ε} {e : Mismatch}

/-- The match made last stands at the end of the text of all matches. -/
theorem lastMatch_isSuffix (ms : List Match) :
    (ms.getLast?.map Match.text).getD [] <:+ textOf ms := by
  rcases List.eq_nil_or_concat ms with rfl | ⟨before, m, rfl⟩
  · exact List.nil_suffix
  · have htext : textOf (before ++ [m]) = textOf before ++ m.text := by simp [textOf]
    rw [List.concat_eq_append, List.getLast?_concat, Option.map_some, Option.getD_some, htext]
    exact List.suffix_append _ _

/-- A run that is stopped by a mismatch is stuck, and the report is that of the state it leaves. -/
theorem State.Ends.stuck_of_mismatch (h : s.Ends g r store n res)
    (hout : res.outcome = .error (.mismatch e)) :
    res.state.step g = .stuck ∧ res.state.mismatch = e := by
  have hend := Runs.ending_eq h (by simp [hout])
  rw [hout] at hend
  exact State.ending_eq_mismatch_iff.1 hend

/-- The report of a mismatch is exact, however often the lexer has been run before.

There is one way to cut the text such that its front leads to the position reported, and what the
front leaves is the text that is left. It is not empty. The name reported is the active one; it has
a context, and no rule of the context matches the text that is left. The preview shows the first 15
characters of it, or all of them if they are fewer, and an ellipsis exactly if there are more. The
match reported is the last one of all runs, or empty if they have made none; the front ends with
it. -/
theorem mismatch_exact (h : History g start input ms s) (hends : s.Ends g r store n res)
    (hout : res.outcome = .error (.mismatch e)) :
    ∃ front, front ++ res.state.rest = input ∧
      (∀ p u, p ++ u = input →
        (Position.start.advance p = e.position ↔ p = front ∧ u = res.state.rest)) ∧
      res.state.rest ≠ [] ∧ e.token = res.state.active ∧
      (∃ c, g.get? e.token = some c ∧
        ∀ rule ∈ c, rule.pattern.match? res.state.rest = none) ∧
      e.preview = res.state.rest.take (min 15 res.state.rest.length) ++
        (if 15 < res.state.rest.length then ['…'] else []) ∧
      e.lastMatch <:+ front ∧
      e.lastMatch = ((ms ++ matchesOf res.log).getLast?.map Match.text).getD [] := by
  obtain ⟨hstuck, rfl⟩ := hends.stuck_of_mismatch hout
  obtain ⟨hrest, hcontext⟩ := State.step_eq_stuck_iff.1 hstuck
  -- The front is the text of all matches, those of the last run among them.
  have hpath := (h.ends hends).path
  have hinput : textOf (ms ++ matchesOf res.log) ++ res.state.rest = input :=
    hpath.textOf_append_rest
  have hposition : Position.start.advance (textOf (ms ++ matchesOf res.log)) =
      res.state.position := hpath.position_eq.symm
  have hlast : res.state.lastMatch =
      ((ms ++ matchesOf res.log).getLast?.map Match.text).getD [] := hpath.lastMatch_eq
  have hpreview : preview res.state.rest =
      res.state.rest.take (min 15 res.state.rest.length) ++
        (if 15 < res.state.rest.length then ['…'] else []) := by
    rw [preview_eq, ← List.take_eq_take_min]
    rfl
  refine ⟨textOf (ms ++ matchesOf res.log), hinput, fun p u hcut => ?_, hrest, rfl, hcontext,
    hpreview, ?_, hlast⟩
  · constructor
    · intro h
      have hp : p <+: input := ⟨u, hcut⟩
      have hfront : textOf (ms ++ matchesOf res.log) <+: input := ⟨res.state.rest, hinput⟩
      obtain rfl := Position.eq_of_advance_eq hp hfront (h.trans hposition.symm)
      exact ⟨rfl, List.append_cancel_left (hcut.trans hinput.symm)⟩
    · rintro ⟨rfl, -⟩
      exact hposition
  · have hsuffix := lastMatch_isSuffix (ms ++ matchesOf res.log)
    rwa [← hlast] at hsuffix

/-- A word and a line feed in front of 16 characters that no rule matches. A first run stops behind
the word, which it rejects, and a second one stops on the second line. -/
theorem mismatch_exact_words :
    let rest : Text := List.replicate 16 'é'
    let input : Text := ['a', 'b', '\n'] ++ rest
    ∃ ms s res, History wordGrammar "gap" input ms s ∧ ms.length = 1 ∧
      s.Ends wordGrammar collecting [] 2 res ∧
      res.outcome = .error (.mismatch ⟨"gap", ['\n'], ⟨2, 1⟩, List.replicate 15 'é' ++ ['…']⟩) ∧
      ∃ front, front ++ rest = input ∧
        (∀ p u, p ++ u = input → (Position.start.advance p = ⟨2, 1⟩ ↔ p = front ∧ u = rest)) ∧
        (∃ c, wordGrammar.get? "gap" = some c ∧ ∀ rule ∈ c, rule.pattern.match? rest = none) ∧
        List.replicate 15 'é' ++ ['…'] = rest.take (min 15 rest.length) ++
          (if 15 < rest.length then ['…'] else []) ∧
        ['\n'] <:+ front ∧
        ['\n'] = ((ms ++ matchesOf res.log).getLast?.map Match.text).getD [] := by
  intro rest input
  let rejecting : Reduction Unit Unit Unit := ⟨(), fun store _ _ => (store, .error ())⟩
  have hfresh : History wordGrammar "gap" input [] (.fresh "gap" input) := .fresh
  have h := hfresh.run rejecting 4 ()
  have hends : ∃ res, State.Ends wordGrammar collecting []
      ((State.fresh "gap" input).run wordGrammar rejecting 4 ()).state 2 res ∧
      res.outcome = .error (.mismatch
        ⟨"gap", ['\n'], ⟨2, 1⟩, List.replicate 15 'é' ++ ['…']⟩) ∧ res.state.rest = rest :=
    ⟨_, .dropped rfl rfl <| .dropped rfl rfl <| .stuck rfl, rfl, rfl⟩
  obtain ⟨res, hends, hout, hrest⟩ := hends
  obtain ⟨front, hinput, hunique, -, -, hcontext, hpreview, hsuffix, hlast⟩ :=
    mismatch_exact h hends hout
  rw [hrest] at hinput hunique hcontext hpreview
  exact ⟨_, _, res, h, rfl, hends, hout, front, hinput, hunique, hcontext, hpreview, hsuffix,
    hlast⟩

end ModalLexer
