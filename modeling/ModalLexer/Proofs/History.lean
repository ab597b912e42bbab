import Mathlib.Data.List.DropRight
import ModalLexer.Proofs.Run

/-!
# Histories of a lexer

One lexer may be run again and again, with a new reduction each time; each run goes on where the one
before stopped, whatever stopped it. Its history is the list of all matches that its runs have
logged. However it went, nothing of the text is lost, doubled or moved: the matches and the text
that is left make up the whole text, the position is the one that counting all matched text from the
start gives, and the last match is the last one of the history (`History.invariant`).

A history is a path from the first state (`History.path`), so the invariant is that of paths, with
`Position.advance_start_eq` for the comparison of a position with a count of line feeds. Where runs
under two grammars are compared, the runs are given as a list of clients (`State.afterRuns`).
-/

namespace ModalLexer

variable {g : Grammar} {start : String} {input : Text} {ms : List Match} {s : State}

/-- What stands behind the last line feed of a text. -/
def lastLine (t : Text) : Text := t.rtakeWhile (· ≠ '\n')

/-- A line feed begins a new last line, and every other character goes on with it. -/
theorem lastLine_concat (t : Text) (c : Char) :
    lastLine (t ++ [c]) = if c = '\n' then [] else lastLine t ++ [c] := by
  unfold lastLine
  rw [List.rtakeWhile_concat]
  by_cases hc : c = '\n' <;> simp [hc]

/-- The position behind a text, by counting its line feeds and the characters behind the last one.
Where there is no line feed, the column goes on. -/
theorem Position.advance_eq (p : Position) (t : Text) : p.advance t =
    ⟨p.line + t.count '\n', (if '\n' ∈ t then 1 else p.column) + (lastLine t).length⟩ := by
  induction t using List.reverseRecOn with
  | nil => rfl
  | append_singleton t c ih =>
    have hsingle (q : Position) : q.advance [c] = q.next c := rfl
    rw [advance_append, hsingle, ih, next, lastLine_concat, List.count_append]
    split
    · next hc => simp [hc, Nat.add_assoc]
    · next hc =>
      have hmem : '\n' ∈ t ++ [c] ↔ '\n' ∈ t := by simp [Ne.symm hc]
      simp [hc, hmem, Nat.add_assoc]

/-- From the start, the column is 1 in front of every line. -/
theorem Position.advance_start_eq (t : Text) :
    Position.start.advance t = ⟨1 + t.count '\n', 1 + (lastLine t).length⟩ := by
  rw [advance_eq, start, ite_self]

/-- `History g start input ms s`: a lexer that began at the name `start` in front of `input` has
made the matches `ms` in all of its runs so far, and is in the state `s`. A run may have ended in
any way. It may also have been cut off by its bound, so the states between two matches of a run are
states of a history too. -/
inductive History (g : Grammar) (start : String) (input : Text) : List Match → State → Prop
  | fresh : History g start input [] (.fresh start input)
  | run {σ γ ε : Type} {ms : List Match} {s : State} (h : History g start input ms s)
    (r : Reduction σ γ ε) (limit : Nat) (store : σ) :
    History g start input (ms ++ matchesOf (s.run g r limit store).log)
      (s.run g r limit store).state

/-- A reduction of any kind, with the store that it begins with. -/
structure Client where
  {σ γ ε : Type}
  reduction : Reduction σ γ ε
  store : σ

/-- The state of a lexer behind runs one after the other, each with a client of its own and the
number of matches that it may make. -/
def State.afterRuns (g : Grammar) : List (Client × Nat) → State → State
  | [], s => s
  | (c, limit) :: runs, s => (s.run g c.reduction limit c.store).state.afterRuns g runs

/-- A run goes along the path of the matches that it logs. -/
theorem State.path_run {σ γ ε : Type} (s : State) (g : Grammar) (r : Reduction σ γ ε) (limit : Nat)
    (store : σ) :
    Path g s (matchesOf (s.run g r limit store).log) (s.run g r limit store).state := by
  obtain ⟨ms, hpath, hlog⟩ := s.exists_path_runFrom g r limit store r.root
    #[.started s.active (byteCount s.rest)]
  have hms : matchesOf (s.run g r limit store).log = ms := by
    rw [run, hlog]
    rfl
  rw [hms]
  exact hpath

/-- A run that ends goes along the path of the matches that it logs, too. -/
theorem State.Ends.path {σ γ ε : Type} {r : Reduction σ γ ε} {store : σ} {n : Nat}
    {res : RunResult σ γ ε} (h : s.Ends g r store n res) :
    Path g s (matchesOf res.log) res.state := by
  have hpath := s.path_run g r n store
  rwa [h.run_eq (Nat.le_refl n)] at hpath

/-- Where a run goes along a path of all of its matches, these are the matches that it logs. -/
theorem State.Ends.matchesOf_eq {σ γ ε : Type} {r : Reduction σ γ ε} {store : σ}
    {res : RunResult σ γ ε} (h : s.Ends g r store ms.length res) (hpath : Path g s ms res.state) :
    matchesOf res.log = ms := by
  have hlen : (matchesOf res.log).length = 0 + ms.length := Runs.length_matchesOf h
  exact (h.path.eq_of_length_eq hpath (hlen.trans (Nat.zero_add _))).1

/-- A run that ends makes a history longer by the matches that it logs. -/
theorem History.ends {σ γ ε : Type} {r : Reduction σ γ ε} {store : σ} {n : Nat}
    {res : RunResult σ γ ε} (h : History g start input ms s) (hends : s.Ends g r store n res) :
    History g start input (ms ++ matchesOf res.log) res.state := by
  have hrun := h.run r n store
  rwa [hends.run_eq (Nat.le_refl n)] at hrun

/-- The matches of a history lead from the first state to the last. -/
theorem History.path (h : History g start input ms s) : Path g (.fresh start input) ms s := by
  induction h with
  | fresh => exact .nil _
  | @run σ γ ε ms s _ r limit store ih => exact ih.append (s.path_run g r limit store)

/-- After every history, the text of its matches and the text that is left make up the whole text,
the position counts the line feeds of the matched text and the characters behind the last of them,
and the last match is that of the history. -/
theorem History.invariant (h : History g start input ms s) :
    textOf ms ++ s.rest = input ∧ s.position.line = 1 + (textOf ms).count '\n' ∧
      s.position.column = 1 + (lastLine (textOf ms)).length ∧
      s.lastMatch = (ms.getLast?.map Match.text).getD [] := by
  have hposition : s.position = Position.start.advance (textOf ms) := h.path.position_eq
  rw [Position.advance_start_eq] at hposition
  exact ⟨h.path.textOf_append_rest, by rw [hposition], by rw [hposition], h.path.lastMatch_eq⟩

/-- A run whose first word is rejected, and another one that is cut off in front of the second word
stand between the beginning and a state on the second line. -/
theorem History.invariant_words : ∃ ms s, History wordGrammar "gap" words ms s ∧ ms.length = 3 ∧
    s.rest = ['a', 'b'] ∧ s.lastMatch = ['\n'] ∧ textOf ms ++ s.rest = words ∧
      s.position.line = 1 + (textOf ms).count '\n' ∧
      s.position.column = 1 + (lastLine (textOf ms)).length ∧
      s.lastMatch = (ms.getLast?.map Match.text).getD [] := by
  let rejecting : Reduction Unit Unit Unit := ⟨(), fun store _ _ => (store, .error ())⟩
  have hfresh : History wordGrammar "gap" words [] (.fresh "gap" words) := .fresh
  have h := (hfresh.run rejecting 4 ()).run collecting 2 []
  exact ⟨_, _, h, rfl, rfl, rfl, h.invariant⟩

end ModalLexer
