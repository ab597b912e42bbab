import Mathlib.Data.String.Basic
import ModalLexer.Lexer.Log
import ModalLexer.Proofs.Key
import ModalLexer.Proofs.Retry
import ModalLexer.Proofs.Text.Unquoting

/-!
# What the log of a run tells

The log of a run tells all that the run has done (`log_tells_run`). Its first line says where the
run has begun; then there is a line for each match, in order, and a last line exactly if the run has
reached the end of the text. The lines of the matches can be read: their texts, with the escapes
undone and one behind the other, are the text that the run has passed, and the lines that are marked
with `reduce` tell the tokens that were handed over, a rejected one included.

`Trace` holds the fields of such a line as they are written, and `Trace.token?` reads a token off
them. A run logs the traces of the matches of its path (`Runs.lines_eq`). A trace tells the token of
its match if the transition is written as the key that it was given by, since no key stands for a
transition that makes a token named `@self` (`Match.token?_trace`).
-/

namespace ModalLexer

/-! ## Lines -/

/-- The fields of the line of a match, as they are written. -/
structure Trace where
  active : String
  transition : String
  pattern : String
  quoted : String
  action : String
  position : Position

namespace Trace

/-- The line with these fields. -/
def line (t : Trace) : String :=
  s!"TRACE {t.active} {t.transition} {t.pattern} " ++
    s!"matched {t.quoted} ({t.action}), now at {t.position}"

/-- The text that was matched, read off its field. -/
def text? (t : Trace) : Option Text := Quoted.unquote t.quoted

/-- The token that was made, read off the fields. A transition that is written as `@self` leaves the
name active that was active before, and any other one that makes a token is written as its name. -/
def token? (t : Trace) : Option Token :=
  if t.action = "reduce" then
    t.text?.map fun text => ⟨if t.transition = "@self" then t.active else t.transition, text⟩
  else none

end Trace

/-- What is written of a match that ends at a position. -/
def Match.trace (m : Match) (position : Position) : Trace where
  active := m.active
  transition := m.rule.transition.key
  pattern := m.rule.pattern.describe
  quoted := Quoted.quote m.text
  action := LogEvent.action m
  position := position

/-- What is written of matches that follow one another from a position on. -/
def traces (p : Position) : List Match → List Trace
  | [] => []
  | m :: ms => m.trace (p.advance m.text) :: traces (p.advance m.text) ms

/-- The line that is written when a run starts. -/
def startLine (active : String) (bytes : Nat) : String :=
  s!"DEBUG parse start: token '{active}', {bytes} bytes of input"

/-- The line that is written when a run reaches the end of its text. -/
def doneLine (p : Position) : String := s!"DEBUG parse done at {p}"

/-- The lines with which a run ends that has come to a position. -/
def lastLines {γ ε : Type} (p : Position) : Except (LexError ε) γ → List String
  | .ok _ => [doneLine p]
  | .error _ => []

variable {σ γ ε : Type} {g : Grammar} {r : Reduction σ γ ε} {s t : State} {m : Match}
  {ms : List Match} {store : σ} {cursor : γ} {log : Array LogEvent} {n : Nat} {calls : List Token}
  {res : RunResult σ γ ε} {p : Position} {i : Nat}

/-- The trace at a place is that of the match at this place, with the position behind all matches up
to there. -/
theorem getElem?_traces (p : Position) (ms : List Match) (i : Nat) :
    (traces p ms)[i]? =
      ms[i]?.map fun m => m.trace (p.advance (textOf (ms.take (i + 1)))) := by
  induction ms generalizing p i with
  | nil => rfl
  | cons m ms ih =>
    cases i with
    | zero => simp [traces]
    | succ i => simp [traces, ih, Position.advance_append]

/-- There is one trace for each match. -/
theorem length_traces (p : Position) (ms : List Match) : (traces p ms).length = ms.length := by
  induction ms generalizing p with
  | nil => rfl
  | cons m ms ih => rw [traces, List.length_cons, ih, List.length_cons]

/-- The texts of the traces are those of the matches. -/
theorem map_text?_traces (p : Position) (ms : List Match) :
    (traces p ms).map Trace.text? = (ms.map Match.text).map some := by
  induction ms generalizing p with
  | nil => rfl
  | cons m ms ih =>
    have htext : (m.trace (p.advance m.text)).text? = some m.text := Quoted.unquote_quote m.text
    rw [traces, List.map_cons, htext, ih, List.map_cons, List.map_cons]

/-- A match that is logged has its line in front of those of the matches behind it. -/
theorem lines_push_matched {next : State} (h : s.step g = .matched m next) (log : Array LogEvent)
    (ms : List Match) (last : List String) :
    (log.push (.matched m next.position)).toList.map LogEvent.line ++
        ((traces next.position ms).map Trace.line ++ last) =
      log.toList.map LogEvent.line ++ ((traces s.position (m :: ms)).map Trace.line ++ last) := by
  obtain ⟨-, -, -, rfl⟩ := State.step_eq_matched_iff.1 h
  have hposition : (s.after m).position = s.position.advance m.text := rfl
  have hline (p : Position) : LogEvent.line (.matched m p) = (m.trace p).line := rfl
  simp [hposition, hline, traces]

/-- A run logs its matches, and whether it has reached the end of its text. -/
theorem Runs.lines_eq (h : Runs g r n s store cursor log res) :
    ∃ ms, Path g s ms res.state ∧ ms.length = n ∧
      res.log.toList.map LogEvent.line = log.toList.map LogEvent.line ++
        ((traces s.position ms).map Trace.line ++ lastLines res.state.position res.outcome) := by
  induction h with
  | @finished s store cursor log h =>
    have hdone : LogEvent.line (.finished s.position) = doneLine s.position := rfl
    exact ⟨[], .nil s, rfl, by simp [traces, lastLines, hdone]⟩
  | @undefined s => exact ⟨[], .nil s, rfl, by simp [traces, lastLines]⟩
  | @stuck s => exact ⟨[], .nil s, rfl, by simp [traces, lastLines]⟩
  | @dropped n s m next store cursor log res h ht _ ih =>
    obtain ⟨ms, hpath, rfl, hlines⟩ := ih
    exact ⟨m :: ms, .cons h hpath, rfl, hlines.trans (lines_push_matched h log ms _)⟩
  | @reduced n s m next token store cursor store' cursor' log res h ht hr _ ih =>
    obtain ⟨ms, hpath, rfl, hlines⟩ := ih
    exact ⟨m :: ms, .cons h hpath, rfl, hlines.trans (lines_push_matched h log ms _)⟩
  | @rejected s m next token store cursor store' e log h ht hr =>
    refine ⟨[m], .single h, rfl, ?_⟩
    have hlines := lines_push_matched h log [] []
    simpa [traces, lastLines] using hlines

/-! ## Keys -/

/-- The transitions of all rules are given by keys. -/
def Grammar.Keyed (g : Grammar) : Prop :=
  ∀ name c, g.get? name = some c → ∀ rule ∈ c, ∃ key, Transition.ofKey key = .ok rule.transition

/-- So the one of a match is written as the key that it is given by. -/
theorem Grammar.Keyed.ofKey_key (hg : g.Keyed) (h : s.step g = .matched m t) :
    Transition.ofKey m.rule.transition.key = .ok m.rule.transition := by
  obtain ⟨-, -, ⟨c, hc, hprefers⟩, -⟩ := State.step_eq_matched_iff.1 h
  obtain ⟨key, hkey⟩ := hg _ c hc m.rule hprefers.mem
  rw [Transition.key_of_ofKey hkey, hkey]

/-- A trace tells the token of its match, if the transition is given by a key. -/
theorem Match.token?_trace (hm : Transition.ofKey m.rule.transition.key = .ok m.rule.transition)
    (p : Position) : (m.trace p).token? = m.token? := by
  have htext : (m.trace p).text? = some m.text := Quoted.unquote_quote m.text
  have hnames : "drop" ≠ "reduce" := by decide
  unfold Trace.token?
  rw [htext]
  cases ht : m.rule.transition with
  | skip => simp [Match.trace, LogEvent.action, Match.token?, ht, Transition.produces]
  | goto target => simp [Match.trace, LogEvent.action, Match.token?, ht, Transition.produces]
  | produceSelf =>
    simp [Match.trace, LogEvent.action, Match.token?, ht, Transition.produces, Transition.key,
      Transition.next]
  | produce name =>
    have hne : name ≠ "@self" := by
      rintro rfl
      rw [ht] at hm
      exact Transition.ofKey_ne_produce_self _ hm
    simp [Match.trace, LogEvent.action, Match.token?, ht, Transition.produces, Transition.key,
      Transition.next, hne]

/-- So the traces of a path tell its tokens. -/
theorem Path.filterMap_token?_traces (hg : g.Keyed) (h : Path g s ms t) (p : Position) :
    (traces p ms).filterMap Trace.token? = tokensOf ms := by
  induction h generalizing p with
  | nil => rfl
  | cons hstep _ ih =>
    have htoken := Match.token?_trace (hg.ofKey_key hstep)
    simp only [traces, tokensOf, List.filterMap_cons, htoken, ih]

/-! ## The whole log -/

/-- The number of bytes that is logged is the size of the text as a string in UTF-8. -/
theorem byteCount_eq_utf8ByteSize (t : Text) : byteCount t = (String.ofList t).utf8ByteSize := by
  have hfold (n : Nat) : t.foldl (fun n c => n + c.utf8Size) n = n + String.utf8Len t := by
    induction t generalizing n with
    | nil => rfl
    | cons c t ih =>
      rw [List.foldl_cons, ih, String.utf8Len_cons]
      omega
  rw [String.utf8ByteSize_ofList, byteCount, hfold, Nat.zero_add]

/-- The log of a run that ends, in whatever way, tells what the run has done, if the transitions of
the grammar are given by keys.

The first line holds the active name and the number of bytes that are left at the start, and a last
line with the final position is there exactly if the run succeeds. Between them there is a line for
each match, in order. It holds the name that is active in front of the match, the key of the
transition, the pattern, the text, whether the match makes a token, and the position behind all
matches up to there. The texts, read back, are the text that the run has passed. The tokens that the
run has handed over, a rejected one included, are those that are read off the lines in order. -/
theorem log_tells_run (hg : g.Keyed) (h : s.EndsCalling g r store n calls res) :
    ∃ (ms : List Match) (lines : List Trace) (texts : List Text),
      res.log.toList.map LogEvent.line =
        startLine s.active (String.ofList s.rest).utf8ByteSize ::
          (lines.map Trace.line ++ lastLines res.state.position res.outcome) ∧
      Path g s ms res.state ∧ ms.length = n ∧ lines.length = n ∧
      (∀ i line, lines[i]? = some line →
        ∃ m before behind, ms[i]? = some m ∧ Path g s (ms.take i) before ∧
          before.step g = .matched m behind ∧ line.active = before.active ∧
          Transition.ofKey line.transition = .ok m.rule.transition ∧
          line.pattern = m.rule.pattern.describe ∧ line.text? = some m.text ∧
          line.action = (if m.rule.transition.produces then "reduce" else "drop") ∧
          line.position = s.position.advance (texts.take (i + 1)).flatten ∧
          line.position = behind.position) ∧
      lines.map Trace.text? = texts.map some ∧ texts.flatten ++ res.state.rest = s.rest ∧
      calls = lines.filterMap Trace.token? := by
  obtain ⟨ms, hpath, rfl, hlog⟩ := Runs.lines_eq h.1
  have htexts (ms : List Match) : (ms.map Match.text).flatten = textOf ms :=
    List.flatMap_def.symm
  refine ⟨ms, traces s.position ms, ms.map Match.text, ?_, hpath, rfl, length_traces _ _, ?_,
    map_text?_traces _ _, ?_, ?_⟩
  · have hstart : LogEvent.line (.started s.active (byteCount s.rest)) =
        startLine s.active (String.ofList s.rest).utf8ByteSize := by
      rw [← byteCount_eq_utf8ByteSize]
      rfl
    rw [hlog, ← hstart]
    rfl
  · intro i line hline
    rw [getElem?_traces] at hline
    obtain ⟨m, hm, rfl⟩ := Option.map_eq_some_iff.1 hline
    obtain ⟨before, behind, hbefore, hstep, -⟩ := hpath.exists_step hm
    have hactive : m.active = before.active := (State.step_eq_matched_iff.1 hstep).2.1
    have htake : ms.take (i + 1) = ms.take i ++ [m] := by
      rw [List.take_add_one, hm, Option.toList_some]
    have hposition : behind.position = s.position.advance (textOf (ms.take (i + 1))) := by
      rw [htake]
      exact (hbefore.append (.single hstep)).position_eq
    refine ⟨m, before, behind, hm, hbefore, hstep, hactive, hg.ofKey_key hstep, rfl,
      Quoted.unquote_quote m.text, rfl, ?_, hposition.symm⟩
    rw [← List.map_take, htexts]
    rfl
  · rw [htexts]
    exact hpath.textOf_append_rest
  · rw [h.calls_eq, h.1.matchesOf_eq hpath, hpath.filterMap_token?_traces hg]

/-- The transitions of the grammar of words are given by keys. -/
theorem wordGrammar_keyed : wordGrammar.Keyed := by
  intro name c hc rule hrule
  have hentries : ∀ e ∈ wordGrammar.entries, ∀ rule ∈ e.2,
      Transition.ofKey rule.transition.key = .ok rule.transition := by
    decide
  exact ⟨_, hentries _ (Grammar.mem_entries_of_get? hc) rule hrule⟩

/-- Of two words on two lines the second one is rejected. The four lines of the matches hold the
whole text, and two of them tell tokens. -/
theorem log_tells_run_words :
    ∃ (r : Reduction Nat Unit Unit) (res : RunResult Nat Unit Unit), wordGrammar.Keyed ∧
      (State.fresh "gap" words).EndsCalling wordGrammar r 0 4
        [⟨"word", ['a', 'b']⟩, ⟨"word", ['a', 'b']⟩] res ∧
      res.outcome = .error (.reduction "word" ()) ∧
      ∃ (lines : List Trace) (texts : List Text),
        res.log.toList.map LogEvent.line = startLine "gap" 5 :: lines.map Trace.line ∧
        lines.length = 4 ∧ lines.map Trace.text? = texts.map some ∧ texts.flatten = words ∧
        [⟨"word", ['a', 'b']⟩, ⟨"word", ['a', 'b']⟩] = lines.filterMap Trace.token? := by
  let r : Reduction Nat Unit Unit :=
    ⟨(), fun k _ _ => if k = 0 then (1, .ok ()) else (k, .error ())⟩
  have hends : ∃ res, (State.fresh "gap" words).EndsCalling wordGrammar r 0 4
      [⟨"word", ['a', 'b']⟩, ⟨"word", ['a', 'b']⟩] res ∧
      res.outcome = .error (.reduction "word" ()) ∧ res.state.rest = [] :=
    ⟨_, ⟨.reduced rfl rfl rfl <| .dropped rfl rfl <| .dropped rfl rfl <| .rejected rfl rfl rfl,
      .reduced rfl rfl rfl <| .dropped rfl rfl <| .dropped rfl rfl <| .rejected rfl rfl rfl⟩,
      rfl, rfl⟩
  obtain ⟨res, hends, hout, hrest⟩ := hends
  obtain ⟨-, lines, texts, hlog, -, -, hlength, -, htexts, hflatten, hcalls⟩ :=
    log_tells_run wordGrammar_keyed hends
  rw [hout, lastLines, List.append_nil] at hlog
  rw [hrest, List.append_nil] at hflatten
  exact ⟨r, res, wordGrammar_keyed, hends, hout, lines, texts, hlog, hlength, htexts, hflatten,
    hcalls⟩

end ModalLexer
