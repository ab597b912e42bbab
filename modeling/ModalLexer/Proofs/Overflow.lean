import Mathlib.Algebra.Group.Nat.Defs
import ModalLexer.Proofs.History

/-!
# Positions do not overflow

A position is held in 64-bit fields. A lexer may go on for ever, and one that makes empty matches
may advance its position any number of times. But its position depends on the text that it has
passed and not on how often it has advanced: line and column together are at most two more than the
number of characters passed. `positions_fit` concludes that no addition made for a position
overflows, if the text has at most `2 ^ 63 - 1` bytes.

`Position.sums` lists the results of the additions that advancing takes. They fit exactly where
`Position.advance?` succeeds (`Position.advance?_eq_ok_iff_sums`), and none of them is larger than
line, column and the length of the text together (`Position.le_of_mem_sums`).
-/

namespace ModalLexer

/-! ## Additions -/

namespace Position

variable {p : Position} {t : Text} {n : Nat}

/-- The results of the additions that are made in advancing over a text, in order. The line is
counted up at each line feed. Then the characters behind the last line feed are added to the column,
which every line feed has set back to 1. -/
def sums (p : Position) (t : Text) : List Nat :=
  (List.range (t.count '\n')).map (fun i => p.line + (i + 1)) ++
    [(if '\n' ∈ t then 1 else p.column) + (lastLine t).length]

/-- A sum is the line behind one of the line feeds, or the column in the end. -/
theorem mem_sums_iff : n ∈ p.sums t ↔
    (∃ i < t.count '\n', p.line + (i + 1) = n) ∨ (p.advance t).column = n := by
  rw [advance_eq, sums, List.mem_append, List.mem_map, List.mem_singleton]
  simp only [List.mem_range]
  exact or_congr_right eq_comm

/-- In 64-bit fields, advancing succeeds exactly if every addition fits. -/
theorem advance?_eq_ok_iff_sums (hp : p.Fits) :
    p.advance? t = .ok (p.advance t) ↔ ∀ n ∈ p.sums t, n < UInt64.size := by
  have hline : (p.advance t).line = p.line + t.count '\n' := by rw [advance_eq]
  rw [advance?_eq_ok_iff, and_iff_right rfl, Fits, hline]
  constructor
  · rintro ⟨hl, hc⟩ n hn
    rcases mem_sums_iff.1 hn with ⟨i, hi, rfl⟩ | rfl
    · omega
    · exact hc
  · intro h
    refine ⟨?_, h _ (mem_sums_iff.2 (.inr rfl))⟩
    -- The last line feed gives the largest line. Without one, the line is that of `p`.
    by_cases hcount : t.count '\n' = 0
    · rw [hcount]
      exact hp.1
    · have hlast := h (p.line + (t.count '\n' - 1 + 1))
        (mem_sums_iff.2 (.inl ⟨_, by omega, rfl⟩))
      omega

/-- Line feeds and the characters of the last line are different characters of a text. -/
theorem count_add_length_lastLine_le (t : Text) :
    t.count '\n' + (lastLine t).length ≤ t.length := by
  induction t using List.reverseRecOn with
  | nil => exact Nat.le_refl 0
  | append_singleton t c ih =>
    rw [lastLine_concat, List.count_append, List.length_append, List.length_singleton]
    split
    · next hc =>
      subst hc
      have hcount : ['\n'].count '\n' = 1 := rfl
      rw [hcount, List.length_nil]
      omega
    · next hc =>
      have hcount : [c].count '\n' = 0 := by simp [hc]
      rw [hcount, List.length_append, List.length_singleton]
      omega

/-- No sum is larger than line, column and the length of the text together. -/
theorem le_of_mem_sums (hcolumn : 1 ≤ p.column) (hn : n ∈ p.sums t) :
    n ≤ p.line + p.column + t.length := by
  have hle := count_add_length_lastLine_le t
  rcases mem_sums_iff.1 hn with ⟨i, hi, rfl⟩ | rfl
  · omega
  · rw [advance_eq]
    dsimp only
    split <;> omega

/-- Line and column together grow by at most 1 for each character. -/
theorem line_add_column_advance_le (hcolumn : 1 ≤ p.column) (t : Text) :
    (p.advance t).line + (p.advance t).column ≤ p.line + p.column + t.length := by
  have hle := count_add_length_lastLine_le t
  rw [advance_eq]
  dsimp only
  split <;> omega

end Position

/-! ## Lexers -/

/-- A text has at least as many bytes as characters. -/
theorem length_le_byteCount (t : Text) : t.length ≤ byteCount t := by
  have hfold (n : Nat) : n + t.length ≤ t.foldl (fun n c => n + c.utf8Size) n := by
    induction t generalizing n with
    | nil => exact Nat.le_refl n
    | cons c t ih =>
      have hpos := c.utf8Size_pos
      calc n + (c :: t).length ≤ n + c.utf8Size + t.length := by
            rw [List.length_cons]
            omega
        _ ≤ (c :: t).foldl (fun n c => n + c.utf8Size) n := ih (n + c.utf8Size)
  have hzero := hfold 0
  rwa [Nat.zero_add] at hzero

variable {g : Grammar} {start : String} {input : Text} {ms : List Match} {s : State}

/-- In every state that a lexer comes to, however often it is run and however many matches it makes,
line and column together are at most two more than the number of characters passed. So if the text
has at most `2 ^ 63 - 1` bytes, no addition exceeds `2 ^ 64 - 1` in the advance that a step makes
from there, and 64-bit fields hold the position behind it. -/
theorem positions_fit (h : History g start input ms s) (hbytes : byteCount input ≤ 2 ^ 63 - 1) :
    textOf ms ++ s.rest = input ∧
      s.position.line + s.position.column ≤ 2 + (textOf ms).length ∧
      ∀ m t, s.step g = .matched m t →
        (∀ n ∈ s.position.sums m.text, n ≤ 2 ^ 64 - 1) ∧
          s.position.advance? m.text = .ok t.position := by
  have hinput : textOf ms ++ s.rest = input := h.path.textOf_append_rest
  have hposition : s.position = Position.start.advance (textOf ms) := h.path.position_eq
  have hbound : s.position.line + s.position.column ≤ 2 + (textOf ms).length := by
    rw [hposition]
    exact Position.line_add_column_advance_le (Nat.le_refl 1) (textOf ms)
  have hcolumn : 1 ≤ s.position.column := by
    rw [hposition, Position.advance_start_eq]
    exact Nat.le_add_right 1 _
  refine ⟨hinput, hbound, fun m t hstep => ?_⟩
  -- The text passed and the next match are parts of the whole text.
  have hmatch : m.text ++ t.rest = s.rest := State.text_append_rest_of_step hstep
  have hlength : (textOf ms).length + m.text.length ≤ 2 ^ 63 - 1 :=
    calc (textOf ms).length + m.text.length ≤ input.length := by
          rw [← hinput, ← hmatch, List.length_append, List.length_append]
          omega
      _ ≤ byteCount input := length_le_byteCount input
      _ ≤ 2 ^ 63 - 1 := hbytes
  have hsums : ∀ n ∈ s.position.sums m.text, n ≤ 2 ^ 64 - 1 := by
    intro n hn
    have hle := Position.le_of_mem_sums hcolumn hn
    omega
  have hfits : s.position.Fits := by
    have hsize : UInt64.size = 2 ^ 64 := rfl
    constructor <;> omega
  obtain ⟨-, -, -, rfl⟩ := State.step_eq_matched_iff.1 hstep
  refine ⟨hsums, (Position.advance?_eq_ok_iff_sums hfits).2 fun n hn => ?_⟩
  exact Nat.lt_of_le_of_lt (hsums n hn) (by decide)

/-- In front of the second of two words, behind three matches of which one is empty. -/
theorem positions_fit_words : byteCount words ≤ 2 ^ 63 - 1 ∧
    ∃ ms s m t, History wordGrammar "gap" words ms s ∧ ms.length = 3 ∧ s.position = ⟨2, 1⟩ ∧
      s.step wordGrammar = .matched m t ∧
      textOf ms ++ s.rest = words ∧ 2 + 1 ≤ 2 + (textOf ms).length ∧
      (∀ n ∈ s.position.sums m.text, n ≤ 2 ^ 64 - 1) ∧
      s.position.advance? m.text = .ok ⟨2, 3⟩ := by
  have hbytes : byteCount words ≤ 2 ^ 63 - 1 := by decide
  have hfresh : History wordGrammar "gap" words [] (.fresh "gap" words) := .fresh
  have h := hfresh.run collecting 3 []
  obtain ⟨hinput, hbound, hsteps⟩ := positions_fit h hbytes
  obtain ⟨hsums, hadvance⟩ := hsteps ⟨"gap", ⟨.produce "word", .literal ['a', 'b']⟩, ['a', 'b']⟩
    ⟨"word", [], ⟨2, 3⟩, ['a', 'b']⟩ rfl
  exact ⟨hbytes, _, _, _, _, h, rfl, rfl, rfl, hinput, hbound, hsums, hadvance⟩

end ModalLexer
