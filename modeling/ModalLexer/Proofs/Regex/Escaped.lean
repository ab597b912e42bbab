import ModalLexer.Proofs.Regex.Anchored
import ModalLexer.Proofs.Regex.Fixed

/-!
# Texts that are escaped

A text stands for itself in a regular expression once a backslash is put before each of its meta
characters (`escape`). The reader makes one literal of it (`readExpr_escape`), which weighs as much
as its bytes (`Expr.fits_atFront`), so an escaped text compiles up to a certain length. The program
then passes the text character by character, and the pattern matches what a literal pattern matches.
-/

namespace ModalLexer

namespace Regex

variable {c : Char} {t : Text} {r : Reader}

/-- The characters that may mean something other than themselves in a regular expression. -/
def metaChars : List Char :=
  ['\\', '.', '+', '*', '?', '(', ')', '|', '[', ']', '\x7b', '\x7d', '^', '$', '#', '&', '-', '~']

/-- A text with a backslash before each meta character. -/
def escape (t : Text) : Text := t.flatMap fun c => if c ∈ metaChars then ['\\', c] else [c]

/-! ## Reading -/

namespace Reader

/-- A meta character behind a backslash stands for itself. -/
theorem readAction_escaped (hc : c ∈ metaChars) (rest : Text) :
    readAction {} '\\' (c :: rest) = .ok (.push (.char c) 0, rest) := by
  have hall : metaChars.all standsForItself = true := by decide
  have hself : standsForItself c = true := List.all_eq_true.1 hall c hc
  simp [readAction, readEscape, hself, Bind.bind, Except.bind]

/-- A character that is none stands for itself as it is. -/
theorem readAction_plain (hc : c ∉ metaChars) (rest : Text) :
    readAction {} c rest = .ok (.push (.char c) 0, rest) := by
  simp only [metaChars, List.mem_cons, List.not_mem_nil, or_false, not_or] at hc
  simp [readAction, hc]

/-- Without flags, a character is pushed as a literal. -/
theorem act_push_char (hr : r.flags = {}) (c : Char) :
    r.act (.push (.char c) 0) = .ok (r.push (.literal c []) 0) := by
  rw [act, hr]
  rfl

/-- The items of a text, each character one, the last one first. -/
def literals (t : Text) : List (Option Piece) :=
  (t.map fun c => some ⟨.literal c [], 0⟩).reverse

/-- An escaped text is read as its characters. -/
theorem run_escape (hr : r.flags = {}) (t rest : Text) :
    r.run 0 (escape t ++ rest) = { r with items := literals t ++ r.items }.run 0 rest := by
  induction t generalizing r with
  | nil => rfl
  | cons c t ih =>
    have hone : r.run 0 (escape (c :: t) ++ rest) =
        (r.push (.literal c []) 0).run 0 (escape t ++ rest) := by
      rw [escape, List.flatMap_cons, ← escape]
      split
      · next hc =>
        have hread := hr ▸ readAction_escaped hc (escape t ++ rest)
        exact (run_of_readAction hread (act_push_char hr c)).trans
          (by rw [List.length_cons, Nat.add_sub_cancel_left]; rfl)
      · next hc =>
        have hread := hr ▸ readAction_plain hc (escape t ++ rest)
        exact (run_of_readAction hread (act_push_char hr c)).trans (by rw [Nat.sub_self])
    rw [hone, ih (by exact hr)]
    simp [literals, push]

end Reader

/-! ## The expression -/

namespace Expr

/-- The expression of a text. -/
def ofText : Text → Expr
  | [] => empty
  | c :: cs => literal c cs

/-- Characters side by side are joined to one literal. -/
theorem joinLiterals_map_literal (c : Char) (t : Text) :
    joinLiterals ((c :: t).map (literal · [])) = [literal c t] := by
  induction t generalizing c with
  | nil => rfl
  | cons d t ih =>
    rw [List.map_cons, joinLiterals, ih d]
    rfl

/-- Characters in sequence are one literal. -/
theorem sequence_map_literal (t : Text) : sequence (t.map (literal · [])) = ofText t := by
  have hparts : (t.map (literal · [])).flatMap parts = t.map (literal · []) := by
    induction t with
    | nil => rfl
    | cons c t ih => rw [List.map_cons, List.flatMap_cons, ih]; rfl
  rw [sequence, hparts]
  cases t with
  | nil => rfl
  | cons c t => rw [joinLiterals_map_literal]; rfl

/-- The expression of an escaped text behind the assertion that the text starts here. -/
def atFront (t : Text) : Expr := sequence [assertion .textStart, ofText t]

end Expr

namespace Reader

/-- Behind an escaped text, the current branch is that text. -/
theorem branch_literals (r : Reader) (t : Text) :
    ({ r with items := literals t }).branch.expr = .ofText t ∧
      ({ r with items := literals t }).branch.depth ≤ 1 := by
  have hpieces : (literals t).reverse.filterMap id = t.map fun c => ⟨.literal c [], 0⟩ := by
    rw [literals, List.reverse_reverse, List.filterMap_map]
    exact congrFun List.filterMap_eq_map' t
  have hdepth (ps : List Piece) (hps : ∀ p ∈ ps, p.depth = 0) :
      ps.foldl (fun d p => max d p.depth) 0 = 0 := by
    induction ps with
    | nil => rfl
    | cons p ps ih =>
      rw [List.forall_mem_cons] at hps
      rw [List.foldl_cons, hps.1, Nat.max_self, ih hps.2]
  constructor
  · rw [branch, hpieces, List.map_map]
    exact Expr.sequence_map_literal t
  · rw [branch, hpieces, hdepth _ (by simp)]
    dsimp only
    split <;> omega

end Reader

/-- The reader makes one literal of an escaped text. -/
theorem readExpr_escape (t : Text) : readExpr (anchoredSource (escape t)) = .ok (.atFront t) := by
  obtain ⟨hexpr, hdepth⟩ := Reader.inGroup.branch_literals t
  have hrun : ({} : Reader).run 0 (anchoredSource (escape t)) =
      .ok { items := [some ⟨.ofText t,
        ({ Reader.inGroup with items := Reader.literals t }).branch.depth + 1⟩,
        some ⟨.assertion .textStart, 0⟩] } := by
    rw [Reader.run_anchoredSource, Reader.run_escape rfl, Reader.run_paren, ← hexpr]
    simp only [Reader.inGroup, Reader.openGroup, List.append_nil]
    rfl
  have hlevels : ∀ d ≤ 2, ¬maxDepth < max (max 0 0) d + 1 := by decide
  rw [readExpr, hrun]
  exact if_neg (hlevels _ (Nat.succ_le_succ hdepth))

/-! ## The weight -/

namespace Expr

/-- The largest number of bytes of a text that is small enough. -/
def maxTextSize : Nat := 327674

/-- A text that is not empty is one literal behind the assertion. -/
theorem atFront_cons (c : Char) (cs : Text) :
    atFront (c :: cs) = cat (assertion .textStart) (literal c cs) := rfl

/-- A text weighs as much as its bytes do. -/
theorem weight_atFront (d : Direction) (t : Text) :
    (atFront t).weight d false = stateWeight + stateWeight * (Text.bytes t).length := by
  cases t with
  | nil => rfl
  | cons c cs => simp only [atFront_cons, weight, weight.way, Bool.false_eq_true, if_false,
      Nat.zero_add]

/-- The backward automaton is the larger one, since no match has to end where the text does. -/
theorem fits_atFront (t : Text) :
    (atFront t).fits = decide ((Text.bytes t).length ≤ maxTextSize) := by
  have hanchored : (atFront t).anchored = true ∧ (atFront t).anchoredAtEnd = false := by
    cases t <;> exact ⟨rfl, rfl⟩
  rw [Bool.eq_iff_iff, decide_eq_true_iff]
  simp [fits, automatonWeight, weight_atFront, hanchored, stateWeight, rangeWeight, wayWeight,
    maxWeight, maxTextSize]
  omega

end Expr

/-- So an escaped text compiles if it is small enough, and only then. -/
theorem compile_escape (t : Text) :
    compile (anchoredSource (escape t)) =
      if (Text.bytes t).length ≤ Expr.maxTextSize then .ok (Expr.atFront t).program
      else .error .tooLarge := by
  have hcompile : compile (anchoredSource (escape t)) =
      if (Expr.atFront t).fits then .ok (Expr.atFront t).program else .error .tooLarge := by
    rw [compile, readExpr_escape]
    rfl
  rw [hcompile, Expr.fits_atFront]
  simp only [decide_eq_true_eq]

/-! ## Matching -/

/-- The program of an escaped text finds the text at the start of another one. -/
theorem Expr.matchEnd_atFront (t input : Text) :
    (atFront t).program.matchEnd input =
      if t.isPrefixOf input then some t.length else none := by
  have hanchored : (atFront t).anchored = true := by cases t <;> rfl
  have hfixed : (atFront t).fixed = true := by cases t <;> rfl
  have hpass : (atFront t).pass (.start input) = Place.takeAll? t (.start input) := by
    cases t <;> rfl
  rw [matchEnd_eq_search hanchored, search_fixed hfixed, hpass, Place.map_index_takeAll?]
  simp [Place.start]

end Regex

namespace Pattern

open Regex

variable {t : Text}

/-- An escaped text that is small enough is a pattern, and it matches what the text does as a
literal pattern: the text, wherever the input starts with it. -/
theorem match?_escape (t : Text) (ht : (Text.bytes t).length ≤ Expr.maxTextSize) :
    ∃ p, ofRegex (escape t) = .ok p ∧ ∀ input,
      p.match? input = (literal t).match? input ∧
        p.match? input = if t <+: input then some t else none := by
  have hcompile : compile (anchoredSource (escape t)) = .ok (Expr.atFront t).program := by
    rw [compile_escape, if_pos ht]
  have hmatch (input : Text) : (regex (escape t) _ hcompile).match? input =
      if t <+: input then some t else none := by
    rw [match?, Expr.matchEnd_atFront]
    by_cases hprefix : t <+: input
    · rw [if_pos (List.isPrefixOf_iff_prefix.2 hprefix), if_pos hprefix, Option.map_some,
        ← List.prefix_iff_eq_take.1 hprefix]
    · rw [if_neg (fun h => hprefix (List.isPrefixOf_iff_prefix.1 h)), if_neg hprefix,
        Option.map_none]
  refine ⟨_, ofRegex_eq_ok_iff.2 ⟨_, hcompile, rfl⟩, fun input => ⟨?_, hmatch input⟩⟩
  rw [hmatch, match?]
  simp only [List.isPrefixOf_iff_prefix]

/-- The file name `a.b` is escaped as `a\.b`, which does not match `axb`. -/
theorem match?_escape_dot :
    (Text.bytes ['a', '.', 'b']).length ≤ Expr.maxTextSize ∧
      ∃ p, ofRegex ['a', '\\', '.', 'b'] = .ok p ∧ p.match? ['a', 'x', 'b'] = none ∧
        p.match? ['a', '.', 'b', 'c'] = some ['a', '.', 'b'] := by
  have hsize : (Text.bytes ['a', '.', 'b']).length ≤ Expr.maxTextSize := by decide
  obtain ⟨p, hp, hmatch⟩ := match?_escape ['a', '.', 'b'] hsize
  exact ⟨hsize, p, hp, (hmatch _).2.trans (by decide), (hmatch _).2.trans (by decide)⟩

end Pattern

end ModalLexer
