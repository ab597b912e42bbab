import ModalLexer.Regex.Expr
import ModalLexer.Text.Encoding

/-!
# The weight of an expression

An expression is refused if it is too large. Its size is that of two automata over bytes, one that
goes over a text forward and one that goes backward, and is counted in bytes: 32 for each state, 8
more for each range of bytes that leads out of a state with any number of them, and 4 more for each
way out of a fork. Only the forward automaton has states where groups begin and end.

The forward automaton of a set is minimal, so that encodings share their ends as well as their
beginnings. The backward one forks into the sequences of the set, which share their beginnings. A
choice between literals is a tree in either direction.
-/

namespace ModalLexer.Regex

/-- The direction in which an automaton goes over a text. -/
inductive Direction where
  | forward
  | backward
  deriving DecidableEq

/-- The weight of a state. -/
def stateWeight : Nat := 32

/-- The weight of a range of bytes out of a state. -/
def rangeWeight : Nat := 8

/-- The weight of a way out of a fork. -/
def wayWeight : Nat := 4

/-- The weight of several parts. -/
def total (weights : List Nat) : Nat := weights.foldl (· + ·) 0

/-! ## Sets -/

/-- What stands behind each of the first ranges of sequences. -/
def byFirstRange (qs : List ByteSequence) : List (List ByteSequence) :=
  (qs.filterMap List.head?).eraseDups.map fun r =>
    qs.filterMap fun q => if q.head? = some r then some q.tail else none

/-- What may stand from a place on, for each place within `depth` ranges of the front. -/
def continuations : Nat → List ByteSequence → List (List ByteSequence)
  | 0, _ => []
  | depth + 1, qs => qs :: ((byFirstRange qs).filter (· ≠ [[]])).flatMap (continuations depth)

/-- How many different beginnings, of up to `depth` ranges, sequences have. -/
def beginnings : Nat → List ByteSequence → Nat
  | 0, _ => 0
  | depth + 1, qs => total ((byFirstRange qs).map fun rest => 1 + beginnings depth rest)

/-- The largest number of bytes in an encoding. -/
def maxEncodingSize : Nat := 4

/-- The weight of the automaton of a set. Forward, there is a state for each different continuation;
backward, one for each different beginning, and a fork. A set within ASCII has one state in either
direction. All of them have one more state, to leave by. -/
def setWeight (d : Direction) (s : CharSet) : Nat :=
  let qs := s.byteSequences
  if s.ranges.all (·.2 ≤ 0x7F) then 2 * stateWeight + rangeWeight * s.ranges.length
  else
    match d with
    | .forward =>
      let state (rest : List ByteSequence) := stateWeight + rangeWeight * (byFirstRange rest).length
      stateWeight + total ((continuations maxEncodingSize qs).eraseDups.map state)
    | .backward =>
      (2 + beginnings maxEncodingSize qs) * stateWeight + wayWeight * qs.length

/-! ## Choices between literals -/

/-- Splits a list of words at the empty ones. -/
def splitAtEmpty : List (List UInt8) → List (List (List UInt8))
  | [] => [[]]
  | w :: ws =>
    match splitAtEmpty ws with
    | [] => []
    | p :: ps => if w = [] then [] :: p :: ps else (w :: p) :: ps

/-- The weight of the tree of words of up to `depth` bytes. In each node, the words before an empty
one have a state of their own, and so have those behind it, so that each keeps its place in the
choice. A fork leads to these states, and to the end for each empty word. -/
def treeWeight : Nat → List (List UInt8) → Nat
  | 0, _ => 0
  | depth + 1, ws =>
    let ends := if ws.head? = some [] then 1 else 0
    match splitAtEmpty (ws.dropWhile (· = [])) with
    | [[]] => 0
    | parts =>
      let filled := parts.filter (· ≠ [])
      let state (p : List (List UInt8)) : Nat :=
        let firsts := (p.filterMap List.head?).eraseDups
        let behind (b : UInt8) : Nat :=
          treeWeight depth (p.filterMap fun w => if w.head? = some b then some w.tail else none)
        stateWeight + (if firsts.length = 1 then 0 else rangeWeight * firsts.length) +
          total (firsts.map behind)
      stateWeight + wayWeight * (filled.length + parts.length - 1 + ends) + total (filled.map state)

/-- The bytes of a literal, in the order in which an automaton meets them. -/
def Expr.bytes? (d : Direction) : Expr → Option (List UInt8)
  | literal c cs =>
    let bytes := Text.bytes (c :: cs)
    some (if d = .forward then bytes else bytes.reverse)
  | _ => none

/-! ## Expressions -/

namespace Expr

/-- The weight of an expression. That of a `branch` of a choice counts the way there. -/
def weight (d : Direction) (branch : Bool) : Expr → Nat
  | alt e f =>
    if branch then e.weight d true + f.weight d true
    else
      match (alt e f).branches.mapM (bytes? d) with
      | some ws => stateWeight + treeWeight (ws.foldl (max · ·.length) 0 + 1) ws
      | none => 2 * stateWeight + e.weight d true + f.weight d true
  | empty => way + stateWeight
  | literal c cs => way + stateWeight * (Text.bytes (c :: cs)).length
  | set _ s => way + setWeight d s
  | assertion _ => way + stateWeight
  | cat e f => way + e.weight d false + f.weight d false
  | rounds ⟨0, some 1⟩ _ e => way + fork + stateWeight + e.weight d false
  | rounds ⟨0, none⟩ _ e =>
    way + (if e.nullable then 2 * fork + stateWeight else fork) + e.weight d false
  | rounds ⟨n + 1, none⟩ _ e => way + (n + 1) * e.weight d false + fork
  | rounds ⟨n, some m⟩ _ e =>
    let first := if n = 0 then stateWeight else n * e.weight d false
    way + first + if n = m then 0 else stateWeight + (m - n) * (fork + e.weight d false)
  | group _ e => way + (if d = .forward then 2 * stateWeight else 0) + e.weight d false
where
  /-- The weight of the way to a branch. -/
  way : Nat := if branch then wayWeight else 0
  /-- The weight of a fork with two ways out. -/
  fork : Nat := stateWeight + 2 * wayWeight

/-- Whether a match has to end at the end of the text. -/
def anchoredAtEnd : Expr → Bool
  | assertion .textEnd => true
  | cat e f => f.anchoredAtEnd || (f.consumesNothing && e.anchoredAtEnd)
  | alt e f => e.anchoredAtEnd && f.anchoredAtEnd
  | rounds b _ e => b.min != 0 && e.anchoredAtEnd
  | group _ e => e.anchoredAtEnd
  | _ => false

/-- The weight of the whole automaton. It begins with a state if all matches begin at one place, and
else with a loop over any byte; and it ends with a state that reports a match. -/
def automatonWeight (d : Direction) (e : Expr) : Nat :=
  let fixed := match d with
    | .forward => e.anchored
    | .backward => e.anchoredAtEnd
  let start := if fixed then stateWeight else 3 * stateWeight + rangeWeight + 2 * wayWeight
  let whole := if d = .forward then 2 * stateWeight else 0
  start + whole + e.weight d false + stateWeight

/-- The largest weight of an automaton: 10 MiB. -/
def maxWeight : Nat := 10 * 1024 * 1024

/-- Whether an expression is small enough. -/
def fits (e : Expr) : Bool :=
  e.automatonWeight .forward ≤ maxWeight && e.automatonWeight .backward ≤ maxWeight

end Expr

end ModalLexer.Regex
