import ModalLexer.Text.CharSet

/-!
# Regular expressions

An expression is built from literal texts, sets of characters, assertions about the place between
two characters, sequence, ordered choice, and repetition with a preference for more or for fewer
rounds. A group is kept as a node of its own, under its index, because two groups are never the same
expression.

Expressions are built by `ofSet`, `sequence`, `choice` and `repetition`, which keep them in a normal
form: a set of one character is a literal, literals in sequence are one literal, sequences and
choices are flat, and a choice between characters is one set. A choice whose branches all begin with
the same parts makes that choice behind those parts, as in `x+(?:y|z)` for `x+y|x+z`. The last rule
is one of meaning, not only of form: preference among the ways to match the shared parts then comes
before preference among the branches. Whether parts are the same is a question of `=`, so the normal
form is part of what an expression means.
-/

namespace ModalLexer.Regex

/-- An edge of a word, seen from the place between two characters. -/
inductive WordEdge where
  /-- Exactly one side is a word character. -/
  | boundary
  /-- Both sides are word characters, or neither is. -/
  | interior
  /-- A word begins here. -/
  | start
  /-- A word ends here. -/
  | stop
  /-- No word character stands before this place. -/
  | startHalf
  /-- No word character stands behind this place. -/
  | stopHalf
  deriving DecidableEq

/-- What an expression may assert of the place between two characters. -/
inductive Assertion where
  | textStart
  | textEnd
  /-- At the start of the text or behind a line feed. -/
  | lineStart
  /-- At the end of the text or before a line feed. -/
  | lineEnd
  /-- As `lineStart`, where a carriage return, alone or with a line feed behind it, ends a line. -/
  | lineStartCrlf
  /-- As `lineEnd`, where a carriage return, alone or with a line feed behind it, ends a line. -/
  | lineEndCrlf
  /-- An edge of a word made of the characters of `word`. -/
  | word (edge : WordEdge) (word : CharSet)
  deriving DecidableEq

/-- Whether a word edge lies between two characters, given which of them are word characters. -/
def WordEdge.holds (e : WordEdge) (before after : Bool) : Bool :=
  match e with
  | .boundary => before != after
  | .interior => before == after
  | .start => !before && after
  | .stop => before && !after
  | .startHalf => !before
  | .stopHalf => !after

/-- Whether an assertion holds between the characters `before` and `after`, where `none` is an end
of the text. -/
def Assertion.holds (a : Assertion) (before after : Option Char) : Bool :=
  match a with
  | .textStart => before.isNone
  | .textEnd => after.isNone
  | .lineStart => before.all (· == '\n')
  | .lineEnd => after.all (· == '\n')
  | .lineStartCrlf => before.all fun c => c == '\n' || (c == '\r' && after != some '\n')
  | .lineEndCrlf => after.all fun c => c == '\r' || (c == '\n' && before != some '\r')
  | .word e w => e.holds (before.any w.contains) (after.any w.contains)

/-- How often a repetition goes round: at least `min` times, and at most `max` times if given. -/
structure Bounds where
  min : Nat
  max : Option Nat
  deriving DecidableEq

/-- What the characters of a set are taken from. -/
inductive Alphabet where
  | unicode
  | ascii
  deriving DecidableEq

/-- A regular expression. -/
inductive Expr where
  /-- The empty text. -/
  | empty
  /-- A text of at least one character. -/
  | literal (first : Char) (rest : Text)
  /-- One character of a set. The same set over another alphabet is another expression. -/
  | set (a : Alphabet) (s : CharSet)
  /-- The empty text, where an assertion holds. -/
  | assertion (a : Assertion)
  /-- One expression, then another. -/
  | cat (e f : Expr)
  /-- One expression or, where that leads nowhere, another. -/
  | alt (e f : Expr)
  /-- An expression repeated; the `greedy` form prefers more rounds, the other form fewer. -/
  | rounds (b : Bounds) (greedy : Bool) (e : Expr)
  /-- A group that captures what its expression matches. -/
  | group (index : Nat) (e : Expr)
  deriving DecidableEq, Inhabited

namespace Expr

/-- The expression that matches nothing. -/
def never : Expr := set .ascii CharSet.empty

/-- One character of a set. -/
def ofSet (a : Alphabet) (s : CharSet) : Expr :=
  match s.ranges with
  | [] => never
  | [(lo, hi)] => if lo = hi then literal (Char.ofNat lo) [] else set a s
  | _ => set a s

/-! ## Sequences -/

/-- The parts of a sequence, in order. -/
def parts : Expr → List Expr
  | empty => []
  | cat e f => e.parts ++ f.parts
  | e => [e]

/-- Joins the literals that stand side by side. -/
def joinLiterals : List Expr → List Expr
  | [] => []
  | literal c cs :: es =>
    match joinLiterals es with
    | literal d ds :: fs => literal c (cs ++ d :: ds) :: fs
    | fs => literal c cs :: fs
  | e :: es => e :: joinLiterals es

/-- The sequence of the given parts. -/
def ofParts : List Expr → Expr
  | [] => empty
  | [e] => e
  | e :: es => cat e (ofParts es)

/-- Expressions in sequence, as one flat sequence. -/
def sequence (es : List Expr) : Expr := ofParts (joinLiterals (es.flatMap parts))

/-! ## Choices -/

/-- The branches of a choice, in order of preference. -/
def branches : Expr → List Expr
  | alt e f => e.branches ++ f.branches
  | e => [e]

/-- The choice between the given branches. -/
def ofBranches : List Expr → Expr
  | [] => never
  | [e] => e
  | e :: es => alt e (ofBranches es)

/-- The set of the one character that an expression is, if it is one. -/
def char? : Expr → Option CharSet
  | literal c [] => some (.singleton c)
  | _ => none

/-- The set that an expression is, if it is one. -/
def set? : Expr → Option CharSet
  | set _ s => some s
  | _ => none

/-- The union of sets. -/
def unionAll (ss : List CharSet) : CharSet := ss.foldl CharSet.union .empty

/-- A flat choice. It is one set if every branch is a character, or else if every branch is a set,
but characters and sets side by side stay apart. -/
def flatChoice (bs : List Expr) : Expr :=
  match bs with
  | [e] => e
  | _ =>
    match bs.mapM char?, bs.mapM set? with
    | some ss, _ => ofSet .unicode (unionAll ss)
    | none, some ss => ofSet .unicode (unionAll ss)
    | none, none => ofBranches bs

/-- The parts that two sequences begin with. -/
def commonParts : List Expr → List Expr → List Expr
  | e :: es, f :: fs => if e = f then e :: commonParts es fs else []
  | _, _ => []

/-- The parts that all branches of a choice begin with. A branch that is no sequence shares none. -/
def sharedParts (bs : List Expr) : List Expr :=
  match bs.map parts with
  | p :: q :: ps =>
    if (p :: q :: ps).all (2 ≤ ·.length) then (q :: ps).foldl commonParts p else []
  | _ => []

/-- What the branches of a choice leave behind the parts that they share. -/
def rests (bs : List Expr) : List Expr :=
  bs.map fun b => ofParts (b.parts.drop (sharedParts bs).length)

/-- Expressions as the branches of one choice, behind the parts that they all begin with. -/
def choice (es : List Expr) : Expr :=
  let bs := es.flatMap branches
  match sharedParts bs with
  | [] => flatChoice bs
  | shared => sequence (shared ++ [flatChoice ((rests bs).flatMap branches)])

/-! ## Repetitions -/

/-- Whether the expression can match the empty text, assertions apart. -/
def nullable : Expr → Bool
  | empty => true
  | literal _ _ => false
  | set _ _ => false
  | assertion _ => true
  | cat e f => e.nullable && f.nullable
  | alt e f => e.nullable || f.nullable
  | rounds b _ e => b.min == 0 || e.nullable
  | group _ e => e.nullable

/-- Whether the expression can match the empty text alone. -/
def consumesNothing : Expr → Bool
  | empty => true
  | literal _ _ => false
  | set _ _ => false
  | assertion _ => true
  | cat e f => e.consumesNothing && f.consumesNothing
  | alt e f => e.consumesNothing && f.consumesNothing
  | rounds b _ e => b.max == some 0 || e.consumesNothing
  | group _ e => e.consumesNothing

/-- An expression repeated. One that consumes nothing goes round at most once. -/
def repetition (b : Bounds) (greedy : Bool) (e : Expr) : Expr :=
  let b := if e.consumesNothing then ⟨min b.min 1, some (min (b.max.getD 1) 1)⟩ else b
  if b = ⟨0, some 0⟩ then empty
  else if b = ⟨1, some 1⟩ then e
  else rounds b greedy e

/-- Whether a match can begin nowhere but at the start of the text. -/
def anchored : Expr → Bool
  | assertion .textStart => true
  | cat e f => e.anchored || (e.consumesNothing && f.anchored)
  | alt e f => e.anchored && f.anchored
  | rounds b _ e => b.min != 0 && e.anchored
  | group _ e => e.anchored
  | _ => false

end Expr

end ModalLexer.Regex
