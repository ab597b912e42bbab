import ModalLexer.Regex.Program

/-!
# Running a program over a text

The machine follows all ways through a program at once, one character at a time. Between two
characters it holds an ordered list of addresses, the most preferred first, and no address twice, so
a step costs no more than the program is long and a whole search no more than program times text.

When a way accepts, the ways behind it are dropped: they are less preferred. The ways before it go
on, and one that accepts later replaces the match. A search that is not anchored adds a new way at
each place, as the least preferred, until something has matched.
-/

namespace ModalLexer.Regex

namespace Program

/-- What the machine has found out between two characters: which addresses it has seen, the
characters it can take next with the addresses behind them, the least preferred first, and whether
it accepts here. -/
structure Frontier where
  seen : Array Bool
  takes : List (CharSet × Nat)
  accepts : Bool

/-- Follows jumps, forks and checks from the addresses on `stack`, in order, between the characters
`before` and `after`. Each address is followed once, one past the end of the code never, and an
accepted match ends the walk. -/
def follow (p : Program) (before after : Option Char) : Nat → List Nat → Frontier → Frontier
  | 0, _, f => f
  | _, [], f => f
  | fuel + 1, pc :: stack, ⟨seen, takes, accepts⟩ =>
    if seen.getD pc true then p.follow before after fuel stack ⟨seen, takes, accepts⟩
    else
      let f : Frontier := ⟨seen.setIfInBounds pc true, takes, accepts⟩
      match p.code[pc]? with
      | none => p.follow before after fuel stack f
      | some (.take s next) =>
        p.follow before after fuel stack { f with takes := (s, next) :: f.takes }
      | some (.check a next) =>
        p.follow before after fuel (if a.holds before after then next :: stack else stack) f
      | some (.jump next) => p.follow before after fuel (next :: stack) f
      | some (.fork first second) => p.follow before after fuel (first :: second :: stack) f
      | some .accept => { f with accepts := true }

/-- The frontier between two characters that the addresses `ready` reach. Every instruction puts at
most two addresses on the stack, which bounds the walk. -/
def frontier (p : Program) (before after : Option Char) (ready : List Nat) : Frontier :=
  p.follow before after (ready.length + 2 * p.code.size + 1) ready
    ⟨Array.replicate p.code.size false, [], false⟩

/-- The addresses behind the character `c`, the most preferred first. -/
def Frontier.step (f : Frontier) (c : Char) : List Nat :=
  f.takes.foldl (fun next t => if t.1.contains c then t.2 :: next else next) []

/-- Runs the machine over a text from the addresses `ready`, behind the character `before` and `n`
characters. The result is the length of the text up to the end of the preferred match; `best` is the
one found so far. -/
def scan (p : Program) (ready : List Nat) (before : Option Char) (best : Option Nat) (n : Nat) :
    Text → Option Nat
  | [] => if (p.frontier before none ready).accepts then some n else best
  | c :: cs =>
    let f := p.frontier before (some c) ready
    let best := if f.accepts then some n else best
    let ready := f.step c
    let ready := if p.anchored || best.isSome then ready else ready ++ [0]
    if ready.isEmpty then best else p.scan ready (some c) best (n + 1) cs

/-- The place where the preferred match of the program in a text ends, if there is one. -/
def matchEnd (p : Program) (t : Text) : Option Nat := p.scan [0] none none 0 t

end Program

end ModalLexer.Regex
