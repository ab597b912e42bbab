import ModalLexer.Regex.Expr

/-!
# Programs of a matching machine

An expression is compiled to a list of instructions. The code of an expression is laid out from an
address `at` on, is entered there, and leaves to an address `next`; `Expr.size` is its length, so
the addresses of all parts are known before any code is written. A fork names two addresses, the
preferred one first.

A repetition of an expression that can match the empty text is entered through a fork of its own,
apart from the fork that goes round, so that an empty round is not taken for the entry.
-/

namespace ModalLexer.Regex

/-- An instruction of the matching machine. -/
inductive Instr where
  /-- Takes one character of the set. -/
  | take (s : CharSet) (next : Nat)
  /-- Goes on where the assertion holds. -/
  | check (a : Assertion) (next : Nat)
  | jump (next : Nat)
  /-- Goes on at both addresses; `first` is preferred. -/
  | fork (first second : Nat)
  /-- Reports a match. -/
  | accept
  deriving DecidableEq

/-- A fork between going round and leaving, in the order that `greedy` prefers. -/
def Instr.choose (greedy : Bool) (round leave : Nat) : Instr :=
  if greedy then fork round leave else fork leave round

namespace Expr

/-- The number of instructions of an expression. -/
def size : Expr → Nat
  | empty => 1
  | literal _ cs => cs.length + 1
  | set _ _ => 1
  | assertion _ => 1
  | cat e f => e.size + f.size
  | alt e f => 1 + e.size + f.size
  | rounds ⟨0, none⟩ _ e => if e.nullable then e.size + 2 else e.size + 1
  | rounds ⟨n + 1, none⟩ _ e => (n + 1) * e.size + 1
  | rounds ⟨n, some m⟩ _ e => n * e.size + (m - n) * (e.size + 1) + 1
  | group _ e => e.size

/-- The code of `n` rounds of a body of `size` instructions, one behind the other. -/
def repeated (body : Nat → Nat → List Instr) (size : Nat) : Nat → Nat → Nat → List Instr
  | 0, _, _ => []
  | 1, start, next => body start next
  | n + 2, start, next =>
    body start (start + size) ++ repeated body size (n + 1) (start + size) next

/-- The code of up to `n` rounds: each is entered through a fork that may leave for good. -/
def optional (body : Nat → Nat → List Instr) (size : Nat) (greedy : Bool) :
    Nat → Nat → Nat → List Instr
  | 0, _, _ => []
  | n + 1, start, leave =>
    Instr.choose greedy (start + 1) leave :: body (start + 1) (start + 1 + size) ++
      optional body size greedy n (start + 1 + size) leave

/-- The code of a literal: it takes one character after the other. -/
def literalCode (c : Char) : Text → Nat → Nat → List Instr
  | [], _, next => [.take (.singleton c) next]
  | d :: ds, start, next => .take (.singleton c) (start + 1) :: literalCode d ds (start + 1) next

/-- The code of an expression, laid out from `start` on and leaving to `next`. -/
def code : Expr → Nat → Nat → List Instr
  | empty, _, next => [.jump next]
  | literal c cs, start, next => literalCode c cs start next
  | set _ s, _, next => [.take s next]
  | assertion a, _, next => [.check a next]
  | cat e f, start, next =>
    e.code start (start + e.size) ++ f.code (start + e.size) next
  | alt e f, start, next =>
    .fork (start + 1) (start + 1 + e.size) ::
      e.code (start + 1) next ++ f.code (start + 1 + e.size) next
  | rounds ⟨0, none⟩ greedy e, start, next =>
    if e.nullable then
      Instr.choose greedy (start + 1) next :: e.code (start + 1) (start + 1 + e.size) ++
        [Instr.choose greedy (start + 1) next]
    else Instr.choose greedy (start + 1) next :: e.code (start + 1) start
  | rounds ⟨n + 1, none⟩ greedy e, start, next =>
    repeated e.code e.size (n + 1) start (start + (n + 1) * e.size) ++
      [Instr.choose greedy (start + n * e.size) next]
  | rounds ⟨n, some m⟩ greedy e, start, next =>
    let leave := start + n * e.size + (m - n) * (e.size + 1)
    repeated e.code e.size n start (start + n * e.size) ++
      optional e.code e.size greedy (m - n) (start + n * e.size) leave ++ [.jump next]
  | group _ e, start, next => e.code start next

end Expr

/-- A compiled expression, entered at address 0. An `anchored` program cannot match but at the start
of the text. -/
structure Program where
  code : Array Instr
  anchored : Bool

/-- The program of an expression: its code, then the instruction that accepts. -/
def Expr.program (e : Expr) : Program :=
  ⟨(e.code 0 e.size ++ [Instr.accept]).toArray, e.anchored⟩

end ModalLexer.Regex
