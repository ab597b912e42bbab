import ModalLexer.Text.CharSet

/-!
# Positions in a text

A position is a line and a column, both counted from 1. A line feed ends its line; every other
character is one column wide. Positions are ordered by line, then by column.

`Position.advance` counts without bound. `Position.advance?` counts in 64-bit fields and refuses
what does not fit; `advance?_eq_ok_iff` says that this is the only difference. Advancing over a
concatenation is advancing over its two parts (`advance_append`).
-/

namespace ModalLexer

/-- A place in a text: a line and a column, both counted from 1. -/
structure Position where
  line : Nat
  column : Nat
  deriving DecidableEq, Repr

namespace Position

/-- The beginning of a text. -/
def start : Position := ⟨1, 1⟩

instance : Inhabited Position := ⟨start⟩

/-- The position behind one character. -/
def next (p : Position) (c : Char) : Position :=
  if c = '\n' then ⟨p.line + 1, 1⟩ else ⟨p.line, p.column + 1⟩

/-- The position behind a text that begins at `p`. -/
def advance (p : Position) (t : Text) : Position := t.foldl next p

/-- The empty text leads no further. -/
@[simp] theorem advance_nil (p : Position) : p.advance [] = p := rfl

/-- A text leads to where its first character leads, and from there on. -/
@[simp] theorem advance_cons (p : Position) (c : Char) (t : Text) :
    p.advance (c :: t) = (p.next c).advance t := rfl

/-- Advancing over a concatenation is advancing over its parts in turn. -/
theorem advance_append (p : Position) (s t : Text) :
    p.advance (s ++ t) = (p.advance s).advance t :=
  List.foldl_append

/-- An addition whose result a 64-bit field cannot hold. -/
inductive Overflow where
  | addition
  deriving DecidableEq, Repr

/-- The report of an overflow. -/
def Overflow.message : Overflow → String
  | .addition => "attempt to add with overflow"

/-- Whether line and column fit in 64 bits. -/
def Fits (p : Position) : Prop := p.line < UInt64.size ∧ p.column < UInt64.size

instance (p : Position) : Decidable p.Fits := inferInstanceAs (Decidable (_ ∧ _))

/-- The position behind a text that begins at `p`, in 64-bit fields. The column is added once, from
the last line feed on, so the fields overflow exactly when the final position does not fit. -/
def advance? (p : Position) (t : Text) : Except Overflow Position :=
  if (p.advance t).Fits then .ok (p.advance t) else .error .addition

/-- Where 64-bit fields do not overflow, they hold the position that unbounded counting gives. -/
theorem advance?_eq_ok_iff {p q : Position} {t : Text} :
    p.advance? t = .ok q ↔ q = p.advance t ∧ q.Fits := by
  unfold advance?
  split <;> grind

/-- The order of positions: by line, and on one line by column. -/
protected def compare (p q : Position) : Ordering :=
  (Ord.compare p.line q.line).then (Ord.compare p.column q.column)

instance : Ord Position := ⟨Position.compare⟩

instance : LT Position := ⟨fun p q => p.line < q.line ∨ p.line = q.line ∧ p.column < q.column⟩

instance : LE Position := ⟨fun p q => p.line < q.line ∨ p.line = q.line ∧ p.column ≤ q.column⟩

instance (p q : Position) : Decidable (p < q) := inferInstanceAs (Decidable (_ ∨ _))

instance (p q : Position) : Decidable (p ≤ q) := inferInstanceAs (Decidable (_ ∨ _))

/-- The comparison of two positions is `lt` exactly when the first is before the second. -/
theorem compare_eq_lt_iff {p q : Position} : compare p q = .lt ↔ p < q := by
  change (Ord.compare p.line q.line).then (Ord.compare p.column q.column) = .lt ↔
    (p.line < q.line ∨ p.line = q.line ∧ p.column < q.column)
  rw [Ordering.then_eq_lt]
  simp [Nat.compare_eq_lt]

/-- Positions in ascending order. -/
def sort (ps : List Position) : List Position := ps.mergeSort fun p q => decide (p ≤ q)

instance : ToString Position where
  toString p := s!"line {p.line}, column {p.column}"

end Position

end ModalLexer
