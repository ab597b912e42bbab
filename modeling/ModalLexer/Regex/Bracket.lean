import ModalLexer.Regex.Escape

/-!
# Character classes in brackets

A class lists characters, ranges, escapes, named sets and further classes, which together form a
union. Two unions may be joined by `&&`, `--` or `~~`, from left to right and with equal strength. A
`^` behind the opening bracket takes the complement of all of it. Hyphens there, or else one closing
bracket, stand for themselves.

The reader goes over the source one character at a time with the stack of open brackets. An element
of several characters is read at its first, and `skip` then counts down the rest of it, so that the
recursion is on the source itself.
-/

namespace ModalLexer.Regex

/-- A set that has been read, with the number of levels of the syntax tree that it takes. -/
structure ClassPart where
  set : CharSet := .empty
  depth : Nat := 0

/-- An operation between the operands of a class. -/
inductive SetOp where
  | inter
  | diff
  | symmDiff

/-- The set that an operation makes of two others. -/
def SetOp.apply : SetOp → CharSet → CharSet → CharSet
  | .inter => CharSet.inter
  | .diff => CharSet.diff
  | .symmDiff => CharSet.symmDiff

/-- The operation written with two copies of a character. -/
def SetOp.ofChar? : Char → Option SetOp
  | '&' => some .inter
  | '-' => some .diff
  | '~' => some .symmDiff
  | _ => none

/-- An open bracket: what stands before the last operation, if there is one, and the union behind it
so far, with the number of its items and the levels of the deepest. -/
structure Bracket where
  negated : Bool := false
  left : Option (ClassPart × SetOp) := none
  items : Nat := 0
  union : ClassPart := {}

namespace Bracket

/-- Adds an item to the union. -/
def add (b : Bracket) (f : Flags) (p : ClassPart) : Except SyntaxError Bracket := do
  let s ← f.allow p.set
  .ok { b with
    items := b.items + 1
    union := ⟨b.union.set.union s, max b.union.depth p.depth⟩ }

/-- What has been read since the bracket or the last operation. -/
def operand (b : Bracket) : ClassPart :=
  if 2 ≤ b.items then ⟨b.union.set, b.union.depth + 1⟩ else b.union

/-- What has been read since the bracket. -/
def contents (b : Bracket) (f : Flags) : ClassPart :=
  match b.left with
  | none => b.operand
  | some (l, op) =>
    ⟨op.apply (f.close l.set) (f.close b.operand.set), max l.depth b.operand.depth + 1⟩

/-- Starts the operand behind an operation. -/
def operate (b : Bracket) (f : Flags) (op : SetOp) : Bracket :=
  { negated := b.negated, left := some (b.contents f, op) }

/-- What the bracket stands for once it is closed. -/
def value (b : Bracket) (f : Flags) : ClassPart :=
  let s := f.close (b.contents f).set
  ⟨if b.negated then s.compl else s, (b.contents f).depth + 1⟩

end Bracket

/-- Reads the hyphens at the front of a class, and counts them onto `n`. With `comment`, the source
begins inside a comment. -/
def readHyphens (f : Flags) (comment : Bool) (n : Nat) : Text → Nat × Text
  | [] => (n, [])
  | c :: cs =>
    if comment then readHyphens f (c != '\n') n cs
    else if c = '-' then readHyphens f false (n + 1) cs
    else if f.extended && CharSet.whiteSpace.contains c then readHyphens f false n cs
    else if f.extended && c = '#' then readHyphens f true n cs
    else (n, c :: cs)

/-- Whether a caret stands first in a class, and what is left behind it. -/
def readCaret (f : Flags) (t : Text) : Bool × Text :=
  match f.skip t with
  | '^' :: cs => (true, f.skip cs)
  | t => (false, t)

/-- The bracket that begins with `n` hyphens or, if there is none, with a closing bracket
perhaps. -/
def openBehind (negated : Bool) (n : Nat) (t : Text) : Bracket × Text :=
  match n, t with
  | 0, ']' :: t => (⟨negated, none, 1, ⟨.singleton ']', 0⟩⟩, t)
  | 0, t => (⟨negated, none, 0, {}⟩, t)
  | n, t => (⟨negated, none, n, ⟨.singleton '-', 0⟩⟩, t)

/-- Reads what belongs to an opening bracket, from behind it. -/
def openBracket (f : Flags) (t : Text) : Bracket × Text :=
  let (negated, t) := readCaret f t
  let (n, t) := readHyphens f false 0 t
  openBehind negated n t

/-- The set whose name begins a text and is ended by `:]`, and what is left behind it. -/
def namedSetAt? (f : Flags) (negated : Bool) (t : Text) : Option (CharSet × Text) :=
  match t.dropWhile (· != ':') with
  | ':' :: ']' :: rest => do
    let s ← namedSet? (String.ofList (t.takeWhile (· != ':')))
    some (if negated then (f.close s).compl else f.close s, rest)
  | _ => none

/-- Reads the name of a set from behind `[`, up to `:]`. -/
def readNamedSet? (f : Flags) : Text → Option (CharSet × Text)
  | ':' :: '^' :: t => namedSetAt? f true t
  | ':' :: t => namedSetAt? f false t
  | _ => none

/-- Reads one item of a class: an escape, or a character that stands for itself. -/
def readItem (f : Flags) : Text → Except SyntaxError (Atom × Text)
  | [] => .error .classUnclosed
  | '\\' :: cs => readEscape f cs
  | c :: cs => .ok (.char c, cs)

/-- The first character that counts, for the question whether a hyphen makes a range. A second `#`
counts, inside a comment as well. -/
def peek (f : Flags) (comment : Bool) : Text → Option Char
  | [] => none
  | c :: cs =>
    if !f.extended then some c
    else if CharSet.whiteSpace.contains c then peek f comment cs
    else if c = '#' && !comment then peek f true cs
    else some c

/-- The set of an item that stands alone. -/
def Atom.item : Atom → Except SyntaxError CharSet
  | char c => .ok (.singleton c)
  | set s => .ok s
  | assertion _ => .error .classItem

/-- Reads a range on behind its hyphen. -/
def readLast (f : Flags) (first : Atom) (t : Text) : Except SyntaxError (CharSet × Text) := do
  let (last, rest) ← readItem f (f.skip t)
  match first, last with
  | .char a, .char b =>
    if a ≤ b then .ok (.range a.toNat b.toNat, rest) else .error .classRange
  | _, _ => .error .classRange

/-- Reads on behind an item, which may be the first one of a range. -/
def readBehind (f : Flags) (first : Atom) (t : Text) : Except SyntaxError (CharSet × Text) :=
  match f.skip t with
  | [] => .error .classUnclosed
  | '-' :: cs =>
    match peek f false cs with
    | some ']' | some '-' => do .ok (← first.item, '-' :: cs)
    | _ => readLast f first cs
  | t => do .ok (← first.item, t)

/-- Reads an item or a range of a class. -/
def readRange (f : Flags) (t : Text) : Except SyntaxError (CharSet × Text) := do
  let (first, rest) ← readItem f t
  readBehind f first rest

/-- Reads on in the brackets `b`, the innermost, and `outer`, up to the end of the outermost. -/
def readBrackets (f : Flags) (b : Bracket) (outer : List Bracket) :
    Nat → Text → Except SyntaxError (ClassPart × Text)
  | _, [] => .error .classUnclosed
  | skip + 1, _ :: cs => readBrackets f b outer skip cs
  | 0, c :: cs =>
    if f.extended && CharSet.whiteSpace.contains c then readBrackets f b outer 0 cs
    else if f.extended && c = '#' then
      readBrackets f b outer (cs.length - (dropBlank true cs).length) cs
    else if c = '[' then
      match readNamedSet? f cs with
      | some (s, rest) =>
        match b.add f ⟨s, 0⟩ with
        | .error e => .error e
        | .ok b => readBrackets f b outer (cs.length - rest.length) cs
      | none =>
        let (inner, rest) := openBracket f cs
        readBrackets f inner (b :: outer) (cs.length - rest.length) cs
    else if c = ']' then
      match outer with
      | [] => .ok (b.value f, cs)
      | o :: outer =>
        match o.add f (b.value f) with
        | .error e => .error e
        | .ok o => readBrackets f o outer 0 cs
    else
      match (if cs.head? = some c then SetOp.ofChar? c else none) with
      | some op => readBrackets f (b.operate f op) outer 1 cs
      | none =>
        match readRange f (c :: cs) with
        | .error e => .error e
        | .ok (s, rest) =>
          match b.add f ⟨s, 0⟩ with
          | .error e => .error e
          | .ok b => readBrackets f b outer (cs.length - rest.length) cs

/-- A class is not closed in the rest of a text that is left out. -/
theorem readBrackets_of_length_le {f : Flags} {b : Bracket} {outer : List Bracket} {n : Nat}
    {t : Text} (h : t.length ≤ n) : readBrackets f b outer n t = .error .classUnclosed := by
  induction t generalizing n with
  | nil => rw [readBrackets]
  | cons c cs ih =>
    cases n with
    | zero => exact absurd h (by simp)
    | succ n => rw [readBrackets, ih (Nat.le_of_succ_le_succ h)]

/-- White space is passed over where it is for show only. -/
theorem readBrackets_blank {f : Flags} {b : Bracket} {outer : List Bracket} {c : Char} {cs : Text}
    (hblank : (f.extended && CharSet.whiteSpace.contains c) = true) :
    readBrackets f b outer 0 (c :: cs) = readBrackets f b outer 0 cs := by
  rw [readBrackets.eq_def f b outer 0 (c :: cs)]
  exact if_pos hblank

/-- Reads a class from behind its opening bracket. -/
def readClass (f : Flags) (t : Text) : Except SyntaxError (ClassPart × Text) :=
  let (b, rest) := openBracket f t
  readBrackets f b [] 0 rest

end ModalLexer.Regex
