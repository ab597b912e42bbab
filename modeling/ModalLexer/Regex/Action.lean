import ModalLexer.Regex.Bracket
import ModalLexer.Unicode.Newer

/-!
# Elements of a source

The reader takes two steps over each element of a source. `readAction` reads the element and says
what it asks for; of the reader's state it needs the flags alone. What is asked for is then done
without a look at the source.
-/

namespace ModalLexer.Regex

/-- What an element of a source asks the reader for. -/
inductive Action where
  /-- White space and comments ask for nothing. -/
  | skip
  | push (a : Atom) (depth : Nat)
  | endBranch
  | openGroup (inner : Flags)
  | openCapture
  | openNamed (name : Text)
  | setFlags (f : Flags)
  | closeGroup
  | repeatLast (b : Bounds) (lazy : Bool)

/-! ## Groups and flags -/

/-- Reads flags up to a colon or a closing parenthesis. Returns the flags, whether a colon ended
them, and what follows. No flag may come twice, and neither may the `-` that turns flags off. -/
def readFlags (f : Flags) (seen : List Char) (on : Bool) :
    Text → Except SyntaxError (Flags × Bool × Text)
  | [] => .error .groupUnclosed
  | c :: cs =>
    if c = ':' then
      if seen.head? = some '-' then .error .flag else .ok (f, true, cs)
    else if c = ')' then
      if seen.head? = some '-' then .error .flag
      else if seen = [] then .error .nothingToRepeat
      else .ok (f, false, cs)
    else if seen.contains c then .error .flagRepeated
    else if c = '-' then readFlags f (c :: seen) false cs
    else
      match f.set? on c with
      | some f => readFlags f (c :: seen) on cs
      | none => .error .flag

/-- Whether a character may stand in the name of a group. -/
def inGroupName (first : Bool) (c : Char) : Bool :=
  c == '_' || Unicode.nameStart.contains c ||
    (!first && (c == '.' || c == '[' || c == ']' || Unicode.nameContinue.contains c))

/-- Reads the name of a group up to a closing angle bracket. -/
def readGroupName (name : Text) : Text → Except SyntaxError (Text × Text)
  | [] => .error .groupName
  | c :: cs =>
    if c = '>' then if name = [] then .error .groupName else .ok (name.reverse, cs)
    else if inGroupName name.isEmpty c then readGroupName (c :: name) cs
    else .error .groupName

/-- Reads the name of a group that captures, from behind the opening angle bracket. -/
def readNamed (t : Text) : Except SyntaxError (Action × Text) := do
  let (name, rest) ← readGroupName [] t
  .ok (.openNamed name, rest)

/-- Reads the kind of a group, or a change of flags, from the first character that counts behind an
opening parenthesis. -/
def readOpening (f : Flags) (t : Text) : Except SyntaxError (Action × Text) :=
  match t with
  | '?' :: '=' :: _ | '?' :: '!' :: _ | '?' :: '<' :: '=' :: _ | '?' :: '<' :: '!' :: _ =>
    .error .lookAround
  | '?' :: 'P' :: '<' :: cs => readNamed cs
  | '?' :: '<' :: cs => readNamed cs
  | '?' :: cs => do
    let (g, opens, rest) ← readFlags f [] true cs
    .ok (if opens then .openGroup g else .setFlags g, rest)
  | t => .ok (.openCapture, t)

/-! ## Repetitions -/

/-- The number that digits stand for. There has to be a digit, and the number has to fit in 32
bits. -/
def countOf (digits : Text) : Except SyntaxError Nat :=
  let n := digits.foldl (fun n c => 10 * n + (c.toNat - '0'.toNat)) 0
  if digits = [] ∨ UInt32.size ≤ n then .error .bounds else .ok n

/-- Reads a number of rounds, with white space around it. -/
def readCount (f : Flags) (t : Text) : Except SyntaxError (Nat × Text) := do
  let (digits, rest) := takeCounting f Char.isDigit [] (t.dropWhile CharSet.whiteSpace.contains)
  let n ← countOf digits
  .ok (n, rest.dropWhile CharSet.whiteSpace.contains)

/-- The bounds `n` and `m`. A closing brace has to follow them. -/
def closeBounds (n m : Nat) : Text → Except SyntaxError (Bounds × Text)
  | '\x7d' :: rest => if n ≤ m then .ok (⟨n, some m⟩, rest) else .error .bounds
  | _ => .error .bounds

/-- Reads the bounds of a repetition on behind the lower bound `n` and a comma. -/
def readUpper (f : Flags) (n : Nat) (t : Text) : Except SyntaxError (Bounds × Text) :=
  match t with
  | '\x7d' :: rest => .ok (⟨n, none⟩, rest)
  | t => do
    let (m, rest) ← readCount f t
    closeBounds n m rest

/-- Reads the bounds of a repetition on behind the lower bound `n`. -/
def boundsFrom (f : Flags) (n : Nat) : Text → Except SyntaxError (Bounds × Text)
  | '\x7d' :: rest => .ok (⟨n, some n⟩, rest)
  | ',' :: rest => readUpper f n (f.skip rest)
  | _ => .error .bounds

/-- Reads the bounds of a repetition from behind the opening brace. -/
def readBounds (f : Flags) (t : Text) : Except SyntaxError (Bounds × Text) := do
  let (n, rest) ← readCount f (f.skip t)
  boundsFrom f n rest

/-- Reads the question mark that may stand behind the bounds of a repetition. -/
def readLazy (b : Bounds) (t : Text) : Action × Text :=
  match t with
  | '?' :: rest => (.repeatLast b true, rest)
  | rest => (.repeatLast b false, rest)

/-! ## Elements -/

/-- Reads the element of a source that begins with the character `c`, where `cs` follows it. -/
def readAction (f : Flags) (c : Char) (cs : Text) : Except SyntaxError (Action × Text) :=
  if f.extended && CharSet.whiteSpace.contains c then .ok (.skip, cs)
  else if f.extended && c = '#' then .ok (.skip, dropBlank true cs)
  else
    match c with
    | '(' => readOpening f (f.skip cs)
    | ')' => .ok (.closeGroup, cs)
    | '|' => .ok (.endBranch, cs)
    | '[' => do
      let (p, rest) ← readClass f cs
      .ok (.push (.set p.set) p.depth, rest)
    | '?' => .ok (readLazy ⟨0, some 1⟩ cs)
    | '*' => .ok (readLazy ⟨0, none⟩ cs)
    | '+' => .ok (readLazy ⟨1, none⟩ cs)
    | '\x7b' => do
      let (b, rest) ← readBounds f cs
      .ok (readLazy b (f.skip rest))
    | '.' => .ok (.push (.set f.dotSet) 0, cs)
    | '^' => .ok (.push (.assertion f.caret) 0, cs)
    | '$' => .ok (.push (.assertion f.dollar) 0, cs)
    | '\\' => do
      let (a, rest) ← readEscape f cs
      .ok (.push a 0, rest)
    | c => .ok (.push (.char c) 0, cs)

end ModalLexer.Regex
