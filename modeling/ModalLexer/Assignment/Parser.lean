import ModalLexer.Assignment.Grammar
import ModalLexer.Assignment.Program
import ModalLexer.Lexer.Run

/-!
# Reading the assignment language

A source is lexed under the grammar of the language, and its tokens are reduced to a program: a name
adds a variable, and digits become the value of the variable that was added last. The cursor tells
whether such a variable waits for a value.
-/

namespace ModalLexer.Assignment

/-- Where the next token attaches: nowhere in particular, or at a variable. -/
inductive Cursor where
  | root
  | variable (index : Nat)
  deriving DecidableEq

/-- The largest value of a variable. -/
def maxValue : Nat := 0x7FFFFFFFFFFFFFFF

/-- The number that decimal digits stand for. -/
def decimalValue (digits : Text) : Nat :=
  digits.foldl (fun n c => 10 * n + (c.toNat - '0'.toNat)) 0

/-- Takes a token into a program. -/
def reduce (p : Program) (cursor : Cursor) (t : Token) : Program × Except ValueError Cursor :=
  if t.name = variableName then
    (⟨p.declared ++ [⟨t.value, none⟩]⟩, .ok (.variable p.declared.length))
  else if t.name = variableValue then
    match cursor with
    | .root => (p, .error (.orphan t.value))
    | .variable index =>
      match p.declared[index]? with
      | none => (p, .error (.orphan t.value))
      | some v =>
        let n := decimalValue t.value
        if n ≤ maxValue then
          (⟨p.declared.set index { v with value := some (Int64.ofNat n) }⟩, .ok .root)
        else (p, .error (.outOfRange v.name t.value))
  else (p, .error (.unexpectedToken t.name))

/-- The reduction that builds a program. -/
def reduction : Reduction Program Cursor ValueError := ⟨.root, reduce⟩

/-- Lexes a source and reduces it. No rule of the grammar matches the empty text, so there are at
most as many matches as characters. -/
def run (g : Grammar) (source : Text) : RunResult Program Cursor ValueError :=
  ModalLexer.parse g start source reduction source.length {}

/-- What reading a source yields, and what it logs. -/
structure Reading where
  log : Array LogEvent
  outcome : Except (LexError ValueError) Program

/-- Reads a source under the grammar `g` of the language. -/
def readWith (g : Grammar) (source : Text) : Reading :=
  let r := run g source
  match r.outcome with
  | .ok _ => ⟨r.log.push (.parsed r.store.declared.length), .ok r.store⟩
  | .error e => ⟨r.log, .error e⟩

/-- Reads a source. -/
def read (source : Text) : Reading :=
  match grammar with
  | .ok g => readWith g source
  | .error e => ⟨#[], .error (.configuration e)⟩

/-- The program that a source stands for. -/
def parse (source : Text) : Except (LexError ValueError) Program := (read source).outcome

/-- The report of an error in a source. -/
def errorMessage (e : LexError ValueError) : String := e.message ValueError.message

end ModalLexer.Assignment
