import ModalLexer.Regex.Property

/-!
# Escapes

What stands behind a backslash: a punctuation character that stands for itself, the name of a
control character, a code point in hexadecimal, a class of characters, a property, or an assertion.
Digits and the other letters are no escapes. `readEscape` also returns the source behind the escape.
-/

namespace ModalLexer.Regex

/-- What an escape stands for. -/
inductive Atom where
  | char (c : Char)
  | set (s : CharSet)
  | assertion (a : Assertion)

/-- The value of a hexadecimal digit. -/
def hexValue? (c : Char) : Option Nat :=
  if '0' ≤ c ∧ c ≤ '9' then some (c.toNat - '0'.toNat)
  else if 'a' ≤ c ∧ c ≤ 'f' then some (c.toNat - 'a'.toNat + 10)
  else if 'A' ≤ c ∧ c ≤ 'F' then some (c.toNat - 'A'.toNat + 10)
  else none

/-- Reads exactly `n` hexadecimal digits onto the value `acc`. -/
def readHex (f : Flags) : Nat → Nat → Text → Except SyntaxError (Nat × Text)
  | 0, acc, t => .ok (acc, t)
  | n + 1, acc, t =>
    match f.skip t with
    | [] => .error .escape
    | c :: cs =>
      match hexValue? c with
      | some d => readHex f n (16 * acc + d) cs
      | none => .error .escape

/-- Reads hexadecimal digits onto the value `acc`, up to a closing brace. There has to be one. -/
def readBracedHex (f : Flags) (acc : Option Nat) (t : Text) : Except SyntaxError (Nat × Text) :=
  match _h : f.skip t with
  | [] => .error .escape
  | c :: cs =>
    if c = '\x7d' then
      match acc with
      | some n => .ok (n, cs)
      | none => .error .escape
    else
      match hexValue? c with
      | some d => readBracedHex f (some (16 * acc.getD 0 + d)) cs
      | none => .error .escape
termination_by t.length
decreasing_by
  have := f.length_skip_le t
  rw [_h] at this
  exact this

/-- The character of a code point. -/
def ofCodePoint (n : Nat) (rest : Text) : Except SyntaxError (Atom × Text) :=
  if n.isValidChar then .ok (.char (Char.ofNat n), rest) else .error .codePoint

/-- The character of a number of digits. Two digits are a byte, which has to be one of ASCII where
classes are those of ASCII. -/
def ofDigits (f : Flags) (digits n : Nat) (rest : Text) : Except SyntaxError (Atom × Text) :=
  if !f.unicode && digits == 2 && 0x7F < n then .error .beyondAscii else ofCodePoint n rest

/-- Reads a code point: `digits` hexadecimal digits, or any number of them between braces. -/
def readCodePoint (f : Flags) (digits : Nat) (t : Text) : Except SyntaxError (Atom × Text) :=
  match f.skip t with
  | '\x7b' :: cs => do
    let (n, rest) ← readBracedHex f none cs
    ofCodePoint n rest
  | _ => do
    let (n, rest) ← readHex f digits 0 t
    ofDigits f digits n rest

/-- A character that may stand in the name of a word edge. -/
def inEdgeName (c : Char) : Bool := c.isAlpha || c = '-'

/-- The word edge that a name stands for. -/
def edgeOfName (name : Text) : Except SyntaxError WordEdge :=
  match String.ofList name with
  | "start" => .ok .start
  | "end" => .ok .stop
  | "start-half" => .ok .startHalf
  | "end-half" => .ok .stopHalf
  | _ => .error .escape

/-- The word edge of a name that has been read. A closing brace has to follow the name. -/
def closeEdge (name : Text) : Text → Except SyntaxError (WordEdge × Text)
  | '\x7d' :: rest => do
    let e ← edgeOfName name
    .ok (e, rest)
  | _ => .error .escape

/-- Reads what stands behind `\b`: a kind of word edge between braces. Braces that begin with
neither letter nor hyphen belong to a repetition and are left alone. -/
def readEdge (f : Flags) (t : Text) : Except SyntaxError (WordEdge × Text) :=
  match t with
  | '\x7b' :: cs =>
    match f.skip cs with
    | [] => .error .escape
    | c :: cs =>
      if inEdgeName c then
        let (name, rest) := takeCounting f inEdgeName [] (c :: cs)
        closeEdge name rest
      else .ok (.boundary, t)
  | _ => .ok (.boundary, t)

/-- Whether a character behind a backslash stands for itself: the ASCII characters that are neither
letters nor digits nor angle brackets. -/
def standsForItself (c : Char) : Bool :=
  c.toNat < 0x80 && !c.isAlphanum && c != '<' && c != '>'

/-- Reads the escape at the front of a source that follows a backslash. -/
def readEscape (f : Flags) : Text → Except SyntaxError (Atom × Text)
  | [] => .error .escape
  | c :: cs =>
    if standsForItself c then .ok (.char c, cs)
    else
      match f.escapeSet? c with
      | some s => .ok (.set s, cs)
      | none =>
        match c with
        | 'x' => readCodePoint f 2 cs
        | 'u' => readCodePoint f 4 cs
        | 'U' => readCodePoint f 8 cs
        | 'a' => .ok (.char '\x07', cs)
        | 'f' => .ok (.char '\x0c', cs)
        | 'n' => .ok (.char '\n', cs)
        | 'r' => .ok (.char '\r', cs)
        | 't' => .ok (.char '\t', cs)
        | 'v' => .ok (.char '\x0b', cs)
        | 'A' => .ok (.assertion .textStart, cs)
        | 'z' => .ok (.assertion .textEnd, cs)
        | 'b' => do
          let (e, rest) ← readEdge f cs
          .ok (.assertion (f.wordEdge e), rest)
        | 'B' => .ok (.assertion (f.wordEdge .interior), cs)
        | '<' => .ok (.assertion (f.wordEdge .start), cs)
        | '>' => .ok (.assertion (f.wordEdge .stop), cs)
        | 'p' | 'P' => do
          let (s, rest) ← readProperty f (c == 'P') cs
          .ok (.set s, rest)
        | _ => .error .escape

end ModalLexer.Regex
