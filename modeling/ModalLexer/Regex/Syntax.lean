import ModalLexer.Regex.Expr
import ModalLexer.Text.Blank
import ModalLexer.Text.Folding
import ModalLexer.Unicode.Alphabetic

/-!
# Flags, and what a flag decides

A source is read under flags: whether case matters, where lines and texts begin and end, what a dot
takes, which number of rounds is preferred, whether classes reach beyond ASCII, and whether white
space and comments stand between the parts of an expression. `Flags` answers each of these questions
for the readers of escapes, classes and groups.
-/

namespace ModalLexer.Regex

/-- Why a source is not a regular expression. -/
inductive SyntaxError where
  | groupUnclosed
  | groupUnopened
  | groupName
  | groupNameRepeated
  | flag
  | flagRepeated
  | lookAround
  | nothingToRepeat
  | bounds
  | escape
  | codePoint
  | property
  | classUnclosed
  | classRange
  | classItem
  | beyondAscii
  | tooDeep
  | tooLarge
  deriving DecidableEq, Repr

/-- The settings under which a source is read. -/
structure Flags where
  /-- `i`: characters that differ in case alone are equal. -/
  ignoreCase : Bool := false
  /-- `m`: `^` and `$` hold at the ends of lines. -/
  multiLine : Bool := false
  /-- `s`: a dot takes line ends too. -/
  dotAll : Bool := false
  /-- `U`: a repetition prefers fewer rounds unless a `?` follows. -/
  swapGreed : Bool := false
  /-- `u`: classes and word edges are those of Unicode, and not of ASCII alone. -/
  unicode : Bool := true
  /-- `R`: a carriage return ends a line as well. -/
  crlf : Bool := false
  /-- `x`: white space is not part of the expression, nor is what stands behind a `#`. -/
  extended : Bool := false
  deriving DecidableEq, Repr

namespace Flags

/-- Turns the flag of a letter on or off. -/
def set? (f : Flags) (on : Bool) : Char → Option Flags
  | 'i' => some { f with ignoreCase := on }
  | 'm' => some { f with multiLine := on }
  | 's' => some { f with dotAll := on }
  | 'U' => some { f with swapGreed := on }
  | 'u' => some { f with unicode := on }
  | 'R' => some { f with crlf := on }
  | 'x' => some { f with extended := on }
  | _ => none

end Flags

/-! ## White space in a source -/

/-- Drops white space and comments, which begin with `#` and end with the line. With `comment`, the
text begins inside a comment. -/
def dropBlank (comment : Bool) : Text → Text
  | [] => []
  | c :: cs =>
    if comment then dropBlank (c != '\n') cs
    else if CharSet.whiteSpace.contains c then dropBlank false cs
    else if c = '#' then dropBlank true cs
    else c :: cs

/-- What is left behind white space is no longer than the text. -/
theorem length_dropBlank_le (comment : Bool) (t : Text) :
    (dropBlank comment t).length ≤ t.length := by
  fun_induction dropBlank comment t <;> simp <;> omega

/-- What is left of a source in front of the next character that counts. -/
def Flags.skip (f : Flags) (t : Text) : Text := if f.extended then dropBlank false t else t

/-- Nor is what is left in front of the next character that counts. -/
theorem Flags.length_skip_le (f : Flags) (t : Text) : (f.skip t).length ≤ t.length := by
  unfold skip
  split
  · exact length_dropBlank_le false t
  · exact Nat.le_refl _

/-- Takes characters of the kind `p` from the front of a source onto `taken`, the next ones that
count, and what is left behind them. -/
def takeCounting (f : Flags) (p : Char → Bool) (taken : Text) (t : Text) : Text × Text :=
  match t with
  | [] => (taken.reverse, [])
  | c :: cs =>
    if p c then
      have := f.length_skip_le cs
      takeCounting f p (c :: taken) (f.skip cs)
    else (taken.reverse, c :: cs)
termination_by t.length
decreasing_by simp; omega

/-! ## Sets -/

/-- The characters of ASCII. -/
def ascii : CharSet := .range 0 0x7F

/-- The word characters of ASCII. -/
def asciiWord : CharSet := .ofRanges [(0x30, 0x39), (0x41, 0x5A), (0x5F, 0x5F), (0x61, 0x7A)]

/-- The white space of ASCII. -/
def asciiSpace : CharSet := .ofRanges [(0x09, 0x0D), (0x20, 0x20)]

/-- The sets that have a name of their own between `[:` and `:]`. -/
def namedSet? (name : String) : Option CharSet :=
  match name with
  | "alnum" => some <| .ofRanges [(0x30, 0x39), (0x41, 0x5A), (0x61, 0x7A)]
  | "alpha" => some <| .ofRanges [(0x41, 0x5A), (0x61, 0x7A)]
  | "ascii" => some ascii
  | "blank" => some <| .ofRanges [(0x09, 0x09), (0x20, 0x20)]
  | "cntrl" => some <| .ofRanges [(0x00, 0x1F), (0x7F, 0x7F)]
  | "digit" => some <| .range 0x30 0x39
  | "graph" => some <| .range 0x21 0x7E
  | "lower" => some <| .range 0x61 0x7A
  | "print" => some <| .range 0x20 0x7E
  | "punct" => some <| .ofRanges [(0x21, 0x2F), (0x3A, 0x40), (0x5B, 0x60), (0x7B, 0x7E)]
  | "space" => some asciiSpace
  | "upper" => some <| .range 0x41 0x5A
  | "word" => some asciiWord
  | "xdigit" => some <| .ofRanges [(0x30, 0x39), (0x41, 0x46), (0x61, 0x66)]
  | _ => none

namespace Flags

/-- The set of word characters. -/
def wordSet (f : Flags) : CharSet := if f.unicode then Unicode.word else asciiWord

/-- The set of digits. -/
def digitSet (f : Flags) : CharSet :=
  if f.unicode then Unicode.decimalNumber else .range 0x30 0x39

/-- The set of white space. -/
def spaceSet (f : Flags) : CharSet := if f.unicode then .whiteSpace else asciiSpace

/-- The set that an escape such as `\d` stands for: digits, white space or word characters, or with
the capital letter the characters that are none. -/
def escapeSet? (f : Flags) : Char → Option CharSet
  | 'd' => some f.digitSet
  | 'D' => some f.digitSet.compl
  | 's' => some f.spaceSet
  | 'S' => some f.spaceSet.compl
  | 'w' => some f.wordSet
  | 'W' => some f.wordSet.compl
  | _ => none

/-- A set together with the characters that are equal to one of its own. -/
def close (f : Flags) (s : CharSet) : CharSet :=
  if !f.ignoreCase then s
  else if f.unicode then s.ignoringCase
  else s.union ((s.inter ascii).ignoringCase.inter ascii)

/-- Refuses a set that goes beyond ASCII where classes are those of ASCII. -/
def allow (f : Flags) (s : CharSet) : Except SyntaxError CharSet :=
  if f.unicode || s.ranges.all (·.2 ≤ 0x7F) then .ok s else .error .beyondAscii

/-- What the sets of a source are taken from. -/
def alphabet (f : Flags) : Alphabet := if f.unicode then .unicode else .ascii

/-- The expression of one character of a set. -/
def oneOf (f : Flags) (s : CharSet) : Except SyntaxError Expr := do
  .ok (.ofSet f.alphabet (← f.allow s))

/-- The expression of one character that stands for itself. -/
def char (f : Flags) (c : Char) : Expr :=
  if f.ignoreCase then .ofSet f.alphabet (f.close (.singleton c)) else .literal c []

/-- The characters that a dot takes. -/
def dotSet (f : Flags) : CharSet :=
  if f.dotAll then CharSet.empty.compl
  else if f.crlf then (CharSet.ofRanges [(0x0A, 0x0A), (0x0D, 0x0D)]).compl
  else (CharSet.singleton '\n').compl

/-- What `^` asserts. -/
def caret (f : Flags) : Assertion :=
  if !f.multiLine then .textStart else if f.crlf then .lineStartCrlf else .lineStart

/-- What `$` asserts. -/
def dollar (f : Flags) : Assertion :=
  if !f.multiLine then .textEnd else if f.crlf then .lineEndCrlf else .lineEnd

/-- What a word edge asserts. -/
def wordEdge (f : Flags) (e : WordEdge) : Assertion := .word e f.wordSet

end Flags

end ModalLexer.Regex
