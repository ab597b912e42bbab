import ModalLexer.Text.CharSet

/-!
# Characters as bytes

A character is encoded in UTF-8 by one to four bytes, and the bytes of a range of code points form a
list of sequences of byte ranges: a sequence stands for the encodings that have their first byte in
its first range, their second in its second range, and so on. `byteSequences` lists them in
ascending order.
-/

namespace ModalLexer

/-- A range of bytes for each byte of an encoding. -/
abbrev ByteSequence := List (Nat × Nat)

/-- The sequences for the values from `a` to `b`, written as one digit above `base` and `n` digits
of six bits. Only the first and the last value of the first digit may leave out some of the digits
behind them. -/
def digitSequences (base : Nat) : Nat → Nat → Nat → List ByteSequence
  | 0, a, b => [[(base + a, base + b)]]
  | n + 1, a, b =>
    let block := 64 ^ (n + 1)
    let (p, i) := (a / block, a % block)
    let (q, j) := (b / block, b % block)
    let behind (digit i j : Nat) : List ByteSequence :=
      (digitSequences 0x80 n i j).map ((base + digit, base + digit) :: ·)
    if p = q then behind p i j
    else
      let (first, lo) := if i = 0 then ([], p) else (behind p i (block - 1), p + 1)
      let (last, hi) := if j = block - 1 then ([], q + 1) else (behind q 0 j, q)
      let whole := (base + lo, base + hi - 1) :: List.replicate (n + 1) (0x80, 0xBF)
      first ++ (if lo < hi then [whole] else []) ++ last

/-- The ranges of code points that are encoded alike: the first and the last one, the base of the
first byte, and the number of bytes behind it. -/
def encodingForms : List (Nat × Nat × Nat × Nat) :=
  [(0, 0x7F, 0x00, 0), (0x80, 0x7FF, 0xC0, 1), (0x800, 0xD7FF, 0xE0, 2), (0xE000, 0xFFFF, 0xE0, 2),
   (0x10000, 0x10FFFF, 0xF0, 3)]

/-- The sequences for the characters with a code point from `a` to `b`. -/
def byteSequences (a b : Nat) : List ByteSequence :=
  encodingForms.flatMap fun (lo, hi, base, n) =>
    if max a lo ≤ min b hi then digitSequences base n (max a lo) (min b hi) else []

/-- The sequences for the characters of a set. -/
def CharSet.byteSequences (s : CharSet) : List ByteSequence :=
  s.ranges.flatMap fun r => ModalLexer.byteSequences r.1 r.2

/-- The bytes of a text. -/
def Text.bytes (t : Text) : List UInt8 := t.flatMap String.utf8EncodeChar

end ModalLexer
