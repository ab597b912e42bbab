import Mathlib.Tactic.SplitIfs
import ModalLexer.Text.Quoted

/-!
# Quoted texts can be read back

`Quoted.unquote` reads a quoted text: it takes the quotes off and undoes the escapes. It gives back
every text that was quoted (`unquote_quote`), so the quoted form of a text tells the text.

The reader goes through the escapes one character at a time, and `Progress` says how far it has come
in one. A code point is read digit by digit, and the digits that `Nat.toDigits` writes stand for the
number that it wrote (`decodeFrom_toDigits`).
-/

namespace ModalLexer.Quoted

/-! ## The reader -/

/-- The number that a hexadecimal digit stands for. -/
def hexValue? (c : Char) : Option Nat :=
  if c.isDigit then some (c.toNat - '0'.toNat)
  else if 'a' ≤ c ∧ c ≤ 'f' then some (c.toNat - 'a'.toNat + 10)
  else none

/-- The character that a short escape stands for, by the character behind its backslash. -/
def shortEscape? (c : Char) : Option Char :=
  if c = 't' then some '\t'
  else if c = 'r' then some '\r'
  else if c = 'n' then some '\n'
  else if c = '0' then some '\x00'
  else if c = '"' then some '"'
  else if c = '\\' then some '\\'
  else none

/-- How far the reader has come in an escape. -/
inductive Progress where
  /-- Not in an escape. -/
  | outside
  /-- Behind the backslash. -/
  | slash
  /-- In front of the brace that opens a code point. -/
  | brace
  /-- Among the digits of a code point, which stand for the number `n` so far. -/
  | digits (n : Nat)

/-- Reads the rest of a quoted text, without its quotes. -/
def decodeFrom : Progress → Text → Option Text
  | .outside, [] => some []
  | _, [] => none
  | .outside, c :: t =>
    if c = '\\' then decodeFrom .slash t
    else if c = '"' then none
    else (decodeFrom .outside t).map (c :: ·)
  | .slash, c :: t =>
    if c = 'u' then decodeFrom .brace t
    else (shortEscape? c).bind fun d => (decodeFrom .outside t).map (d :: ·)
  | .brace, c :: t => if c = '\x7b' then decodeFrom (.digits 0) t else none
  | .digits n, c :: t =>
    if c = '\x7d' then
      if n.isValidChar then (decodeFrom .outside t).map (Char.ofNat n :: ·) else none
    else (hexValue? c).bind fun d => decodeFrom (.digits (16 * n + d)) t

/-- Reads a quoted text without its quotes. -/
def decode (t : Text) : Option Text := decodeFrom .outside t

/-- Reads a quoted text. -/
def unquote (s : String) : Option Text :=
  match s.toList with
  | '"' :: t => if t.getLast? = some '"' then decode t.dropLast else none
  | _ => none

/-! ## Escapes are undone -/

/-- The digits that are written are read as what they stand for. -/
theorem hexValue?_digitChar {n : Nat} (h : n < 16) : hexValue? n.digitChar = some n := by
  decide +revert

/-- No digit closes the braces. -/
theorem digitChar_ne_brace {n : Nat} (h : n < 16) : n.digitChar ≠ '\x7d' := by
  decide +revert

/-- The hexadecimal digits of a number are read as this number. -/
theorem decodeFrom_toDigits (n : Nat) (t : Text) :
    decodeFrom (.digits 0) (Nat.toDigits 16 n ++ t) = decodeFrom (.digits n) t := by
  have hdigit (k d : Nat) (hd : d < 16) (t : Text) :
      decodeFrom (.digits k) (d.digitChar :: t) = decodeFrom (.digits (16 * k + d)) t := by
    rw [decodeFrom, if_neg (digitChar_ne_brace hd), hexValue?_digitChar hd, Option.bind_some]
  induction n using Nat.strongRecOn generalizing t with
  | ind n ih =>
    by_cases hn : n < 16
    · rw [Nat.toDigits_of_lt_base hn, List.singleton_append, hdigit 0 n hn, Nat.mul_zero,
        Nat.zero_add]
    · -- The last digit is the remainder, and the digits before it those of the quotient.
      have hlast : n % 16 < 16 := Nat.mod_lt n (by decide)
      rw [Nat.toDigits_of_base_le (by decide) (Nat.le_of_not_lt hn), List.append_assoc,
        ih (n / 16) (by omega), List.singleton_append, hdigit _ _ hlast, Nat.div_add_mod]

/-- The escape of a code point is read as its character. -/
theorem decodeFrom_codeEscape (c : Char) (t : Text) :
    decodeFrom .outside (codeEscape c ++ t) = (decodeFrom .outside t).map (c :: ·) := by
  have hvalid : c.toNat.isValidChar := c.valid
  have htext : codeEscape c ++ t =
      '\\' :: 'u' :: '\x7b' :: (Nat.toDigits 16 c.toNat ++ '\x7d' :: t) := by
    simp [codeEscape]
  have hclose : decodeFrom (.digits c.toNat) ('\x7d' :: t) =
      (decodeFrom .outside t).map (c :: ·) := by
    rw [decodeFrom, if_pos rfl, if_pos hvalid, Char.ofNat_toNat]
  rw [htext, ← hclose, ← decodeFrom_toDigits]
  rfl

/-- The written form of a character is read as this character. -/
theorem decodeFrom_encodeChar (c : Char) (t : Text) :
    decodeFrom .outside (encodeChar c ++ t) = (decodeFrom .outside t).map (c :: ·) := by
  unfold encodeChar
  split_ifs with htab hreturn hfeed hnull hquote hslash hcode
  · subst htab; rfl
  · subst hreturn; rfl
  · subst hfeed; rfl
  · subst hnull; rfl
  · subst hquote; rfl
  · subst hslash; rfl
  · exact decodeFrom_codeEscape c t
  · rw [List.singleton_append, decodeFrom, if_neg hslash, if_neg hquote]

/-- The written form of a text is read as this text. -/
theorem decode_encode (t : Text) : decode (encode t) = some t := by
  induction t with
  | nil => rfl
  | cons c t ih =>
    have hcons : encode (c :: t) = encodeChar c ++ encode t := List.flatMap_cons
    rw [decode] at ih ⊢
    rw [hcons, decodeFrom_encodeChar, ih, Option.map_some]

/-- A quoted text is read as this text. -/
theorem unquote_quote (t : Text) : unquote (quote t) = some t := by
  have hquote : (quote t).toList = '"' :: (encode t ++ ['"']) := by simp [quote]
  simp only [unquote, hquote, List.getLast?_concat, if_true, List.dropLast_concat]
  exact decode_encode t

end ModalLexer.Quoted
