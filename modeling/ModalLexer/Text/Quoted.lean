import ModalLexer.Unicode.Newer

/-!
# Quoted texts

A text is quoted between double quotes on one line: tab, carriage return, line feed, the null
character, the quote and the backslash have short escapes, and every other character that does
not show by itself is written `\u`, then its code point in hexadecimal between braces. All other
characters stand for themselves.
-/

namespace ModalLexer.Quoted

/-- The escape that names a code point: its hexadecimal digits between braces. -/
def codeEscape (c : Char) : Text :=
  ['\\', 'u', '\x7b'] ++ Nat.toDigits 16 c.toNat ++ ['\x7d']

/-- The written form of one character. -/
def encodeChar (c : Char) : Text :=
  if c = '\t' then ['\\', 't']
  else if c = '\r' then ['\\', 'r']
  else if c = '\n' then ['\\', 'n']
  else if c = '\x00' then ['\\', '0']
  else if c = '"' then ['\\', '"']
  else if c = '\\' then ['\\', '\\']
  else if Unicode.unprintable.contains c then codeEscape c
  else [c]

/-- The written form of a text, without its quotes. -/
def encode (t : Text) : Text := t.flatMap encodeChar

/-- The written form of a text, between double quotes. -/
def quote (t : Text) : String := "\"" ++ String.ofList (encode t) ++ "\""

/-- Texts one behind the other are encoded one behind the other. -/
theorem encode_append (s t : Text) : encode (s ++ t) = encode s ++ encode t :=
  List.flatMap_append

end ModalLexer.Quoted
