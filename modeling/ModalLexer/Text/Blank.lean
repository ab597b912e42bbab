import ModalLexer.Text.CharSet

/-!
# White space

The property `White_Space` of the Unicode Character Database: the blanks of ASCII, the next-line
control, and the spaces and separators of Unicode. A zero-width space is not one of them.
-/

namespace ModalLexer.CharSet

/-- The characters with the property `White_Space`. -/
def whiteSpace : CharSet := ⟨
  [(0x9, 0xD), (0x20, 0x20), (0x85, 0x85), (0xA0, 0xA0), (0x1680, 0x1680), (0x2000, 0x200A),
   (0x2028, 0x2029), (0x202F, 0x202F), (0x205F, 0x205F), (0x3000, 0x3000)],
  by decide⟩

end ModalLexer.CharSet
