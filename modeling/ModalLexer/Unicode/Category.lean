import ModalLexer.Unicode.Letter
import ModalLexer.Unicode.Mark
import ModalLexer.Unicode.Number
import ModalLexer.Unicode.Punctuation
import ModalLexer.Unicode.Symbol

/-!
# General categories

Every code point has one general category. What no table names is unassigned, so that category is a
complement. `categories` lists the categories, and the groups of them, under their names.
-/

namespace ModalLexer.Unicode

/-- `Zs`: spaces. -/
def spaceSeparator : CharSet := .ofRanges
  [(0x20, 0x20), (0xA0, 0xA0), (0x1680, 0x1680), (0x2000, 0x200A), (0x202F, 0x202F),
   (0x205F, 0x205F), (0x3000, 0x3000)]

/-- `Zl`: the separator of lines. -/
def lineSeparator : CharSet := .range 0x2028 0x2028

/-- `Zp`: the separator of paragraphs. -/
def paragraphSeparator : CharSet := .range 0x2029 0x2029

/-- `Z`: all separators. -/
def separator : CharSet := (spaceSeparator.union lineSeparator).union paragraphSeparator

/-- `Cc`: control characters. -/
def control : CharSet := .ofRanges [(0x0, 0x1F), (0x7F, 0x9F)]

/-- `Cf`: characters that are not seen but change what is. -/
def format : CharSet := .ofRanges
  [(0xAD, 0xAD), (0x600, 0x605), (0x61C, 0x61C), (0x6DD, 0x6DD), (0x70F, 0x70F), (0x890, 0x891),
   (0x8E2, 0x8E2), (0x180E, 0x180E), (0x200B, 0x200F), (0x202A, 0x202E), (0x2060, 0x2064),
   (0x2066, 0x206F), (0xFEFF, 0xFEFF), (0xFFF9, 0xFFFB), (0x110BD, 0x110BD), (0x110CD, 0x110CD),
   (0x13430, 0x1343F), (0x1BCA0, 0x1BCA3), (0x1D173, 0x1D17A), (0xE0001, 0xE0001),
   (0xE0020, 0xE007F)]

/-- `Cs`: the code points that are no characters. -/
def surrogate : CharSet := .range 0xD800 0xDFFF

/-- `Co`: characters without a meaning of their own. -/
def privateUse : CharSet := .ofRanges [(0xE000, 0xF8FF), (0xF0000, 0xFFFFD), (0x100000, 0x10FFFD)]

/-- The code points that are listed above and in the tables of categories. -/
def listed : CharSet :=
  [mark, number, punctuation, symbol, separator, control, format, surrogate, privateUse].foldl
    .union letter

/-- `Cn`: the code points that are not yet in use. -/
def unassigned : CharSet := listed.compl

/-- `C`: code points that are none of letter, mark, number, punctuation, symbol and separator. -/
def other : CharSet :=
  [control, format, surrogate, privateUse].foldl .union unassigned

/-- The categories and the groups of them, each under its names. There is none for surrogates, which
are no characters. -/
def categories : List (List String × CharSet) :=
  [(["l", "letter"], letter),
   (["lc", "casedletter"], casedLetter),
   (["lu", "uppercaseletter"], upperLetter),
   (["ll", "lowercaseletter"], lowerLetter),
   (["lt", "titlecaseletter"], titleLetter),
   (["lm", "modifierletter"], modifierLetter),
   (["lo", "otherletter"], otherLetter),
   (["m", "mark", "combiningmark"], mark),
   (["mn", "nonspacingmark"], nonspacingMark),
   (["mc", "spacingmark"], spacingMark),
   (["me", "enclosingmark"], enclosingMark),
   (["n", "number"], number),
   (["nd", "decimalnumber", "digit"], decimalNumber),
   (["nl", "letternumber"], letterNumber),
   (["no", "othernumber"], otherNumber),
   (["p", "punctuation", "punct"], punctuation),
   (["pc", "connectorpunctuation"], connectorPunctuation),
   (["pd", "dashpunctuation"], dashPunctuation),
   (["ps", "openpunctuation"], openPunctuation),
   (["pe", "closepunctuation"], closePunctuation),
   (["pi", "initialpunctuation"], initialPunctuation),
   (["pf", "finalpunctuation"], finalPunctuation),
   (["po", "otherpunctuation"], otherPunctuation),
   (["s", "symbol"], symbol),
   (["sm", "mathsymbol"], mathSymbol),
   (["sc", "currencysymbol"], currencySymbol),
   (["sk", "modifiersymbol"], modifierSymbol),
   (["so", "othersymbol"], otherSymbol),
   (["z", "separator"], separator),
   (["zs", "spaceseparator"], spaceSeparator),
   (["zl", "lineseparator"], lineSeparator),
   (["zp", "paragraphseparator"], paragraphSeparator),
   (["c", "other"], other),
   (["cc", "control", "cntrl"], control),
   (["cf", "format"], format),
   (["cn", "unassigned"], unassigned),
   (["co", "privateuse"], privateUse),
   (["any"], CharSet.empty.compl),
   (["ascii"], .range 0x00 0x7F),
   (["assigned"], unassigned.compl)]

end ModalLexer.Unicode
