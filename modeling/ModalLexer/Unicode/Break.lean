import ModalLexer.Unicode.Property
import ModalLexer.Unicode.Script

/-!
# Breaks between graphemes, words and sentences

For each of the three kinds of break, a character has one value, which says how it behaves there.
`graphemeBreaks`, `wordBreaks` and `sentenceBreaks` list the values under their names, but for the
value of all other characters.
-/

namespace ModalLexer.Unicode

/-! ## Graphemes -/

/-- What extends a grapheme, the colours of skin among it. -/
def extending : CharSet := graphemeExtend.union emojiModifier

/-- What cannot be part of a grapheme: controls, formats and separators, but for the two joiners and
for what stands in front of numbers. -/
def graphemeControl : CharSet :=
  let controls := [lineSeparator, paragraphSeparator, control, unassigned.inter defaultIgnorable]
  let kept := [prependedConcatenationMark, graphemeExtend]
  (controls.foldl .union format).diff
    (kept.foldl .union (.ofRanges [(0x0A, 0x0A), (0x0D, 0x0D), (0x200C, 0x200D)]))

/-- What belongs to the grapheme behind it. -/
def prepending : CharSet := prependedConcatenationMark.insertAll
  [(0xD4E, 0xD4E), (0x111C2, 0x111C3), (0x113D1, 0x113D1), (0x1193F, 0x1193F), (0x11941, 0x11941),
   (0x11A3A, 0x11A3A), (0x11A84, 0x11A89), (0x11D46, 0x11D46), (0x11F02, 0x11F02)]

/-- Spacing marks that make a grapheme of their own. -/
def unspaced : CharSet := .ofRanges
  [(0x102B, 0x102C), (0x1038, 0x1038), (0x1062, 0x1064), (0x1067, 0x106D), (0x1083, 0x1083),
   (0x1087, 0x108C), (0x108F, 0x108F), (0x109A, 0x109C), (0x1A61, 0x1A61), (0x1A63, 0x1A64),
   (0xAA7B, 0xAA7B), (0xAA7D, 0xAA7D), (0x11720, 0x11721)]

/-- What belongs to the grapheme before it and takes room of its own. -/
def spacing : CharSet :=
  (spacingMark.union (.ofRanges [(0xE33, 0xE33), (0xEB3, 0xEB3)])).diff (extending.union unspaced)

/-- Consonants that begin a Korean syllable. -/
def leadingJamo : CharSet := .ofRanges [(0x1100, 0x115F), (0xA960, 0xA97C)]

/-- Vowels of a Korean syllable, and those of Kirat Rai. -/
def vowelJamo : CharSet := .ofRanges
  [(0x1160, 0x11A7), (0xD7B0, 0xD7C6), (0x16D63, 0x16D63), (0x16D67, 0x16D6A)]

/-- Consonants that end a Korean syllable. -/
def trailingJamo : CharSet := .ofRanges [(0x11A8, 0x11FF), (0xD7CB, 0xD7FB)]

/-- Korean syllables without a consonant at the end, which are every 28th. -/
def openSyllable : CharSet :=
  .ofRanges ((List.range 399).map fun i => (0xAC00 + 28 * i, 0xAC00 + 28 * i))

/-- Korean syllables with a consonant at the end. -/
def closedSyllable : CharSet := (CharSet.range 0xAC00 0xD7A3).diff openSyllable

/-- The values of `Grapheme_Cluster_Break`. -/
def graphemeBreaks : List (List String × CharSet) :=
  [(["cr"], .singleton '\r'),
   (["lf"], .singleton '\n'),
   (["control", "cn"], graphemeControl),
   (["extend", "ex"], extending),
   (["zwj"], .range 0x200D 0x200D),
   (["regionalindicator", "ri"], regionalIndicator),
   (["prepend", "pp"], prepending),
   (["spacingmark", "sm"], spacing),
   (["l"], leadingJamo),
   (["v"], vowelJamo),
   (["t"], trailingJamo),
   (["lv"], openSyllable),
   (["lvt"], closedSyllable)]

/-! ## Words -/

/-- The characters of a script, under one of its names. -/
def ofScript (name : String) : CharSet := (script? name).getD .empty

/-- Marks, and what else extends a grapheme; neither begins a word nor a sentence. -/
def attached : CharSet := graphemeExtend.union spacingMark

/-- What is not seen and neither breaks words nor sentences. -/
def transparent : CharSet :=
  (format.diff (.range 0x200C 0x200D)).diff (attached.union prepending)

/-- Signs that stand in front of a number. -/
def numberSign : CharSet := .ofRanges
  [(0x600, 0x605), (0x6DD, 0x6DD), (0x890, 0x891), (0x8E2, 0x8E2), (0x110BD, 0x110BD),
   (0x110CD, 0x110CD)]

/-- What stands in numbers as digits do: digits, the Tham digit one of New Tai Lue, and the signs in
front of a number. -/
def digitLike : CharSet := (decimalNumber.union numberSign).union (.range 0x19DA 0x19DA)

/-- Letters of Katakana, and the signs that belong to it. -/
def katakanaLetter : CharSet := (ofScript "katakana").insertAll
  [(0x3031, 0x3035), (0x309B, 0x309C), (0x30A0, 0x30A0), (0x30FC, 0x30FC), (0xFF70, 0xFF70)]

/-- Letters of Hebrew. -/
def hebrewLetter : CharSet := (ofScript "hebrew").inter otherLetter

/-- What is not alphabetic and stands in words as letters do. -/
def letterLike : CharSet := .ofRanges
  [(0x2C2, 0x2C5), (0x2D2, 0x2D7), (0x2DE, 0x2DF), (0x2E5, 0x2EB), (0x2ED, 0x2ED), (0x2EF, 0x2FF),
   (0x55A, 0x55C), (0x55E, 0x55E), (0x58A, 0x58A), (0x5F3, 0x5F3), (0x70F, 0x70F), (0xA708, 0xA716),
   (0xA720, 0xA721), (0xA789, 0xA78A), (0xAB5B, 0xAB5B)]

/-- Characters of scripts that leave no room between words. -/
def unspacedScript : CharSet := .ofRanges
  [(0xE01, 0xE3A), (0xE40, 0xE4E), (0xE81, 0xE82), (0xE84, 0xE84), (0xE86, 0xE8A), (0xE8C, 0xEA3),
   (0xEA5, 0xEA5), (0xEA7, 0xEBD), (0xEC0, 0xEC4), (0xEC6, 0xEC6), (0xEC8, 0xECE), (0xEDC, 0xEDF),
   (0x1000, 0x103F), (0x1050, 0x108F), (0x109A, 0x109F), (0x1780, 0x17D3), (0x17D7, 0x17D7),
   (0x17DC, 0x17DD), (0x1950, 0x196D), (0x1970, 0x1974), (0x1980, 0x19AB), (0x19B0, 0x19C9),
   (0x19DA, 0x19DA), (0x19DE, 0x19DF), (0x1A20, 0x1A5E), (0x1A60, 0x1A7C), (0x1AA0, 0x1AAD),
   (0xA9E0, 0xA9EF), (0xA9FA, 0xA9FE), (0xAA60, 0xAAC2), (0xAADB, 0xAADF), (0x11700, 0x1171A),
   (0x1171D, 0x1172B), (0x1173A, 0x1173B), (0x1173F, 0x11746)]

/-- Letters of scripts that leave room between words. -/
def wordLetter : CharSet :=
  let kept := [ideographic, katakanaLetter, hebrewLetter, ofScript "hiragana", attached]
  (alphabetic.union letterLike).diff (kept.foldl .union unspacedScript)

/-- What may stand between two digits of a number. -/
def midNum : CharSet := .ofRanges
  [(0x2C, 0x2C), (0x3B, 0x3B), (0x37E, 0x37E), (0x589, 0x589), (0x60C, 0x60D), (0x66C, 0x66C),
   (0x7F8, 0x7F8), (0x2044, 0x2044), (0xFE50, 0xFE50), (0xFE54, 0xFE54), (0xFF0C, 0xFF0C),
   (0xFF1B, 0xFF1B)]

/-- The values of `Word_Break`. -/
def wordBreaks : List (List String × CharSet) :=
  [(["cr"], .singleton '\r'),
   (["lf"], .singleton '\n'),
   (["newline", "nl"], .ofRanges [(0x0B, 0x0C), (0x85, 0x85), (0x2028, 0x2029)]),
   (["extend"], (attached.union emojiModifier).diff (.range 0x200D 0x200D)),
   (["zwj"], .range 0x200D 0x200D),
   (["format", "fo"], transparent.diff (.range 0x200B 0x200B)),
   (["regionalindicator", "ri"], regionalIndicator),
   (["katakana", "ka"], katakanaLetter),
   (["hebrewletter", "hl"], hebrewLetter),
   (["aletter", "le"], wordLetter),
   (["singlequote", "sq"], .range 0x27 0x27),
   (["doublequote", "dq"], .range 0x22 0x22),
   (["midnumlet", "mb"], midNumLet),
   (["midletter", "ml"], midLetter),
   (["midnum", "mn"], midNum),
   (["numeric", "nu"], digitLike.union (.range 0x66B 0x66B)),
   (["extendnumlet", "ex"], connectorPunctuation.union (.range 0x202F 0x202F)),
   (["wsegspace"],
     spaceSeparator.diff (.ofRanges [(0xA0, 0xA0), (0x2007, 0x2007), (0x202F, 0x202F)]))]

/-! ## Sentences -/

/-- What separates paragraphs, apart from a carriage return and a line feed. -/
def paragraphBreak : CharSet := .ofRanges [(0x85, 0x85), (0x2028, 0x2029)]

/-- What is in lower case and begins no sentence. -/
def sentenceLower : CharSet := lowercase.diff (graphemeExtend.union mkhedruli)

/-- What is in upper case, Georgian letters apart, which are capitals of titles only. -/
def sentenceUpper : CharSet :=
  (uppercase.diff (.ofRanges [(0x1C90, 0x1CBA), (0x1CBD, 0x1CBF)])).union titleLetter

/-- What is alphabetic and has no case. -/
def sentenceLetter : CharSet :=
  (alphabetic.union (.range 0x5F3 0x5F3)).diff
    ((sentenceLower.union sentenceUpper).union attached)

/-- Full stops, which may also belong to an abbreviation or a number. -/
def fullStop : CharSet := .ofRanges
  [(0x2E, 0x2E), (0x2024, 0x2024), (0xFE52, 0xFE52), (0xFF0E, 0xFF0E)]

/-- Commas, colons and dashes, behind which a sentence goes on. -/
def sentenceContinue : CharSet := .ofRanges
  [(0x2C, 0x2D), (0x3A, 0x3B), (0x37E, 0x37E), (0x55D, 0x55D), (0x60C, 0x60D), (0x7F8, 0x7F8),
   (0x1802, 0x1802), (0x1808, 0x1808), (0x2013, 0x2014), (0x3001, 0x3001), (0xFE10, 0xFE11),
   (0xFE13, 0xFE14), (0xFE31, 0xFE32), (0xFE50, 0xFE51), (0xFE54, 0xFE55), (0xFE58, 0xFE58),
   (0xFE63, 0xFE63), (0xFF0C, 0xFF0D), (0xFF1A, 0xFF1B), (0xFF64, 0xFF64)]

/-- What ends a sentence whatever follows. -/
def sentenceEnd : CharSet := sentenceTerminal.diff fullStop

/-- Brackets and quotation marks. -/
def enclosing : CharSet :=
  let brackets := [openPunctuation, closePunctuation, initialPunctuation, finalPunctuation]
  let quotes : CharSet := .ofRanges
    [(0x22, 0x22), (0x27, 0x27), (0x275B, 0x2760), (0x2E00, 0x2E01), (0x2E06, 0x2E08),
     (0x2E0B, 0x2E0B), (0x1F676, 0x1F678)]
  (brackets.foldl .union quotes).diff (fullStop.union sentenceEnd)

/-- The values of `Sentence_Break`. The abbreviation mark of Syriac is a letter of words, but not of
sentences. -/
def sentenceBreaks : List (List String × CharSet) :=
  [(["cr"], .singleton '\r'),
   (["lf"], .singleton '\n'),
   (["sep", "se"], paragraphBreak),
   (["extend", "ex"], attached.union (.range 0x200D 0x200D)),
   (["format", "fo"], transparent.union (.range 0x70F 0x70F)),
   (["sp"], CharSet.whiteSpace.diff (paragraphBreak.insertAll [(0x0A, 0x0A), (0x0D, 0x0D)])),
   (["lower", "lo"], sentenceLower),
   (["upper", "up"], sentenceUpper),
   (["oletter", "le"], sentenceLetter),
   (["numeric", "nu"], digitLike.union (.range 0x66B 0x66C)),
   (["aterm", "at"], fullStop),
   (["scontinue", "sc"], sentenceContinue),
   (["sterm", "st"], sentenceEnd),
   (["close", "cl"], enclosing)]

end ModalLexer.Unicode
