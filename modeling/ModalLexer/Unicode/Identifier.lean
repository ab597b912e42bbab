import ModalLexer.Unicode.Alphabetic

/-!
# Identifiers

Which characters may begin or continue an identifier, and which are kept for the syntax of patterns.
-/

namespace ModalLexer.Unicode

/-- `Pattern_Syntax`. -/
def patternSyntax : CharSet := .ofRanges
  [(0x21, 0x2F), (0x3A, 0x40), (0x5B, 0x5E), (0x60, 0x60), (0x7B, 0x7E), (0xA1, 0xA7), (0xA9, 0xA9),
   (0xAB, 0xAC), (0xAE, 0xAE), (0xB0, 0xB1), (0xB6, 0xB6), (0xBB, 0xBB), (0xBF, 0xBF), (0xD7, 0xD7),
   (0xF7, 0xF7), (0x2010, 0x2027), (0x2030, 0x203E), (0x2041, 0x2053), (0x2055, 0x205E),
   (0x2190, 0x245F), (0x2500, 0x2775), (0x2794, 0x2BFF), (0x2E00, 0x2E7F), (0x3001, 0x3003),
   (0x3008, 0x3020), (0x3030, 0x3030), (0xFD3E, 0xFD3F), (0xFE45, 0xFE46)]

/-- `Pattern_White_Space`. -/
def patternWhiteSpace : CharSet := .ofRanges
  [(0x9, 0xD), (0x20, 0x20), (0x85, 0x85), (0x200E, 0x200F), (0x2028, 0x2029)]

/-- `Other_ID_Start`: what once could begin an identifier. -/
def otherIdStart : CharSet := .ofRanges
  [(0x1885, 0x1886), (0x2118, 0x2118), (0x212E, 0x212E), (0x309B, 0x309C)]

/-- `ID_Start`. -/
def idStart : CharSet :=
  (((letter.union letterNumber).union otherIdStart).diff patternSyntax).diff patternWhiteSpace

/-- `Other_ID_Continue`: what once could continue an identifier. -/
def otherIdContinue : CharSet := .ofRanges
  [(0xB7, 0xB7), (0x387, 0x387), (0x1369, 0x1371), (0x19DA, 0x19DA), (0x200C, 0x200D),
   (0x30FB, 0x30FB), (0xFF65, 0xFF65)]

/-- `ID_Continue`. -/
def idContinue : CharSet :=
  let more := [nonspacingMark, spacingMark, decimalNumber, connectorPunctuation, otherIdContinue]
  ((more.foldl .union idStart).diff patternSyntax).diff patternWhiteSpace

/-- What changes into something that could not continue an identifier when it is normalized. -/
def unstable : CharSet := .ofRanges
  [(0x37A, 0x37A), (0x309B, 0x309C), (0xFC5E, 0xFC63), (0xFDFA, 0xFDFB), (0xFE70, 0xFE70),
   (0xFE72, 0xFE72), (0xFE74, 0xFE74), (0xFE76, 0xFE76), (0xFE78, 0xFE78), (0xFE7A, 0xFE7A),
   (0xFE7C, 0xFE7C), (0xFE7E, 0xFE7E)]

/-- `XID_Continue`. -/
def xidContinue : CharSet := idContinue.diff unstable

/-- What changes into something that could not begin an identifier when it is normalized. -/
def unstableStart : CharSet := .ofRanges
  [(0x37A, 0x37A), (0xE33, 0xE33), (0xEB3, 0xEB3), (0x309B, 0x309C), (0xFC5E, 0xFC63),
   (0xFDFA, 0xFDFB), (0xFE70, 0xFE70), (0xFE72, 0xFE72), (0xFE74, 0xFE74), (0xFE76, 0xFE76),
   (0xFE78, 0xFE78), (0xFE7A, 0xFE7A), (0xFE7C, 0xFE7C), (0xFE7E, 0xFE7E), (0xFF9E, 0xFF9F)]

/-- `XID_Start`. -/
def xidStart : CharSet := idStart.diff unstableStart

end ModalLexer.Unicode
