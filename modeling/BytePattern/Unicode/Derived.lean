/-
Properties that follow from categories, lists and case folding by rules.
-/
import BytePattern.Unicode.Category
import BytePattern.Unicode.Folding
import BytePattern.Unicode.Listed

namespace BytePattern

/-- Alphabetic characters that are neither letters nor numbers of letters. -/
def otherAlphabetic : IntervalSet :=
  ofCategories ["Mna", "Mca", "Soa"]

/-- Alphabetic characters. -/
def alphabetic : IntervalSet :=
  ofCategories alphabeticCategories

/-- Decimal digits. -/
def decimalDigit : IntervalSet :=
  ofCategories ["Nd"]

/-- Word characters: alphabetic characters, marks, digits, connectors and joiners. -/
def wordCharacter : IntervalSet :=
  (ofCategories (alphabeticCategories ++ markCategories ++ ["Nd", "Pc"])).union joinControl

/-- Upper case letters and signs. -/
def upperCase : IntervalSet :=
  (ofCategories ["Lu"]).union otherUppercase

/-- Lower case letters and signs. -/
def lowerCase : IntervalSet :=
  (ofCategories ["Ll"]).union otherLowercase

/-- Letters of title case, with a capital first part. -/
def titleCase : IntervalSet :=
  ofCategories ["Lt"]

/-- Characters with a case. -/
def cased : IntervalSet :=
  .unions [lowerCase, upperCase, titleCase]

/-- Marks between the letters of a word. -/
def midLetter : IntervalSet :=
  .ofRow "3A B7 387 55F 5F4 2027 FE13 FE55 FF1A"

/-- Marks between letters or between digits. -/
def midNumLet : IntervalSet :=
  .ofRow "2E 2018-2019 2024 FE52 FF07 FF0E"

/-- Characters that do not count where it matters what cased character stands beside. -/
def caseIgnorable : IntervalSet :=
  .unions [ofCategories ["Mn", "Mna", "Me", "Cf", "Lm", "Sk"], midLetter, midNumLet, .ofRow "27"]

/-- Characters that share their folded form with others. -/
def caseVariant : IntervalSet :=
  unfolded.union folded

/-- Characters that case folding changes. -/
def changedByFolding : IntervalSet :=
  (unfolded.diff (.ofRow "1FBE 1FD3 1FE3")).union <| .ofRows [
    "DF 130 149 587 1E9A 1F80-1F87 1F90-1F97 1FA0-1FA7 1FB2-1FB4 1FB7 1FC2-1FC4 1FC7",
    "1FF2-1FF4 1FF7 FB00-FB04 FB06 FB13-FB17"]

/-- Characters that some change of case changes. -/
def changedByCase : IntervalSet :=
  caseVariant.union <| .ofRows [
    "130-131 149 1F0 587 1E96-1E9A 1F50 1F52 1F54 1F56 1FB2 1FB4 1FB6-1FB7 1FC2 1FC4",
    "1FC6-1FC7 1FD2 1FD6-1FD7 1FE2 1FE4 1FE6-1FE7 1FF2 1FF4 1FF6-1FF7 FB00-FB04 FB13-FB17"]

/-- Characters that lower case changes: those of upper or title case. -/
def changedByLowering : IntervalSet :=
  changedByCase.inter (upperCase.union titleCase)

/-- Characters that upper case changes: those that are not of upper case. -/
def changedByRaising : IntervalSet :=
  changedByCase.diff upperCase

/-- Characters that title case changes. -/
def changedByTitling : IntervalSet :=
  (changedByRaising.diff <| .ofRow
    "1C5 1C8 1CB 1F2 10D0-10FA 10FD-10FF 1F88-1F8F 1F98-1F9F 1FA8-1FAF 1FBC 1FCC 1FFC").union <|
    .ofRow "1C4 1C7 1CA 1F1"

/-- Characters that are mirrored in text from right to left: signs, and all brackets and quotation
marks but some that keep their shape. -/
def mirrored : IntervalSet :=
  ((ofCategories ["Ps", "Pe", "Pi", "Pf"]).diff <|
    .ofRow "2018-201F 2E42 301D-301F FD3E-FD3F FE17-FE18 FE35-FE44 FE47-FE48").union otherMirrored

/-- Mathematical characters. -/
def math : IntervalSet :=
  (ofCategories ["Sm"]).union otherMath

/-- Characters that are not shown by default. -/
def defaultIgnorable : IntervalSet :=
  ((ofCategories ["Cf"]).union variationSelector |>.diff <|
    .unions [whiteSpace, .ofRow "FFF9-FFFB 13430-1343F", prependedConcatenationMark]).union
    otherDefaultIgnorable

/-- Characters that join the character before them. -/
def graphemeExtender : IntervalSet :=
  (ofCategories ["Mn", "Mna", "Me"]).union otherGraphemeExtend

/-- Characters that others can join. -/
def graphemeBase : IntervalSet :=
  ((IntervalSet.range 0 lastScalar).diff <|
    ofCategories ["Cc", "Cf", "Cs", "Co", "Cn", "Zl", "Zp"]).diff graphemeExtender

/-- Characters that can start an identifier. -/
def idStart : IntervalSet :=
  ((ofCategories (letterCategories ++ ["Nl"])).union otherIdStart |>.diff patternSyntax).diff
    patternWhiteSpace

/-- Characters that can stand in an identifier. -/
def idContinue : IntervalSet :=
  ((IntervalSet.unions
    [idStart, ofCategories ["Mn", "Mna", "Mc", "Mca", "Nd", "Pc"], otherIdContinue]).diff
    patternSyntax).diff patternWhiteSpace

/-- Characters that can start an identifier in any form that counts as equal. -/
def xidStart : IntervalSet :=
  idStart.diff <| .ofRows [
    "37A E33 EB3 309B-309C FC5E-FC63 FDFA-FDFB FE70 FE72 FE74 FE76 FE78 FE7A FE7C FE7E",
    "FF9E-FF9F"]

/-- Characters that can stand in an identifier in any form that counts as equal. -/
def xidContinue : IntervalSet :=
  idContinue.diff <|
    .ofRow "37A 309B-309C FC5E-FC63 FDFA-FDFB FE70 FE72 FE74 FE76 FE78 FE7A FE7C FE7E"

end BytePattern
