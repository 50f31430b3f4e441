/-
Characters that are newer than the properties a pattern can name.  They count in the names of groups
and in quoted texts.
-/
import BytePattern.Unicode.Derived

namespace BytePattern

/-- Alphabetic characters that are newer. -/
def newerAlphabetic : IntervalSet :=
  .ofRows [
    "88F C5C CDC A7CE-A7CF A7D2 A7D4 A7F1 10940-10959 10EC5-10EC7 10EFA-10EFB 11B60-11B67",
    "11DB0-11DDB 16EA0-16EB8 16EBB-16ED3 16FF2-16FF6 187F8-187FF 18D09-18D1E 18D80-18DF2",
    "1E6C0-1E6DE 1E6E0-1E6F5 1E6FE-1E6FF 2B73A-2B73F 2CEA2-2CEAD 323B0-33479"]

/-- Decimal digits that are newer. -/
def newerDigit : IntervalSet :=
  .ofRow "11DE0-11DE9"

/-- Marks that are newer and join the character before them. -/
def newerExtender : IntervalSet :=
  .ofRow "1ACF-1ADD 1AE0-1AEB 10EFA-10EFB 11B60 11B62-11B64 11B66 1E6E3 1E6E6 1E6EE-1E6EF 1E6F5"

/-- Symbols and punctuation that are newer. -/
def newerSign : IntervalSet :=
  .ofRows [
    "20C1 2B96 FBC3-FBD2 FD90-FD91 FDC8-FDCE 10ED0-10ED8 1CCFA-1CCFC 1CEBA-1CED0 1CEE0-1CEF0",
    "1F6D8 1F777-1F77A 1F8D0-1F8D8 1FA54-1FA57 1FA8A 1FA8E 1FAC8 1FACD 1FAEA 1FAEF 1FBFA"]

/-- Characters that the name of a group can begin with, besides an underscore. -/
def nameStart : IntervalSet :=
  alphabetic.union newerAlphabetic

/-- Characters that can follow in the name of a group, besides punctuation. -/
def namePart : IntervalSet :=
  .unions [nameStart, ofCategories numberCategories, newerDigit]

/-- Characters that are shown in their own right, which separators, control characters and what
joins another character are not. -/
def graphic : IntervalSet :=
  (IntervalSet.unions
    [ofCategories (letterCategories ++ markCategories ++ numberCategories ++ punctuationCategories
      ++ symbolCategories), .ofRow "20", newerAlphabetic, newerDigit, newerSign]).diff
    (graphemeExtender.union newerExtender)

end BytePattern
