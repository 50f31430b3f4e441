/-
Classes of characters for breaking text into sentences.
-/
import BytePattern.Unicode.WordBreak

namespace BytePattern

namespace SentenceBreak

/-- Marks and joiners that join the character before. -/
def extend : IntervalSet :=
  .unions [graphemeExtender, ofCategories ["Mc", "Mca"], .ofRow "200D"]

/-- Format characters that are not seen as part of a sentence. -/
def format : IntervalSet :=
  (ofCategories ["Cf"]).diff <|
    .unions [prependedConcatenationMark.diff (.ofRow "70F"), .ofRow "200D", graphemeExtender]

/-- Letters of lower case that follow an upper case where there is one. -/
def lower : IntervalSet :=
  (lowerCase.diff extend).diff <| .ofRow "10D0-10FA 10FD-10FF"

/-- Letters of upper or title case that begin a sentence. -/
def upper : IntervalSet :=
  (upperCase.union titleCase).diff <| .ofRow "1C90-1CBA 1CBD-1CBF"

/-- Letters of scripts without case. -/
def otherLetter : IntervalSet :=
  (alphabetic.insert 0x5F3 0x5F3).diff <| .unions [lower, upper, extend]

/-- Full stops, which do not always end a sentence. -/
def stop : IntervalSet :=
  .ofRow "2E 2024 FE52 FF0E"

/-- Quotation marks and brackets. -/
def close : IntervalSet :=
  (ofCategories ["Ps", "Pe", "Pi", "Pf"]).union <|
    .ofRow "22 27 275B-2760 2E00-2E01 2E06-2E08 2E0B 1F676-1F678"

/-- Punctuation inside a sentence. -/
def inner : IntervalSet :=
  .ofRows [
    "2C-2D 3A-3B 37E 55D 60C-60D 7F8 1802 1808 2013-2014 3001 FE10-FE11 FE13-FE14 FE31-FE32",
    "FE50-FE51 FE54-FE55 FE58 FE63 FF0C-FF0D FF1A-FF1B FF64"]

/-- The classes by their names without case or separators. -/
def classes : List (List String × IntervalSet) :=
  [(["at", "aterm"], stop),
   (["cl", "close"], close),
   (["cr"], .ofRow "D"),
   (["ex", "extend"], extend),
   (["fo", "format"], format),
   (["le", "oletter"], otherLetter),
   (["lf"], .ofRow "A"),
   (["lo", "lower"], lower),
   (["nu", "numeric"], WordBreak.number.insert 0x66C 0x66C),
   (["sc", "scontinue"], inner),
   (["se", "sep"], .ofRow "85 2028-2029"),
   (["sp"], whiteSpace.diff <| .ofRow "A D 85 2028-2029"),
   (["st", "sterm"], sentenceTerminal.diff stop),
   (["up", "upper"], upper)]

end SentenceBreak

end BytePattern
