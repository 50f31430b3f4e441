/-
Classes of characters for breaking text into words.
-/
import BytePattern.Unicode.Derived
import BytePattern.Unicode.Script

namespace BytePattern

namespace WordBreak

/-- Marks that join the character before. -/
def extend : IntervalSet :=
  .unions [graphemeExtender, ofCategories ["Mc", "Mca"], emojiModifier]

/-- Format characters that are not seen as part of a word. -/
def format : IntervalSet :=
  ((ofCategories ["Cf"]).diff <| .ofRow "200B-200D").diff
    (prependedConcatenationMark.union graphemeExtender)

/-- Katakana with the signs used among them. -/
def katakana : IntervalSet :=
  (ofScript "Kana").union <| .ofRow "3031-3035 309B-309C 30A0 30FC FF70"

/-- Letters of Hebrew. -/
def hebrewLetter : IntervalSet :=
  (ofScript "Hebr").inter (ofCategories ["Lo"])

/-- Characters of scripts that are written without spaces between words. -/
def complexContext : IntervalSet :=
  .ofRows [
    "E01-E3A E40-E4E E81-E82 E84 E86-E8A E8C-EA3 EA5 EA7-EBD EC0-EC4 EC6 EC8-ECE EDC-EDF",
    "1000-103F 1050-108F 109A-109F 1780-17D3 17D7 17DC-17DD 1950-196D 1970-1974 1980-19AB",
    "19B0-19C9 19DE-19DF 1A20-1A5E 1A60-1A7C 1AA0-1AAD A9E0-A9EF A9FA-A9FE AA60-AAC2",
    "AADB-AADF 11700-1171A 1171D-1172B 1173A-1173B 1173F-11746"]

/-- Letters of scripts that are written with spaces between words, and signs that count as such. -/
def letter : IntervalSet :=
  (alphabetic.union <| .ofRows [
    "B8 2C2-2C5 2D2-2D7 2DE-2DF 2E5-2EB 2ED 2EF-2FF 55A-55C 55E 58A 5F3 70F A708-A716",
    "A720-A721 A789-A78A AB5B"]).diff <|
    .unions [ideographic, katakana, ofScript "Hira", complexContext, extend, hebrewLetter]

/-- Marks between digits. -/
def midNumber : IntervalSet :=
  .ofRow "2C 3B 37E 589 60C-60D 66C 7F8 2044 FE50 FE54 FF0C FF1B"

/-- Digits and what belongs to numbers. -/
def number : IntervalSet :=
  .unions [decimalDigit, prependedConcatenationMark.diff (.ofRow "70F"), .ofRow "66B 19DA"]

/-- The classes by their names without case or separators. -/
def classes : List (List String × IntervalSet) :=
  [(["cr"], .ofRow "D"),
   (["dq", "doublequote"], .ofRow "22"),
   (["ex", "extendnumlet"], (ofCategories ["Pc"]).union <| .ofRow "202F"),
   (["extend"], extend),
   (["fo", "format"], format),
   (["hl", "hebrewletter"], hebrewLetter),
   (["ka", "katakana"], katakana),
   (["le", "aletter"], letter),
   (["lf"], .ofRow "A"),
   (["mb", "midnumlet"], midNumLet),
   (["ml", "midletter"], midLetter),
   (["mn", "midnum"], midNumber),
   (["nl", "newline"], .ofRow "B-C 85 2028-2029"),
   (["nu", "numeric"], number),
   (["ri", "regionalindicator"], regionalIndicator),
   (["sq", "singlequote"], .ofRow "27"),
   (["wsegspace"], .ofRow "20 1680 2000-2006 2008-200A 205F 3000"),
   (["zwj"], .ofRow "200D")]

end WordBreak

end BytePattern
