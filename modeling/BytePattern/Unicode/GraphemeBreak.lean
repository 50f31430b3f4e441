/-
Classes of characters for breaking text into what readers see as one character.
-/
import BytePattern.Unicode.Derived

namespace BytePattern

namespace GraphemeBreak

/-- Marks and modifiers that join the character before. -/
def extend : IntervalSet :=
  graphemeExtender.union emojiModifier

/-- Signs that join the character after. -/
def prepend : IntervalSet :=
  prependedConcatenationMark.union <|
    .ofRow "D4E 111C2-111C3 113D1 1193F 11941 11A84-11A89 11D46 11F02"

/-- Control characters, with code points that are kept for such as are not shown. -/
def control : IntervalSet :=
  ((IntervalSet.unions
    [ofCategories ["Zl", "Zp", "Cc", "Cf"], (ofCategories ["Cn"]).inter defaultIgnorable]).diff
    (.ofRow "A D 200C-200D")).diff (prependedConcatenationMark.union graphemeExtender)

/-- Marks beside the character before. -/
def spacingMark : IntervalSet :=
  (((ofCategories ["Mc", "Mca"]).diff extend).union <| .ofRow "E33 EB3").diff <| .ofRows [
    "102B-102C 1038 1062-1064 1067-106D 1083 1087-108C 108F 109A-109C 1A61 1A63-1A64 AA7B AA7D",
    "11720-11721"]

/-- Syllables that end in their vowel. -/
def openSyllable : IntervalSet :=
  .ofList ((List.range 399).map fun i => (0xAC00 + 28 * i, 0xAC00 + 28 * i))

/-- The classes by their names without case or separators. -/
def classes : List (List String × IntervalSet) :=
  [(["cn", "control"], control),
   (["cr"], .ofRow "D"),
   (["ex", "extend"], extend),
   (["l"], .ofRow "1100-115F A960-A97C"),
   (["lf"], .ofRow "A"),
   (["lv"], openSyllable),
   (["lvt"], (IntervalSet.range 0xAC00 0xD7A3).diff openSyllable),
   (["pp", "prepend"], prepend),
   (["ri", "regionalindicator"], regionalIndicator),
   (["sm", "spacingmark"], spacingMark),
   (["t"], .ofRow "11A8-11FF D7CB-D7FB"),
   (["v"], .ofRow "1160-11A7 D7B0-D7C6 16D63 16D67-16D6A"),
   (["zwj"], .ofRow "200D")]

end GraphemeBreak

end BytePattern
