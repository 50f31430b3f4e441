/-
The outer groups of a pattern: from its meaning if the dialect can read it, and otherwise from its
parentheses.
-/
import BytePattern.Regex.Meaning

namespace BytePattern

/-- The outer captures of a pattern text, if it can be read without Unicode mode. -/
def outerGroups? (text : String) (flags : Flags) : Option (List Nat) :=
  match Regex.parse text (.ofFlags flags false) with
  | .ok regex => some regex.outerGroups
  | .error _ => none

/-- The numbers of the parentheses that open outside all others, each parenthesis counting as a
group.  `count` of them were opened before and `depth` are open. -/
def scanParens (count depth : Nat) : List Char → List Nat
  | [] => []
  | '\\' :: _ :: rest => scanParens count depth rest
  | '(' :: rest =>
    let more := scanParens (count + 1) (depth + 1) rest
    if depth = 0 then (count + 1) :: more else more
  | ')' :: rest => scanParens count (depth - 1) rest
  | _ :: rest => scanParens count depth rest

/-- The outer groups as far as the parentheses tell. -/
def scanOuterGroups (text : String) : List Nat :=
  scanParens 0 0 text.toList

end BytePattern
