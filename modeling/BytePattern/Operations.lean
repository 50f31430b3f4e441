/-
The views of a haystack that a pattern offers, all of them drawn from the walk over its matches.
-/
import BytePattern.Pattern

namespace BytePattern

namespace Bytes

/-- The stretches between the spans from position `last` on, with what follows the last span at the
end. -/
def gaps (haystack : Bytes) : Nat → List Span → List Bytes
  | last, [] => [haystack.drop last]
  | last, span :: spans => haystack.slice ⟨last, span.start⟩ :: gaps haystack span.stop spans

/-- The haystack from position `last` on with each span exchanged for the text beside it. -/
def splice (haystack : Bytes) : Nat → List (Span × Bytes) → Bytes
  | last, [] => haystack.drop last
  | last, (span, text) :: rest =>
    haystack.slice ⟨last, span.start⟩ ++ (text ++ splice haystack span.stop rest)

end Bytes

namespace Pattern

/-- All matches with every group. -/
def capturesIter (pattern : Pattern) (haystack : Bytes) : Traced (List Captures) :=
  (Matches.start pattern haystack everyGroup).all

/-- Whether the pattern matches somewhere. -/
def isMatch (pattern : Pattern) (haystack : Bytes) : Traced Bool :=
  (pattern.execute haystack 0 1).map Option.isSome

/-- The span of the first match. -/
def find (pattern : Pattern) (haystack : Bytes) : Traced (Option Span) :=
  (pattern.execute haystack 0 1).map (Option.map Captures.range)

/-- The first matches, at most `limit` of them. -/
def findAll (pattern : Pattern) (haystack : Bytes) (limit : Nat) : Traced (List Captures) :=
  (Matches.start pattern haystack everyGroup).take limit

/-- The texts between the matches, one more than there are matches. -/
def split (pattern : Pattern) (haystack : Bytes) : Traced (List Bytes) :=
  (Matches.start pattern haystack 1).all.map fun found =>
    haystack.gaps 0 (found.map Captures.range)

/-- The texts of the matches. -/
def matchAll (pattern : Pattern) (haystack : Bytes) : Traced (List Bytes) :=
  (Matches.start pattern haystack 1).all.map fun found =>
    found.map fun caps => haystack.slice caps.range

/-- The texts of the outer groups, match by match, or of the matches if no group is outer. -/
def matchOuter (pattern : Pattern) (haystack : Bytes) : Traced (List (Option Bytes)) :=
  match pattern.outerGroups with
  | [] => (pattern.matchAll haystack).map (List.map some)
  | first :: others =>
    let want := others.foldl max first + 1
    (Matches.start pattern haystack want).all.map fun found =>
      found.flatMap fun caps => (first :: others).map (caps.text? haystack)

/-- The texts of all groups of the first match, or none if nothing matches. -/
def parse (pattern : Pattern) (haystack : Bytes) : Traced (List (Option Bytes)) :=
  (pattern.execute haystack 0 everyGroup).map fun found =>
    match found with
    | some caps => caps.texts haystack
    | none => []

/-- The texts of all groups, match by match. -/
def parseAll (pattern : Pattern) (haystack : Bytes) : Traced (List (List (Option Bytes))) :=
  (pattern.capturesIter haystack).map fun found => found.map (·.texts haystack)

/-- Exchanges each match for what `replace` makes of its number, counted from zero, and the texts of
its groups. -/
def replaceWith (pattern : Pattern) (haystack : Bytes)
    (replace : Nat → List (Option Bytes) → Bytes) : Traced Bytes :=
  (pattern.capturesIter haystack).map fun found =>
    haystack.splice 0 (found.mapIdx fun i caps => (caps.range, replace i (caps.texts haystack)))

end Pattern

end BytePattern
