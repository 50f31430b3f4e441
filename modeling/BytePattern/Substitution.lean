/-
Substitutions: a pattern and the template its matches are exchanged for.
-/
import BytePattern.Template

namespace BytePattern

/-- A pattern and the replacement for its matches. -/
structure Substitution where
  pattern : Pattern
  template : Template

namespace Substitution

/-- Exchanges every match for the expanded template. -/
def exec (substitution : Substitution) (haystack : Bytes) : Traced Bytes :=
  let wanted := substitution.template.wantGroups
  (Matches.start substitution.pattern haystack wanted).all.map fun found =>
    haystack.splice 0 <|
      found.map fun caps => (caps.range, substitution.template.expansion haystack caps)

/-- Exchanges the matches, one after the other, for the expanded replacements.  Matches beyond the
last replacement are not looked for. -/
def execEach (substitution : Substitution) (haystack : Bytes) (replacements : List Bytes) :
    Traced Bytes :=
  let count := replacements.length
  (Matches.start substitution.pattern haystack everyGroup).take count |>.map fun found =>
    haystack.splice 0 <|
      List.zipWith
        (fun text caps => (caps.range, (Template.parse text).expansion haystack caps))
        replacements found

end Substitution

end BytePattern
