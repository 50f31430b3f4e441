/-
Matches and the gaps between them make up the haystack, whatever the pattern.  An exchange of each
match for its own text changes nothing.
-/
import BytePattern.Proofs.Walk

namespace BytePattern

namespace Template

/-- The template stands for the whole match. -/
def IsWhole (template : Template) : Prop :=
  ∀ haystack caps, template.expansion haystack caps = (caps.text? haystack 0).getD []

/-- The texts that refer to the whole match. -/
def wholeTexts : List Bytes :=
  [.ofString "$0", .ofString "$\x7b0\x7d"]

theorem parse_isWhole {text : Bytes} (htext : text ∈ wholeTexts) : (parse text).IsWhole := by
  have hbare : parse (.ofString "$0") = ⟨.ofString "$0", [⟨⟨0, 2⟩, .group 0⟩]⟩ := by decide
  have hbraced : parse (.ofString "$\x7b0\x7d") =
      ⟨.ofString "$\x7b0\x7d", [⟨⟨0, 4⟩, .braced 0⟩]⟩ := by decide
  intro haystack caps
  simp only [wholeTexts, List.mem_cons, List.not_mem_nil, or_false] at htext
  rcases htext with rfl | rfl
  · rw [hbare]
    exact List.append_nil _
  · rw [hbraced]
    exact List.append_nil _

end Template

/-- A group with a text has it among the texts of all groups. -/
theorem Captures.getElem?_texts {caps : Captures} {haystack text : Bytes} {index : Nat}
    (htext : caps.text? haystack index = some text) :
    (caps.texts haystack)[index]? = some (some text) := by
  rw [texts, List.getElem?_map]
  rw [text?, group] at htext
  cases hgroup : caps.groups[index]? with
  | none => simp [hgroup] at htext
  | some span => simpa [hgroup] using htext

namespace Pattern

variable {pattern : Pattern}

theorem interleave_split_matchAll (hsound : pattern.Sound) (haystack : Bytes) :
    Bytes.interleave (pattern.split haystack).value (pattern.matchAll haystack).value =
      haystack := by
  have hspans := Matches.start_take_ascending hsound haystack 1 (haystack.length + 1)
  have hpieces := Bytes.interleave_gaps hspans (Nat.le_refl 0)
  rw [List.map_map, List.drop_zero] at hpieces
  exact hpieces

theorem map_fst_mapIdx_range (text : Nat → Captures → Bytes) (found : List Captures) :
    (found.mapIdx fun i caps => (caps.range, text i caps)).map Prod.fst =
      found.map Captures.range := by
  apply List.ext_getElem?
  intro i
  simp only [List.getElem?_map, List.getElem?_mapIdx, Option.map_map]
  rfl

/-- A callback that returns the text of the whole match changes nothing. -/
theorem replaceWith_whole (hsound : pattern.Sound) (haystack : Bytes)
    {replace : Nat → List (Option Bytes) → Bytes}
    (hreplace : ∀ i texts text, texts[0]? = some (some text) → replace i texts = text) :
    (pattern.replaceWith haystack replace).value = haystack := by
  have hspans := Matches.start_take_ascending hsound haystack everyGroup (haystack.length + 1)
  apply Bytes.splice_slice (map_fst_mapIdx_range _ _ ▸ hspans)
  intro edit hmem
  obtain ⟨i, hi, rfl⟩ := List.mem_mapIdx.mp hmem
  exact hreplace i _ _
    (Captures.getElem?_texts (Matches.start_take_text hsound (List.getElem_mem hi)))

end Pattern

namespace Substitution

variable {substitution : Substitution}

/-- A template that stands for the whole match changes nothing. -/
theorem exec_whole (hsound : substitution.pattern.Sound) (hwhole : substitution.template.IsWhole)
    (haystack : Bytes) : (substitution.exec haystack).value = haystack := by
  have hspans := Matches.start_take_ascending hsound haystack substitution.template.wantGroups
    (haystack.length + 1)
  apply Bytes.splice_slice (by rwa [List.map_map])
  intro edit hmem
  obtain ⟨caps, hcaps, rfl⟩ := List.mem_map.mp hmem
  rw [hwhole, Matches.start_take_text hsound hcaps]
  rfl

theorem map_fst_zipWith_range (f : Bytes → Captures → Bytes) (replacements : List Bytes)
    (found : List Captures) :
    (List.zipWith (fun text caps => (caps.range, f text caps)) replacements found).map Prod.fst <+:
      found.map Captures.range := by
  induction replacements generalizing found with
  | nil => exact List.nil_prefix
  | cons text replacements ih =>
      cases found with
      | nil => exact List.nil_prefix
      | cons caps found => exact List.cons_prefix_cons.mpr ⟨rfl, ih found⟩

/-- Replacements that stand for the whole match change nothing, however many there are. -/
theorem execEach_whole (hsound : substitution.pattern.Sound) (haystack : Bytes)
    {replacements : List Bytes} (hwhole : ∀ text ∈ replacements, (Template.parse text).IsWhole) :
    (substitution.execEach haystack replacements).value = haystack := by
  have hspans := Matches.start_take_ascending hsound haystack everyGroup replacements.length
  apply Bytes.splice_slice (hspans.of_initial (map_fst_zipWith_range _ _ _))
  intro edit hmem
  obtain ⟨i, hi, rfl⟩ := List.mem_iff_getElem.mp hmem
  rw [List.length_zipWith, Nat.lt_min] at hi
  rw [List.getElem_zipWith, hwhole _ (List.getElem_mem hi.1),
    Matches.start_take_text hsound (List.getElem_mem hi.2)]
  rfl

end Substitution

namespace Pattern

/-- No operation on the matches of a haystack loses or doubles a byte. -/
structure Lossless (pattern : Pattern) (haystack : Bytes) : Prop where
  /-- There is one piece more than there are matches. -/
  pieces : (pattern.split haystack).value.length = (pattern.matchAll haystack).value.length + 1
  /-- Pieces and matches in turn are the haystack. -/
  interleaved :
    Bytes.interleave (pattern.split haystack).value (pattern.matchAll haystack).value = haystack
  /-- A callback that returns the text of the whole match changes nothing. -/
  replaced : ∀ replace : Nat → List (Option Bytes) → Bytes,
    (∀ i texts text, texts[0]? = some (some text) → replace i texts = text) →
    (pattern.replaceWith haystack replace).value = haystack
  /-- A replacement that refers to the whole match changes nothing. -/
  substituted : ∀ text ∈ Template.wholeTexts,
    (Substitution.exec ⟨pattern, .parse text⟩ haystack).value = haystack
  /-- Any number of such replacements, one for each match, change nothing. -/
  substitutedEach : ∀ template replacements,
    (∀ text ∈ replacements, text ∈ Template.wholeTexts) →
    (Substitution.execEach ⟨pattern, template⟩ haystack replacements).value = haystack

/-- The operations on the matches of a sound pattern, absent or failing ones among them, lose and
double nothing. -/
theorem lossless_of_sound {pattern : Pattern} (hsound : pattern.Sound) (haystack : Bytes) :
    pattern.Lossless haystack := by
  refine ⟨?_, interleave_split_matchAll hsound haystack, fun replace hreplace =>
    replaceWith_whole hsound haystack hreplace, ?_, ?_⟩
  · simp [split, matchAll, Bytes.length_gaps]
  · intro text htext
    exact Substitution.exec_whole hsound (Template.parse_isWhole htext) haystack
  · intro template replacements htexts
    exact Substitution.execEach_whole hsound haystack
      fun text htext => Template.parse_isWhole (htexts text htext)

/-- The references of a text, two of them side by side. -/
theorem lossless_references :
    Reference.pattern.Sound ∧ Reference.pattern.Lossless ("a$1\\$$2b".toList.map ascii) :=
  ⟨Reference.pattern_sound, lossless_of_sound Reference.pattern_sound _⟩

end Pattern

end BytePattern
