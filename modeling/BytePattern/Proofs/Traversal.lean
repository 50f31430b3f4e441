/-
The walk over all matches of a sound pattern, for any haystack and any number of groups wanted.
-/
import BytePattern.Proofs.Walk

namespace BytePattern

namespace Matches

/-- A walk over all matches that ends in time and never leaves the haystack. -/
structure Bounded (walk : Matches) : Prop where
  /-- Calling `next` until it gives nothing yields all matches. -/
  ends : walk.Yields walk.all
  /-- There is at most one search more than the haystack has bytes. -/
  searches : walk.all.searches.length ≤ walk.haystack.length + 1
  /-- The whole matches follow one another. -/
  ascending : (walk.all.value.map Captures.range).IsChain Span.Precedes
  /-- Each of them lies in the haystack. -/
  within : ∀ caps ∈ walk.all.value, caps.range.Within walk.haystack.length
  /-- The calls give the matches in turn, and nothing from then on. -/
  calls : ∀ n, (walk.call n).value = walk.all.value[n]?
  /-- After the first call that gave nothing there are no searches. -/
  silent : ∀ n, walk.all.value.length < n → (walk.call n).searches = []
  /-- The texts of the matches are slices in bounds. -/
  texts : ∀ caps ∈ walk.all.value,
    walk.haystack.text? caps.range = some (walk.haystack.slice caps.range)
  /-- The gaps between the first matches, and what follows them, are slices in bounds. -/
  gaps : ∀ n, walk.haystack.gaps? 0 ((walk.take n).value.map Captures.range) =
    some (walk.haystack.gaps 0 ((walk.take n).value.map Captures.range))
  /-- Exchanging any number of the first matches cuts slices in bounds. -/
  splices : ∀ n edits, edits.map Prod.fst <+: (walk.take n).value.map Captures.range →
    walk.haystack.splice? 0 edits = some (walk.haystack.splice 0 edits)

/-- The walk over a sound pattern ends after at most one search for each position, its matches
ascend, and no slice that is cut at them is out of bounds. -/
theorem start_bounded {pattern : Pattern} (hsound : pattern.Sound) (haystack : Bytes)
    (want : Nat) : (start pattern haystack want).Bounded := by
  have hrange := start_inRange pattern haystack want
  have hyields : (start pattern haystack want).Yields (start pattern haystack want).all :=
    yields_all hsound hrange
  have hascending := hyields.ascending hsound hrange
  have hfirst := start_take_ascending hsound haystack want
  have hwithin : ∀ caps ∈ (start pattern haystack want).all.value,
      caps.range.Within haystack.length := by
    intro caps hmem
    exact hascending.within _ (List.mem_map_of_mem hmem)
  refine ⟨hyields, ?_, hascending.isChain, hwithin, hyields.value_call hrange,
    fun n hn => hyields.searches_call hrange hn, ?_, ?_, ?_⟩
  · exact Nat.le_trans (hyields.length_searches_le hsound hrange) (room_le _)
  · intro caps hmem
    exact Bytes.text?_of_within (hwithin caps hmem)
  · intro n
    exact Bytes.gaps?_eq_some (hfirst n) (Nat.le_refl 0) (Nat.zero_le _)
  · intro n edits hedits
    exact Bytes.splice?_eq_some ((hfirst n).of_initial hedits) (Nat.le_refl 0) (Nat.zero_le _)

/-- The references of a text, two of them side by side. -/
theorem start_bounded_references :
    Reference.pattern.Sound ∧
      (start Reference.pattern ("a$1\\$$2".toList.map ascii) 1).Bounded :=
  ⟨Reference.pattern_sound, start_bounded Reference.pattern_sound _ 1⟩

example : (start Reference.pattern ("a$1\\$$2".toList.map ascii) 1).all.value.map Captures.range =
    [⟨1, 3⟩, ⟨3, 5⟩, ⟨5, 7⟩] := by
  decide

end Matches

end BytePattern
