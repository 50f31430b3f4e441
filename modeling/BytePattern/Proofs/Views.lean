/-
All views of a haystack are drawn from one row of matches, though each of them makes searches of its
own and asks for no more groups than it shows.
-/
import BytePattern.Proofs.Agreement
import BytePattern.Proofs.CutOff

namespace BytePattern

/-- Every search asks for this number of groups. -/
def Traced.Asks {α : Type} (traced : Traced α) (want : Nat) : Prop :=
  ∀ search ∈ traced.searches, search.want = want

/-- What is drawn from each match alike is drawn from all of them alike. -/
theorem map_eq_of_forall₂ {α : Type} {related : Captures → Captures → Prop} {draw : Captures → α}
    {found found' : List Captures} (hfound : List.Forall₂ related found found')
    (hdraw : ∀ caps caps', related caps caps' → draw caps = draw caps') :
    found.map draw = found'.map draw := by
  induction hfound with
  | nil => rfl
  | cons hrelated _ ih => rw [List.map_cons, List.map_cons, hdraw _ _ hrelated, ih]

namespace Matches

variable {pattern : Pattern}

/-- The first match of a walk is what one search from the front finds. -/
theorem head?_start_all (pattern : Pattern) (haystack : Bytes) (want : Nat) :
    (start pattern haystack want).all.value.head? = (pattern.execute haystack 0 want).value := by
  cases hcompiled : pattern.compiled with
  | none =>
      rw [start_all_of_absent hcompiled, Pattern.execute, hcompiled]
      rfl
  | some compiled =>
      rw [execute_eq_search hcompiled]
      cases hfound : ((start pattern haystack want).search compiled).found with
      | none =>
          rw [start_all_of_missed hcompiled hfound]
          rfl
      | some caps =>
          rw [start_all_of_found hcompiled hfound]
          rfl

theorem start_asks (hsound : pattern.Sound) (haystack : Bytes) (want : Nat) :
    (start pattern haystack want).all.Asks want :=
  (start_yields hsound haystack want).searches_want (start_inRange pattern haystack want)

end Matches

namespace Pattern

variable {pattern : Pattern}

theorem execute_asks (pattern : Pattern) (haystack : Bytes) (offset want : Nat) :
    (pattern.execute haystack offset want).Asks want := by
  intro search hmem
  rw [execute] at hmem
  split at hmem
  · contradiction
  · split at hmem
    · rw [List.mem_singleton.mp hmem]
    · contradiction

/-- Every outer group is among the groups that are asked for. -/
theorem lt_outerWant {group : Nat} (hgroup : group ∈ pattern.outerGroups) :
    group < pattern.outerWant := by
  unfold outerWant
  cases hgroups : pattern.outerGroups with
  | nil => simp [hgroups] at hgroup
  | cons first others =>
      rw [hgroups] at hgroup
      exact Nat.lt_succ_of_le ((List.max?_eq_some_iff.mp List.max?_cons').2 group hgroup)

theorem outerWant_le (houter : ∀ group ∈ pattern.outerGroups, group < everyGroup) :
    pattern.outerWant ≤ everyGroup := by
  unfold outerWant
  cases hgroups : pattern.outerGroups with
  | nil => decide
  | cons first others =>
      have hlargest : others.foldl max first ∈ first :: others :=
        (List.max?_eq_some_iff.mp List.max?_cons').1
      exact houter _ (hgroups ▸ hlargest)

/-- The groups that `matchOuter` shows for a match. -/
def outerTexts (pattern : Pattern) (haystack : Bytes) (caps : Captures) : List (Option Bytes) :=
  if pattern.outerGroups = [] then [caps.text? haystack 0]
  else pattern.outerGroups.map (caps.text? haystack)

theorem outerTexts_congr {haystack : Bytes} {caps caps' : Captures}
    (hagree : caps.Agree (max 1 pattern.outerWant) caps') :
    pattern.outerTexts haystack caps = pattern.outerTexts haystack caps' := by
  have htext {index : Nat} (hindex : index < max 1 pattern.outerWant) :
      caps.text? haystack index = caps'.text? haystack index := by
    rw [Captures.text?, Captures.text?, hagree index hindex]
  unfold outerTexts
  split
  · rw [htext (by omega)]
  · refine List.map_congr_left fun group hgroup => htext ?_
    have hlt := lt_outerWant hgroup
    omega

/-- With its own number of groups, `matchOuter` shows the outer groups of each match. -/
theorem value_matchOuter (hsound : pattern.Sound) (haystack : Bytes) :
    (pattern.matchOuter haystack).value =
      (Matches.start pattern haystack pattern.outerWant).all.value.flatMap
        (pattern.outerTexts haystack) := by
  unfold matchOuter outerWant outerTexts
  cases hgroups : pattern.outerGroups with
  | nil =>
      simp only [matchAll, Traced.value_map, List.map_map, ↓reduceIte]
      rw [List.map_eq_flatMap]
      refine List.flatMap_congr fun caps hmem => ?_
      rw [Matches.start_take_text hsound hmem]
      rfl
  | cons first others => rfl

theorem asks_matchOuter (hsound : pattern.Sound) (haystack : Bytes) :
    (pattern.matchOuter haystack).Asks pattern.outerWant := by
  have hasks := Matches.start_asks hsound haystack pattern.outerWant
  unfold matchOuter
  unfold outerWant at hasks ⊢
  cases hgroups : pattern.outerGroups with
  | nil => rwa [hgroups] at hasks
  | cons first others => rwa [hgroups] at hasks

/-- The views of a haystack beside its matches with all their groups. -/
structure Views (pattern : Pattern) (haystack : Bytes) (found : List Captures) : Prop where
  matchAll : (pattern.matchAll haystack).value.map some = found.map (·.text? haystack 0)
  split : (pattern.split haystack).value = haystack.gaps 0 (found.map Captures.range)
  /-- The outer groups in their order, match by match. -/
  outer : pattern.outerGroups ≠ [] → (pattern.matchOuter haystack).value =
    found.flatMap fun caps => pattern.outerGroups.map (caps.text? haystack)
  /-- Without outer groups they are the matches themselves. -/
  outermost : pattern.outerGroups = [] →
    (pattern.matchOuter haystack).value = found.map (·.text? haystack 0)
  parseAll : (pattern.parseAll haystack).value = found.map (·.texts haystack)
  parse : (pattern.parse haystack).value = ((pattern.parseAll haystack).value.head?).getD []
  find : (pattern.find haystack).value = found.head?.map Captures.range
  isMatch : (pattern.isMatch haystack).value = true ↔ found ≠ []
  /-- No view asks for groups that it does not show. -/
  narrow : (pattern.matchAll haystack).Asks 1 ∧ (pattern.split haystack).Asks 1 ∧
    (pattern.matchOuter haystack).Asks pattern.outerWant ∧
    (pattern.parseAll haystack).Asks everyGroup ∧ (pattern.parse haystack).Asks everyGroup ∧
    (pattern.find haystack).Asks 1 ∧ (pattern.isMatch haystack).Asks 1

/-- If the program is steady, every view shows the matches that the walk with all groups meets.  The
groups of a pattern are numbered by words. -/
theorem views_of_steady (hsound : pattern.Sound) (hsteady : pattern.Steady)
    (houter : ∀ group ∈ pattern.outerGroups, group < everyGroup) (haystack : Bytes) :
    pattern.Views haystack (pattern.capturesIter haystack).value := by
  have hone := Matches.start_all_agree hsound hsteady haystack (show 1 ≤ everyGroup by decide)
  have hranges := map_eq_of_forall₂ hone fun caps caps' =>
    (Captures.agree_placing Nat.one_pos).range
  have htexts : (pattern.capturesIter haystack).value.map (·.text? haystack 0) =
      (Matches.start pattern haystack 1).all.value.map (·.text? haystack 0) := by
    refine map_eq_of_forall₂ hone fun caps caps' hagree => ?_
    rw [Captures.text?, Captures.text?, hagree 0 Nat.one_pos]
  have houterTexts : (pattern.matchOuter haystack).value =
      (pattern.capturesIter haystack).value.flatMap (pattern.outerTexts haystack) := by
    have hagree := Matches.start_all_agree hsound hsteady haystack (outerWant_le houter)
    rw [value_matchOuter hsound, List.flatMap_def, List.flatMap_def,
      map_eq_of_forall₂ hagree fun caps caps' => outerTexts_congr]
  have hfind : (pattern.find haystack).value =
      (pattern.capturesIter haystack).value.head?.map Captures.range := by
    rw [Pattern.find, Traced.value_map, ← Matches.head?_start_all, ← List.head?_map,
      ← List.head?_map, hranges]
  refine ⟨?_, congrArg (haystack.gaps 0) hranges.symm, ?_, ?_, rfl, ?_, hfind, ?_, ?_⟩
  · rw [htexts, Pattern.matchAll, Traced.value_map, List.map_map]
    refine List.map_congr_left fun caps hmem => ?_
    rw [Matches.start_take_text hsound hmem]
    rfl
  · intro hgroups
    rw [houterTexts]
    refine List.flatMap_congr fun caps _ => ?_
    rw [outerTexts, if_neg hgroups]
  · intro hgroups
    rw [houterTexts, List.map_eq_flatMap]
    refine List.flatMap_congr fun caps _ => ?_
    rw [outerTexts, if_pos hgroups]
  · rw [Pattern.parse, Traced.value_map, ← Matches.head?_start_all, Pattern.parseAll,
      Traced.value_map, List.head?_map]
    change _ = ((Matches.start pattern haystack everyGroup).all.value.head?.map _).getD []
    cases (Matches.start pattern haystack everyGroup).all.value.head? <;> rfl
  · have hsome : (pattern.isMatch haystack).value = (pattern.find haystack).value.isSome := by
      simp [Pattern.isMatch, Pattern.find]
    rw [hsome, hfind, Option.isSome_map, List.isSome_head?]
  · exact ⟨Matches.start_asks hsound haystack 1, Matches.start_asks hsound haystack 1,
      asks_matchOuter hsound haystack, Matches.start_asks hsound haystack everyGroup,
      execute_asks pattern haystack 0 everyGroup, execute_asks pattern haystack 0 1,
      execute_asks pattern haystack 0 1⟩

/-- A byte and an outer group that takes part in one match only. -/
theorem views_of_steady_marked :
    Substitution.marked.Sound ∧ Substitution.marked.Steady ∧
      (∀ group ∈ Substitution.marked.outerGroups, group < everyGroup) ∧
      Substitution.marked.Views (Bytes.ofString "abca")
        (Substitution.marked.capturesIter (Bytes.ofString "abca")).value := by
  have hsound : Substitution.marked.Sound := by
    intro compiled hcompiled
    obtain rfl := Option.some.inj hcompiled
    exact SearchOptions.program_sound _ _
  have hsteady : Substitution.marked.Steady := by
    intro compiled hcompiled
    obtain rfl := Option.some.inj hcompiled
    exact SearchOptions.program_steady _ _
  have houter : ∀ group ∈ Substitution.marked.outerGroups, group < everyGroup := by decide
  exact ⟨hsound, hsteady, houter, views_of_steady hsound hsteady houter _⟩

end Pattern

end BytePattern
