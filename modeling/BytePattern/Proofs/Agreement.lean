/-
All ways to substitute a text for the matches of a haystack agree.  A substitution asks the program
for no more groups than its template refers to, and these are enough to expand it.
-/
import BytePattern.Proofs.Lockstep
import BytePattern.Proofs.Lossless
import BytePattern.Proofs.Searching
import BytePattern.Proofs.Suffix

namespace BytePattern

/-- The first groups are the same. -/
def Captures.Agree (count : Nat) (caps caps' : Captures) : Prop :=
  ∀ index < count, caps.group index = caps'.group index

theorem Captures.agree_placing {count : Nat} (hcount : 0 < count) :
    Placing (Agree count) where
  range := by
    intro caps caps' hagree
    rw [range, range, hagree 0 hcount]
  wrap := by
    intro caps caps' total offset hagree index hindex
    by_cases hoffset : offset = 0
    · simp only [hoffset, wrap_zero]
      exact hagree index hindex
    · rw [group_wrap _ _ _ hoffset, group_wrap _ _ _ hoffset, hagree index hindex]

/-- Two answers to one search: both fail, both find nothing, or both find the same first groups. -/
inductive Program.SameOutcome (count : Nat) :
    Except ExecError (Option Captures) → Except ExecError (Option Captures) → Prop where
  | failed (error error' : ExecError) : SameOutcome count (.error error) (.error error')
  | missed : SameOutcome count (.ok none) (.ok none)
  | found {caps caps' : Captures} (hagree : caps.Agree count caps') :
      SameOutcome count (.ok (some caps)) (.ok (some caps'))

theorem Program.SameOutcome.rel_found {count length want want' : Nat}
    {outcome outcome' : Except ExecError (Option Captures)}
    (hsame : SameOutcome count outcome outcome') :
    Option.Rel (Captures.Agree count) (Search.found ⟨length, want, outcome⟩)
      (Search.found ⟨length, want', outcome'⟩) := by
  cases hsame with
  | failed | missed => exact .none
  | found hagree => exact .some hagree

/-- The number of groups wanted changes nothing but which groups are reported, and those that are
wanted are. -/
def Program.Steady (program : Program) : Prop :=
  ∀ subject, ∀ want ≤ everyGroup, SameOutcome (max 1 want)
    (program.execute subject everyGroup) (program.execute subject want)

/-- The program of the pattern is steady. -/
def Pattern.Steady (pattern : Pattern) : Prop :=
  ∀ compiled, pattern.compiled = some compiled → compiled.program.Steady

namespace SearchOptions

/-- The default engine's programs are steady. -/
theorem program_steady (options : SearchOptions) (regex : Regex) :
    (options.program regex).Steady := by
  intro subject want hwant
  rw [program_execute, program_execute]
  split
  · exact .failed _ _
  · cases regex.leftmost? subject with
    | none => exact .missed
    | some caps =>
        refine .found fun index hindex => ?_
        have hevery : index < max 1 everyGroup := by omega
        rw [Captures.group_truncate, Captures.group_truncate, if_pos hindex, if_pos hevery]

end SearchOptions

namespace Matches

/-- Every search of a walk asks for as many groups as the walk does. -/
theorem Yields.searches_want {walk : Matches} {run : Traced (List Captures)}
    (hyields : walk.Yields run) (hrange : walk.InRange) :
    ∀ search ∈ run.searches, search.want = walk.want := by
  induction hyields with
  | ended walk hnone => exact (next_want hrange).2
  | matched walk caps run hsome hrest ih =>
      obtain ⟨hwant, hfirst⟩ := next_want hrange
      intro search hmem
      rcases List.mem_append.mp hmem with hmem | hmem
      · exact hfirst search hmem
      · rw [ih (next_inRange hrange) search hmem, hwant]

/-- Walks that ask for fewer groups and for all of them meet the same matches. -/
theorem start_all_agree {pattern : Pattern} (hsound : pattern.Sound) (hsteady : pattern.Steady)
    (haystack : Bytes) {want : Nat} (hwant : want ≤ everyGroup) :
    List.Forall₂ (Captures.Agree (max 1 want)) (pattern.capturesIter haystack).value
      (start pattern haystack want).all.value := by
  have hbeside : Beside (Captures.Agree (max 1 want)) (fun _ => False)
      (start pattern haystack everyGroup) (start pattern haystack want) := by
    refine ⟨rfl, rfl, rfl, ?_⟩
    dsimp only [start]
    cases hcompiled : pattern.compiled with
    | none => exact .none
    | some compiled =>
        refine .some fun subject => Or.inr ?_
        exact (hsteady compiled hcompiled subject want hwant).rel_found
  obtain ⟨hagree, hlength⟩ := hbeside.start_forall₂ (Captures.agree_placing (by omega))
    (fun _ => False.elim) hsound hsound
  rw [hlength fun _ _ => not_false, List.take_length] at hagree
  exact hagree

end Matches

namespace Template

theorem wantGroups_le (template : Template) : template.wantGroups ≤ everyGroup := by
  unfold wantGroups
  split
  · decide
  · exact Nat.min_le_right _ _

/-- The groups wanted are those referred to, short of the number that asks for every group. -/
theorem lt_wantGroups {template : Template} {index : Nat} (hindex : index ∈ template.groups)
    (hwant : template.wantGroups < everyGroup) : index < template.wantGroups := by
  cases hgroups : template.groups with
  | nil => simp [hgroups] at hindex
  | cons first others =>
      rw [hgroups] at hindex
      have hmax := (List.max?_eq_some_iff.mp List.max?_cons').2 index hindex
      simp only [wantGroups, hgroups] at hwant ⊢
      omega

theorem expansion_congr {template : Template} {caps caps' : Captures} (haystack : Bytes)
    (hagree : ∀ index ∈ template.groups, caps.group index = caps'.group index) :
    template.expansion haystack caps = template.expansion haystack caps' := by
  rw [expansion, expansion]
  congr 1
  apply List.map_congr_left
  intro ref hmem
  unfold expandKind
  split
  · rfl
  · next index hindex =>
    have hgroup := hagree index (List.mem_filterMap.mpr ⟨ref, hmem, hindex⟩)
    rw [Captures.text?, Captures.text?, hgroup]

/-- The template expanded against the texts of all groups.  One that is unset or not there gives
nothing. -/
def expandTexts (template : Template) (texts : List (Option Bytes)) : Bytes :=
  template.text.splice 0 <|
    template.references.map fun ref =>
      (ref.span,
        match ref.kind.group? with
        | none => [ascii '$']
        | some index => (texts[index]?.join).getD [])

theorem expandTexts_texts (template : Template) (haystack : Bytes) (caps : Captures) :
    template.expandTexts (caps.texts haystack) = template.expansion haystack caps := by
  have htext (index : Nat) : (caps.texts haystack)[index]?.join = caps.text? haystack index := by
    rw [Captures.texts, List.getElem?_map, Captures.text?, Captures.group]
    cases caps.groups[index]? <;> rfl
  rw [expandTexts, expansion]
  congr 1
  apply List.map_congr_left
  intro ref _
  unfold expandKind
  cases ref.kind.group? with
  | none => rfl
  | some index => simp only [htext]

/-- Appends to a buffer what stands before each match and then the expanded template, and at the end
what follows the last match. -/
def expandAll (template : Template) (haystack : Bytes) : Nat → Bytes → List Captures → Bytes
  | last, buffer, [] => buffer ++ haystack.drop last
  | last, buffer, caps :: found =>
    let gap := haystack.slice ⟨last, caps.range.start⟩
    expandAll template haystack caps.range.stop (template.expand haystack caps (buffer ++ gap))
      found

theorem expandAll_eq (template : Template) (haystack : Bytes) (last : Nat) (buffer : Bytes)
    (found : List Captures) :
    template.expandAll haystack last buffer found =
      buffer ++ haystack.splice last (template.edits haystack found) := by
  induction found generalizing last buffer with
  | nil => rfl
  | cons caps found ih =>
      simp only [expandAll, ih, expand, edits, List.map_cons, Bytes.splice, List.append_assoc]

end Template

namespace Substitution

variable {pattern : Pattern}

theorem zipWith_replicate_left {α β γ : Type} (f : α → β → γ) (a : α) (count : Nat) (bs : List β) :
    List.zipWith f (List.replicate count a) bs = (bs.take count).map (f a) := by
  induction bs generalizing count with
  | nil => simp
  | cons b bs ih =>
      cases count with
      | zero => rfl
      | succ count =>
          rw [List.replicate_succ, List.zipWith_cons_cons, ih, List.take_succ_cons, List.map_cons]

/-- The groups that are not asked for are not referred to. -/
theorem edits_wantGroups (hsound : pattern.Sound) (hsteady : pattern.Steady)
    (template : Template) (haystack : Bytes) :
    template.edits haystack (Matches.start pattern haystack template.wantGroups).all.value =
      template.edits haystack (pattern.capturesIter haystack).value := by
  -- A reference to the last group there can be asks for every group, and the walks are the same.
  rcases Nat.lt_or_eq_of_le template.wantGroups_le with hlt | heq
  · have hagree := Matches.start_all_agree hsound hsteady haystack template.wantGroups_le
    have hedits : List.Forall₂ (· = ·)
        (template.edits haystack (pattern.capturesIter haystack).value)
        (template.edits haystack
          (Matches.start pattern haystack template.wantGroups).all.value) := by
      refine List.forall₂_map_left_iff.mpr (List.forall₂_map_right_iff.mpr (hagree.imp ?_))
      intro caps caps' hcaps
      have hrange := (Captures.agree_placing (by omega)).range hcaps
      have hexpansion := Template.expansion_congr haystack fun index hindex =>
        hcaps index (Nat.lt_of_lt_of_le (Template.lt_wantGroups hindex hlt) (Nat.le_max_right _ _))
      rw [hrange, hexpansion]
    exact (List.forall₂_eq_eq_eq ▸ hedits).symm
  · rw [heq]
    rfl

theorem replaceWith_expandTexts (template : Template) (haystack : Bytes) :
    (pattern.replaceWith haystack fun _ texts => template.expandTexts texts).value =
      haystack.splice 0 (template.edits haystack (pattern.capturesIter haystack).value) := by
  dsimp only [Pattern.replaceWith, Traced.value_map, Template.edits]
  simp only [Template.expandTexts_texts]
  congr 1
  apply List.ext_getElem?
  intro i
  rw [List.getElem?_mapIdx, List.getElem?_map]

/-- With a replacement for each match none of them is left out. -/
theorem execEach_replicate (hsound : pattern.Sound) (template : Template) (text : Bytes)
    {haystack : Bytes} {count : Nat}
    (hcount : (pattern.capturesIter haystack).value.length ≤ count) :
    (execEach ⟨pattern, template⟩ haystack (List.replicate count text)).value =
      haystack.splice 0
        ((Template.parse text).edits haystack (pattern.capturesIter haystack).value) := by
  have hyields : (Matches.start pattern haystack everyGroup).Yields
      (pattern.capturesIter haystack) :=
    Matches.start_yields hsound haystack everyGroup
  dsimp only [execEach, Traced.value_map]
  rw [zipWith_replicate_left, List.length_replicate, hyields.value_take, List.take_take,
    Nat.min_self, List.take_of_length_le hcount]
  rfl

/-- A substitution of a text for the matches of a haystack, beside other ways to make it. -/
structure Agreement (pattern : Pattern) (text haystack : Bytes) : Prop where
  /-- No search asks for more groups than the template does. -/
  narrow : ∀ search ∈ (exec ⟨pattern, .parse text⟩ haystack).searches,
    search.want = (Template.parse text).wantGroups
  /-- A callback that expands the template against the texts of all groups. -/
  replaced : (exec ⟨pattern, .parse text⟩ haystack).value =
    (pattern.replaceWith haystack fun _ texts => (Template.parse text).expandTexts texts).value
  /-- One copy of the text for each match, or more. -/
  repeated : ∀ template count, (pattern.capturesIter haystack).value.length ≤ count →
    (exec ⟨pattern, .parse text⟩ haystack).value =
      (execEach ⟨pattern, template⟩ haystack (List.replicate count text)).value
  /-- A loop over the matches with all their groups. -/
  expanded : (exec ⟨pattern, .parse text⟩ haystack).value =
    (Template.parse text).expandAll haystack 0 [] (pattern.capturesIter haystack).value

/-- All ways agree if the program is steady. -/
theorem agreement_of_steady (hsound : pattern.Sound) (hsteady : pattern.Steady)
    (text haystack : Bytes) : Agreement pattern text haystack := by
  have hexec : (exec ⟨pattern, .parse text⟩ haystack).value =
      haystack.splice 0
        ((Template.parse text).edits haystack (pattern.capturesIter haystack).value) :=
    congrArg (haystack.splice 0) (edits_wantGroups hsound hsteady (.parse text) haystack)
  refine ⟨?_, ?_, ?_, ?_⟩
  · have hrange := Matches.start_inRange pattern haystack (Template.parse text).wantGroups
    exact (Matches.start_yields hsound haystack _).searches_want hrange
  · rw [hexec, replaceWith_expandTexts]
  · intro template count hcount
    rw [hexec, execEach_replicate hsound template text hcount]
  · rw [hexec, Template.expandAll_eq, List.nil_append]

/-- A byte and a capture that may take part in a match or not. -/
def marked : Pattern where
  text := "a(b)?"
  flags := .extended
  compiled := some
    { program := SearchOptions.program {} <| .concat
        [.literal [97], .times (.capture 1 (.literal [98])) 0 (some 1) true]
      outerGroups := [1]
      expanded := "a(b)?" }

theorem agreement_of_steady_marked :
    marked.Sound ∧ marked.Steady ∧
      Agreement marked (Bytes.ofString "<$1$0$9>") (Bytes.ofString "abca") := by
  have hsound : marked.Sound := by
    intro compiled hcompiled
    obtain rfl := Option.some.inj hcompiled
    exact SearchOptions.program_sound _ _
  have hsteady : marked.Steady := by
    intro compiled hcompiled
    obtain rfl := Option.some.inj hcompiled
    exact SearchOptions.program_steady _ _
  exact ⟨hsound, hsteady, agreement_of_steady hsound hsteady _ _⟩

end Substitution

end BytePattern
