/-
Walks and substitutions as recursions over haystacks: the first match, and then what is made of the
rest of the haystack alone, moved to the right.  A group far to the right of its subject cannot be
moved, for there is no position for it.
-/
import BytePattern.Proofs.Suffix

namespace BytePattern

namespace Pattern

variable {pattern : Pattern} {haystack : Bytes} {want : Nat} {caps : Captures}

theorem exists_of_execute_eq_some (hfound : (pattern.execute haystack 0 want).value = some caps) :
    ∃ compiled, pattern.compiled = some compiled ∧
      ((Matches.start pattern haystack want).search compiled).found = some caps := by
  cases hcompiled : pattern.compiled with
  | none => simp [execute, hcompiled] at hfound
  | some compiled =>
      rw [Matches.execute_eq_search hcompiled] at hfound
      exact ⟨compiled, rfl, hfound⟩

/-- A search that finds a match gives rise to no warning. -/
theorem warnings_of_execute_eq_some (searches : List Search)
    (hfound : (pattern.execute haystack 0 want).value = some caps) :
    pattern.warnings ((pattern.execute haystack 0 want).searches ++ searches) =
      pattern.warnings searches := by
  obtain ⟨compiled, hcompiled, hsearch⟩ := exists_of_execute_eq_some hfound
  have hwarning : ((Matches.start pattern haystack want).search compiled).warning? pattern.text =
      none := by
    rw [Search.warning?, Search.found_eq_some_iff.mp hsearch]
  rw [Matches.execute_eq_search hcompiled, warnings, List.singleton_append, List.filterMap_cons,
    hwarning, warnings]

end Pattern

namespace Matches

variable {pattern : Pattern} {haystack : Bytes} {want : Nat} {caps : Captures}

theorem resume_cases (hsound : pattern.Sound)
    (hfound : (pattern.execute haystack 0 want).value = some caps) :
    (caps.range.start < caps.range.stop ∧ resume caps.range = caps.range.stop) ∨
      (caps.range.start = caps.range.stop ∧ resume caps.range = caps.range.stop + 1) := by
  obtain ⟨compiled, hcompiled, hsearch⟩ := Pattern.exists_of_execute_eq_some hfound
  obtain ⟨span, hspan, hforward, _⟩ :=
    hsound compiled hcompiled _ _ _ (Search.found_eq_some_iff.mp hsearch)
  rw [Captures.range_eq_of_group hspan]
  rcases Nat.lt_or_eq_of_le hforward with hlt | heq
  · exact Or.inl ⟨hlt, resume_of_lt hlt⟩
  · refine Or.inr ⟨heq, ?_⟩
    simp [resume, Span.isEmpty, heq]

theorem start_all_of_execute_eq_none
    (hfound : (pattern.execute haystack 0 want).value = none) :
    (start pattern haystack want).all = ⟨[], (pattern.execute haystack 0 want).searches⟩ := by
  cases hcompiled : pattern.compiled with
  | none =>
      rw [start_all_of_absent hcompiled, Pattern.execute, hcompiled]
  | some compiled =>
      rw [execute_eq_search hcompiled] at hfound ⊢
      exact start_all_of_missed hcompiled hfound

/-- Behind the first match come the matches of what is left, if anything is left. -/
theorem start_all_of_execute_eq_some (hsound : pattern.Sound)
    (hfits : pattern.FitsIn haystack want)
    (hfound : (pattern.execute haystack 0 want).value = some caps) :
    (start pattern haystack want).all =
      if resume caps.range ≤ haystack.length then
        let rest := (start pattern (haystack.drop (resume caps.range)) want).all
        ⟨caps :: rest.value.map (·.shift (resume caps.range)),
          (pattern.execute haystack 0 want).searches ++ rest.searches⟩
      else ⟨[caps], (pattern.execute haystack 0 want).searches⟩ := by
  obtain ⟨compiled, hcompiled, hsearch⟩ := Pattern.exists_of_execute_eq_some hfound
  rw [execute_eq_search hcompiled]
  split
  · next hresume => exact start_all_of_matched hsound hfits hcompiled hsearch hresume
  · next hresume =>
    exact start_all_of_matched_at_end hcompiled hsearch (Nat.lt_of_not_le hresume)

end Matches

namespace Substitution

variable {pattern : Pattern} {template : Template} {haystack : Bytes} {caps : Captures}

theorem exec_of_execute_eq_none
    (hfound : (pattern.execute haystack 0 template.wantGroups).value = none) :
    (exec ⟨pattern, template⟩ haystack).value = haystack := by
  simp [exec, Matches.start_all_of_execute_eq_none hfound, Bytes.splice]

theorem exec_of_execute_eq_some (hsound : pattern.Sound)
    (hfits : pattern.FitsIn haystack template.wantGroups)
    (hfound : (pattern.execute haystack 0 template.wantGroups).value = some caps) :
    (exec ⟨pattern, template⟩ haystack).value =
      haystack.take caps.range.start ++ (template.expansion haystack caps ++
        if Matches.resume caps.range ≤ haystack.length then
          haystack.slice ⟨caps.range.stop, Matches.resume caps.range⟩ ++
            (exec ⟨pattern, template⟩ (haystack.drop (Matches.resume caps.range))).value
        else []) := by
  obtain ⟨compiled, hcompiled, hsearch⟩ := Pattern.exists_of_execute_eq_some hfound
  have hfirst : (firstSearch ⟨pattern, template⟩ compiled haystack).found = some caps := hsearch
  split
  · next hresume => exact exec_of_matched hsound hfits hcompiled hfirst hresume
  · next hresume =>
    rw [List.append_nil]
    exact exec_of_matched_at_end hsound hcompiled hfirst (Nat.lt_of_not_le hresume)

theorem warnings_exec_of_execute_eq_some (hsound : pattern.Sound)
    (hfits : pattern.FitsIn haystack template.wantGroups)
    (hfound : (pattern.execute haystack 0 template.wantGroups).value = some caps) :
    pattern.warnings (exec ⟨pattern, template⟩ haystack).searches =
      if Matches.resume caps.range ≤ haystack.length then
        pattern.warnings
          (exec ⟨pattern, template⟩ (haystack.drop (Matches.resume caps.range))).searches
      else [] := by
  have hall := Matches.start_all_of_execute_eq_some hsound hfits hfound
  have hexec (haystack : Bytes) : (exec ⟨pattern, template⟩ haystack).searches =
      (Matches.start pattern haystack template.wantGroups).all.searches := rfl
  rw [hexec, hall]
  split
  · exact Pattern.warnings_of_execute_eq_some _ hfound
  · have hnone := Pattern.warnings_of_execute_eq_some [] hfound
    rwa [List.append_nil] at hnone

/-- What a walk and a substitution make of a haystack, told by the first match and by what they
make of the rest of the haystack.  The rest begins at the end of the match, or one byte later if the
match is empty. -/
structure Composed (pattern : Pattern) (template : Template) (haystack : Bytes) : Prop where
  behind : ∀ want caps, (pattern.execute haystack 0 want).value = some caps →
    (caps.range.start < caps.range.stop ∧ Matches.resume caps.range = caps.range.stop) ∨
      (caps.range.start = caps.range.stop ∧ Matches.resume caps.range = caps.range.stop + 1)
  missed : ∀ want, (pattern.execute haystack 0 want).value = none →
    (Matches.start pattern haystack want).all = ⟨[], (pattern.execute haystack 0 want).searches⟩
  matched : ∀ want caps, (pattern.execute haystack 0 want).value = some caps →
    (Matches.start pattern haystack want).all =
      if Matches.resume caps.range ≤ haystack.length then
        let rest := (Matches.start pattern (haystack.drop (Matches.resume caps.range)) want).all
        ⟨caps :: rest.value.map (·.shift (Matches.resume caps.range)),
          (pattern.execute haystack 0 want).searches ++ rest.searches⟩
      else ⟨[caps], (pattern.execute haystack 0 want).searches⟩
  /-- A haystack without a match is left as it is. -/
  unchanged : (pattern.execute haystack 0 template.wantGroups).value = none →
    (exec ⟨pattern, template⟩ haystack).value = haystack
  /-- Between the match and the rest there is at most the byte that is stepped over. -/
  changed : ∀ caps, (pattern.execute haystack 0 template.wantGroups).value = some caps →
    (exec ⟨pattern, template⟩ haystack).value =
      haystack.take caps.range.start ++ (template.expansion haystack caps ++
        if Matches.resume caps.range ≤ haystack.length then
          haystack.slice ⟨caps.range.stop, Matches.resume caps.range⟩ ++
            (exec ⟨pattern, template⟩ (haystack.drop (Matches.resume caps.range))).value
        else [])
  warnings : ∀ caps, (pattern.execute haystack 0 template.wantGroups).value = some caps →
    pattern.warnings (exec ⟨pattern, template⟩ haystack).searches =
      if Matches.resume caps.range ≤ haystack.length then
        pattern.warnings
          (exec ⟨pattern, template⟩ (haystack.drop (Matches.resume caps.range))).searches
      else []

/-- The walks and substitutions of a sound pattern go on behind each match as if the haystack began
there, if no group wraps when it is counted from the start of the haystack. -/
theorem composed_of_sound (hsound : pattern.Sound) (template : Template) (haystack : Bytes)
    (hfits : ∀ want, pattern.FitsIn haystack want) : Composed pattern template haystack where
  behind _ _ := Matches.resume_cases hsound
  missed _ := Matches.start_all_of_execute_eq_none
  matched want _ := Matches.start_all_of_execute_eq_some hsound (hfits want)
  unchanged := exec_of_execute_eq_none
  changed _ := exec_of_execute_eq_some hsound (hfits _)
  warnings _ := warnings_exec_of_execute_eq_some hsound (hfits _)

/-- The references of a text, each of them put in parentheses. -/
theorem composed_of_sound_references :
    Reference.pattern.Sound ∧
      (∀ want, Reference.pattern.FitsIn ("a$1\\$$2b".toList.map ascii) want) ∧
      Composed Reference.pattern (.parse (.ofString "($0)")) ("a$1\\$$2b".toList.map ascii) :=
  have hfits := Reference.pattern_contained.fitsIn ("a$1\\$$2b".toList.map ascii)
  ⟨Reference.pattern_sound, hfits, composed_of_sound Reference.pattern_sound _ _ hfits⟩

/-- A program that matches each byte, with a group that starts at the last position of all. -/
def farGroup : Program where
  groupLen := 2
  execute := fun subject _ =>
    .ok (if subject = [] then none else some ⟨[some ⟨0, 1⟩, some ⟨everyGroup, 1⟩]⟩)

/-- Moved by one byte the far group starts at the front, and has a text that it has nowhere in the
rest of the haystack alone. -/
theorem not_composed_farGroup :
    farGroup.Sound ∧
      ¬ Composed ⟨"x", .extended, some ⟨farGroup, [], "x"⟩⟩ (.parse (.ofString "$1"))
        [ascii 'a', ascii 'b'] := by
  constructor
  · intro subject want caps hexecute
    simp only [farGroup, Except.ok.injEq, ite_eq_iff, reduceCtorEq, and_false, false_or,
      Option.some.injEq] at hexecute
    obtain ⟨hne, rfl⟩ := hexecute
    exact ⟨⟨0, 1⟩, rfl, Nat.zero_le 1, List.length_pos_iff.mpr hne⟩
  · intro hcomposed
    have hchanged := hcomposed.changed ⟨[some ⟨0, 1⟩, some ⟨everyGroup, 1⟩]⟩ rfl
    revert hchanged
    decide

end Substitution

end BytePattern
