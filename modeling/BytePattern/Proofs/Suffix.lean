/-
What follows the first match of a haystack is what would be found in the rest of the haystack alone,
moved to the right.  The same holds of substitutions.
-/
import BytePattern.Proofs.Walk

namespace BytePattern

theorem Matches.resume_shift (span : Span) (offset : Nat) :
    resume (span.shift offset) = resume span + offset := by
  unfold resume
  rw [Span.isEmpty_shift, Span.shift_stop]
  split <;> omega

theorem Span.within_shift_iff {span : Span} {offset length : Nat} (hoffset : offset ≤ length) :
    (span.shift offset).Within length ↔ span.Within (length - offset) := by
  simp only [Within, shift_start, shift_stop]
  omega

/-- What the program of the pattern finds behind any offset of the haystack can be counted from the
start of the haystack without wrapping. -/
def Pattern.FitsIn (pattern : Pattern) (haystack : Bytes) (want : Nat) : Prop :=
  ∀ compiled, pattern.compiled = some compiled → ∀ offset ≤ haystack.length, ∀ caps,
    compiled.program.execute (haystack.drop offset) want = .ok (some caps) →
      caps.Fits haystack.positions offset

/-- What lies inside the subject of its search always fits. -/
theorem Pattern.Contained.fitsIn {pattern : Pattern} (hcontained : pattern.Contained)
    (haystack : Bytes) (want : Nat) : pattern.FitsIn haystack want := by
  intro compiled hcompiled offset hoffset caps hexecute index span hspan
  have hwithin := (hcontained compiled hcompiled _ _ _ hexecute).within hspan
  rw [List.length_drop] at hwithin
  exact Span.fits_of_within hoffset hwithin

theorem Captures.Fits.of_add {caps : Captures} {count count' pos offset : Nat}
    (hfits : caps.Fits count (pos + offset)) (hcount : count - offset ≤ count') :
    caps.Fits count' pos := by
  intro index span hspan
  have hspan := hfits index span hspan
  simp only [Span.Fits] at hspan ⊢
  omega

namespace Bytes

theorem slice_shift (haystack : Bytes) (span : Span) (offset : Nat) :
    haystack.slice (span.shift offset) = slice (haystack.drop offset) span := by
  rw [slice, slice, List.drop_drop, Span.shift_start, Span.shift_stop, Nat.add_sub_add_right,
    Nat.add_comm offset]

theorem text?_shift {haystack : Bytes} (span : Span) {offset : Nat}
    (hoffset : offset ≤ haystack.length) :
    haystack.text? (span.shift offset) = text? (haystack.drop offset) span := by
  simp only [text?, Span.within_shift_iff hoffset, List.length_drop, slice_shift]

/-- Exchanging spans behind a place leaves what stands before it. -/
theorem splice_eq_slice_append {haystack : Bytes} {pos last mid : Nat}
    {edits : List (Span × Bytes)}
    (hspans : Span.Ascending haystack.length pos (edits.map Prod.fst)) (hlast : last ≤ mid)
    (hmid : mid ≤ pos) :
    haystack.splice last edits = haystack.slice ⟨last, mid⟩ ++ haystack.splice mid edits := by
  cases edits with
  | nil => exact (slice_append_drop haystack hlast).symm
  | cons edit rest =>
      obtain ⟨span, text⟩ := edit
      cases hspans with
      | cons hstart =>
          have hcut : haystack.slice ⟨last, span.start⟩ =
              haystack.slice ⟨last, mid⟩ ++ haystack.slice ⟨mid, span.start⟩ := by
            simp only [slice]
            rw [← Nat.sub_add_sub_cancel (Nat.le_trans hmid hstart) hlast, Nat.add_comm,
              List.take_add, List.drop_drop, Nat.add_sub_of_le hlast]
          rw [splice, splice, hcut, List.append_assoc]

/-- Exchanging spans behind an offset is exchanging them in what is left of the haystack. -/
theorem splice_shift (haystack : Bytes) (offset last : Nat) (edits : List (Span × Bytes)) :
    haystack.splice (last + offset) (edits.map fun edit => (edit.1.shift offset, edit.2)) =
      splice (haystack.drop offset) last edits := by
  induction edits generalizing last with
  | nil => rw [List.map_nil, splice, splice, List.drop_drop, Nat.add_comm]
  | cons edit rest ih =>
      have hgap := haystack.slice_shift ⟨last, edit.1.start⟩ offset
      rw [List.map_cons, splice, splice, ← hgap, ← ih]
      rfl

end Bytes

theorem Captures.text?_shift {haystack : Bytes} (caps : Captures) {offset : Nat} (index : Nat)
    (hoffset : offset ≤ haystack.length) :
    (caps.shift offset).text? haystack index = caps.text? (haystack.drop offset) index := by
  rw [text?, text?, group_shift]
  cases caps.group index with
  | none => rfl
  | some span => exact Bytes.text?_shift span hoffset

theorem Template.expansion_shift (template : Template) {haystack : Bytes} (caps : Captures)
    {offset : Nat} (hoffset : offset ≤ haystack.length) :
    template.expansion haystack (caps.shift offset) =
      template.expansion (haystack.drop offset) caps := by
  have hkind (kind : ReferenceKind) :
      expandKind haystack (caps.shift offset) kind =
        expandKind (haystack.drop offset) caps kind := by
    simp only [expandKind, caps.text?_shift _ hoffset]
  simp only [expansion, hkind]

/-- The spans of matches beside what the template makes of them. -/
def Template.edits (template : Template) (haystack : Bytes) (found : List Captures) :
    List (Span × Bytes) :=
  found.map fun caps => (caps.range, template.expansion haystack caps)

theorem Template.edits_shift (template : Template) {haystack : Bytes} {found : List Captures}
    {offset : Nat} (hoffset : offset ≤ haystack.length)
    (hgroup : ∀ caps ∈ found, caps.group 0 = some caps.range) :
    template.edits haystack (found.map (·.shift offset)) =
      (template.edits (haystack.drop offset) found).map
        fun edit => (edit.1.shift offset, edit.2) := by
  rw [edits, edits, List.map_map, List.map_map]
  refine List.map_congr_left fun caps hmem => ?_
  simp only [Function.comp_apply, Captures.range_shift _ (hgroup caps hmem),
    template.expansion_shift _ hoffset]

/-- Exchanging a match and those behind it goes on as in the rest of the haystack alone. -/
theorem Template.splice_edits_cons (template : Template) {haystack : Bytes} {caps : Captures}
    {found : List Captures} {offset : Nat}
    (hspans : Span.Ascending haystack.length offset
      ((found.map (·.shift offset)).map Captures.range))
    (hgroup : ∀ caps ∈ found, caps.group 0 = some caps.range)
    (hstop : caps.range.stop ≤ offset) (hoffset : offset ≤ haystack.length) :
    haystack.splice 0 (template.edits haystack (caps :: found.map (·.shift offset))) =
      haystack.take caps.range.start ++ (template.expansion haystack caps ++
        (haystack.slice ⟨caps.range.stop, offset⟩ ++
          Bytes.splice (haystack.drop offset) 0
            (template.edits (haystack.drop offset) found))) := by
  have hfirst : Span.Ascending haystack.length offset
      ((template.edits haystack (found.map (·.shift offset))).map Prod.fst) := by
    rw [edits, List.map_map]
    exact hspans
  have hrest := haystack.splice_shift offset 0 (template.edits (haystack.drop offset) found)
  rw [← template.edits_shift hoffset hgroup, Nat.zero_add] at hrest
  rw [← hrest, ← Bytes.splice_eq_slice_append hfirst hstop (Nat.le_refl offset)]
  rfl

namespace Matches

/-- The walk over what a haystack holds from an offset on, as a walk over the haystack. -/
def placed (walk : Matches) (haystack : Bytes) (offset : Nat) : Matches :=
  { walk with haystack := haystack, pos := walk.pos + offset }

/-- The matches and searches of a walk, moved to the right. -/
def shiftRun (run : Traced (List Captures)) (offset : Nat) : Traced (List Captures) :=
  run.map (List.map (·.shift offset))

section Placed

variable {walk : Matches} {haystack : Bytes} {offset : Nat}

theorem search_placed (hhaystack : walk.haystack = haystack.drop offset) (compiled : Compiled) :
    (walk.placed haystack offset).search compiled = walk.search compiled := by
  simp only [search, placed, hhaystack, List.drop_drop, List.length_drop, Nat.add_comm offset,
    Nat.sub_sub]

theorem advance_placed (hhaystack : walk.haystack = haystack.drop offset)
    (hoffset : offset ≤ haystack.length) {caps : Captures} {span : Span}
    (hspan : caps.group 0 = some span) :
    (walk.placed haystack offset).advance (caps.shift offset) =
      (walk.advance caps).placed haystack offset := by
  have hover : haystack.length < resume span + offset ↔
      (haystack.drop offset).length < resume span := by
    rw [List.length_drop]
    omega
  simp only [advance, placed, Captures.range_shift offset hspan, Captures.range_eq_of_group hspan,
    resume_shift, hhaystack, hover]

/-- What a walk finds lies to the right of where it was in the rest of the haystack. -/
theorem place_placed (hhaystack : walk.haystack = haystack.drop offset) {caps : Captures}
    (hfits : caps.Fits haystack.positions (walk.pos + offset)) :
    (walk.placed haystack offset).place caps = (walk.place caps).shift offset := by
  have hrest : caps.Fits walk.haystack.positions walk.pos :=
    hfits.of_add (hhaystack ▸ haystack.positions_sub_le offset)
  rw [place, place, Captures.wrap_of_fits hrest, Captures.shift_shift]
  exact Captures.wrap_of_fits hfits

/-- A walk placed in a larger haystack makes the same searches and meets the same matches. -/
theorem next_placed (hhaystack : walk.haystack = haystack.drop offset)
    (hoffset : offset ≤ haystack.length) (hsound : walk.pattern.Sound)
    (hfits : walk.pattern.FitsIn haystack walk.want) (hrange : walk.InRange) :
    (walk.placed haystack offset).next =
      (⟨walk.next.1.value.map (·.shift offset), walk.next.1.searches⟩,
        walk.next.2.placed haystack offset) := by
  cases hdone : walk.done with
  | true =>
      have hdone' : (walk.placed haystack offset).done = true := hdone
      rw [next_of_done hdone, next_of_done hdone']
      rfl
  | false =>
      have hdone' : (walk.placed haystack offset).done = false := hdone
      cases hcompiled : walk.pattern.compiled with
      | none =>
          have hcompiled' : (walk.placed haystack offset).pattern.compiled = none := hcompiled
          rw [next_of_absent hdone hcompiled, next_of_absent hdone' hcompiled']
          rfl
      | some compiled =>
          have hcompiled' : (walk.placed haystack offset).pattern.compiled = some compiled :=
            hcompiled
          have hinside : walk.pos + offset ≤ haystack.length := by
            have hpos := hrange hdone
            rw [hhaystack, List.length_drop] at hpos
            omega
          have hrange' : (walk.placed haystack offset).InRange := fun _ => hinside
          rw [next_of_compiled hrange hdone hcompiled,
            next_of_compiled hrange' hdone' hcompiled', search_placed hhaystack]
          cases hfound : (walk.search compiled).found with
          | none => rfl
          | some caps =>
              have houtcome := Search.found_eq_some_iff.mp hfound
              obtain ⟨span, hspan, hwithin⟩ := hsound compiled hcompiled _ _ _ houtcome
              rw [List.length_drop] at hwithin
              have hplaced : (walk.place caps).group 0 = some (span.shift walk.pos) :=
                Captures.group_wrap_of_fits hspan (Span.fits_of_within (hrange hdone) hwithin)
              have hcaps : caps.Fits haystack.positions (walk.pos + offset) := by
                apply hfits compiled hcompiled _ hinside
                rw [Nat.add_comm, ← List.drop_drop, ← hhaystack]
                exact houtcome
              simp only [place_placed hhaystack hcaps, Option.map_some,
                advance_placed hhaystack hoffset hplaced]

theorem Yields.placed {run : Traced (List Captures)} (hyields : walk.Yields run)
    (hhaystack : walk.haystack = haystack.drop offset) (hoffset : offset ≤ haystack.length)
    (hsound : walk.pattern.Sound) (hfits : walk.pattern.FitsIn haystack walk.want)
    (hrange : walk.InRange) : (walk.placed haystack offset).Yields (shiftRun run offset) := by
  induction hyields with
  | ended walk hnone =>
      have hnext := next_placed hhaystack hoffset hsound hfits hrange
      have hended := Yields.ended (walk.placed haystack offset) (by rw [hnext, hnone]; rfl)
      rwa [hnext] at hended
  | matched walk caps run hsome hrest ih =>
      have hnext := next_placed hhaystack hoffset hsound hfits hrange
      have hfits' : walk.next.2.pattern.FitsIn haystack walk.next.2.want := by
        rwa [next_pattern hrange, (next_want hrange).1]
      have htail := ih ((next_haystack hrange).trans hhaystack)
        ((next_pattern hrange).symm ▸ hsound) hfits' (next_inRange hrange)
      have hmatched := Yields.matched (walk.placed haystack offset) (caps.shift offset)
        (shiftRun run offset) (by rw [hnext, hsome]; rfl) (by rw [hnext]; exact htail)
      rwa [hnext] at hmatched

end Placed

section Start

variable {pattern : Pattern} {compiled : Compiled} {haystack : Bytes} {want : Nat}

theorem start_done (hcompiled : pattern.compiled = some compiled) :
    (start pattern haystack want).done = false := by
  simp [start, Pattern.isCompiled, hcompiled]

theorem start_all_of_absent (hcompiled : pattern.compiled = none) :
    (start pattern haystack want).all = ⟨[], []⟩ := by
  have hdone : (start pattern haystack want).done = true := by
    simp [start, Pattern.isCompiled, hcompiled]
  rw [all, take_of_done hdone]

/-- A search of a whole haystack is the first search of a walk over it. -/
theorem execute_eq_search (hcompiled : pattern.compiled = some compiled) :
    pattern.execute haystack 0 want =
      ⟨((start pattern haystack want).search compiled).found,
        [(start pattern haystack want).search compiled]⟩ := by
  rw [Pattern.execute_eq_of_compiled want hcompiled (Nat.zero_le _)]
  simp only [Captures.wrap_zero, Option.map_id_fun', id]
  rfl

/-- Where the first search finds nothing there are no matches. -/
theorem start_all_of_missed (hcompiled : pattern.compiled = some compiled)
    (hfound : ((start pattern haystack want).search compiled).found = none) :
    (start pattern haystack want).all =
      ⟨[], [(start pattern haystack want).search compiled]⟩ := by
  rw [all, take_succ, next_of_compiled (start_inRange pattern haystack want)
    (start_done hcompiled) hcompiled, hfound]

theorem start_all_of_found {caps : Captures} (hcompiled : pattern.compiled = some compiled)
    (hfound : ((start pattern haystack want).search compiled).found = some caps) :
    (start pattern haystack want).all =
      let rest := ((start pattern haystack want).advance caps).take haystack.length
      ⟨caps :: rest.value, (start pattern haystack want).search compiled :: rest.searches⟩ := by
  have hpos : (start pattern haystack want).place caps = caps := rfl
  rw [all, take_succ, next_of_compiled (start_inRange pattern haystack want)
    (start_done hcompiled) hcompiled, hfound]
  simp only [hpos]
  rfl

/-- Behind the first match come the matches of the rest, moved to the right. -/
theorem start_all_of_matched {caps : Captures} (hsound : pattern.Sound)
    (hfits : pattern.FitsIn haystack want) (hcompiled : pattern.compiled = some compiled)
    (hfound : ((start pattern haystack want).search compiled).found = some caps)
    (hresume : resume caps.range ≤ haystack.length) :
    (start pattern haystack want).all =
      let rest := shiftRun (start pattern (haystack.drop (resume caps.range)) want).all
        (resume caps.range)
      ⟨caps :: rest.value, (start pattern haystack want).search compiled :: rest.searches⟩ := by
  have hcaps := Search.found_eq_some_iff.mp hfound
  obtain ⟨span, hspan, hforward, _⟩ := hsound compiled hcompiled _ _ _ hcaps
  have hpositive := start_lt_resume hforward
  rw [← Captures.range_eq_of_group hspan] at hpositive
  have hadvance : (start pattern haystack want).advance caps =
      (start pattern (haystack.drop (resume caps.range)) want).placed haystack
        (resume caps.range) := by
    simp only [advance, start, placed, Pattern.isCompiled, hcompiled, Nat.zero_add,
      Option.isSome_some, Bool.not_true, decide_eq_false_iff_not.mpr (Nat.not_lt.mpr hresume)]
  have hyields : (start pattern (haystack.drop (resume caps.range)) want).Yields _ :=
    yields_all hsound (start_inRange _ _ _)
  have hplaced := hyields.placed rfl hresume hsound hfits (start_inRange _ _ _)
  have hroom : ((start pattern (haystack.drop (resume caps.range)) want).placed haystack
      (resume caps.range)).room ≤ haystack.length := by
    unfold room
    split
    · exact Nat.zero_le _
    · simp only [placed, start]
      omega
  rw [start_all_of_found hcompiled hfound, hadvance]
  rw [hplaced.take_eq hsound (hadvance ▸ advance_inRange _ _) hroom]

/-- Nothing comes behind an empty match at the end. -/
theorem start_all_of_matched_at_end {caps : Captures}
    (hcompiled : pattern.compiled = some compiled)
    (hfound : ((start pattern haystack want).search compiled).found = some caps)
    (hresume : haystack.length < resume caps.range) :
    (start pattern haystack want).all =
      ⟨[caps], [(start pattern haystack want).search compiled]⟩ := by
  have hdone : ((start pattern haystack want).advance caps).done = true :=
    decide_eq_true hresume
  rw [start_all_of_found hcompiled hfound, take_of_done hdone]

end Start

end Matches

namespace Substitution

variable {substitution : Substitution} {compiled : Compiled} {haystack : Bytes}

/-- The first search of a substitution. -/
def firstSearch (substitution : Substitution) (compiled : Compiled) (haystack : Bytes) : Search :=
  (Matches.start substitution.pattern haystack substitution.template.wantGroups).search compiled

theorem exec_of_missed (hcompiled : substitution.pattern.compiled = some compiled)
    (hfound : (substitution.firstSearch compiled haystack).found = none) :
    (substitution.exec haystack).value = haystack := by
  simp [exec, Matches.start_all_of_missed hcompiled hfound, Bytes.splice]

/-- Behind the first match the substitution goes on as in the rest of the haystack alone. -/
theorem exec_of_matched {caps : Captures} (hsound : substitution.pattern.Sound)
    (hfits : substitution.pattern.FitsIn haystack substitution.template.wantGroups)
    (hcompiled : substitution.pattern.compiled = some compiled)
    (hfound : (substitution.firstSearch compiled haystack).found = some caps)
    (hresume : Matches.resume caps.range ≤ haystack.length) :
    (substitution.exec haystack).value =
      haystack.take caps.range.start ++ (substitution.template.expansion haystack caps ++
        (haystack.slice ⟨caps.range.stop, Matches.resume caps.range⟩ ++
          (substitution.exec (haystack.drop (Matches.resume caps.range))).value)) := by
  have hall := Matches.start_all_of_matched hsound hfits hcompiled hfound hresume
  have hspans := Matches.start_take_ascending hsound haystack substitution.template.wantGroups
    (haystack.length + 1)
  change haystack.splice 0 (substitution.template.edits haystack
    (Matches.start _ _ _).all.value) = _
  change Span.Ascending _ _ ((Matches.start _ _ _).all.value.map Captures.range) at hspans
  rw [hall] at hspans ⊢
  cases hspans with
  | cons _ _ hrest =>
      exact substitution.template.splice_edits_cons hrest
        (fun _ hmem => Matches.start_take_group_zero hsound hmem)
        (Matches.stop_le_resume caps.range) hresume

/-- Behind an empty match at the end nothing is left. -/
theorem exec_of_matched_at_end {caps : Captures} (hsound : substitution.pattern.Sound)
    (hcompiled : substitution.pattern.compiled = some compiled)
    (hfound : (substitution.firstSearch compiled haystack).found = some caps)
    (hresume : haystack.length < Matches.resume caps.range) :
    (substitution.exec haystack).value =
      haystack.take caps.range.start ++ substitution.template.expansion haystack caps := by
  obtain ⟨span, hspan, hwithin⟩ :=
    hsound compiled hcompiled _ _ _ (Search.found_eq_some_iff.mp hfound)
  rw [← Captures.range_eq_of_group hspan] at hwithin
  have hstop : haystack.length ≤ caps.range.stop := by
    unfold Matches.resume at hresume
    split at hresume <;> omega
  change haystack.splice 0 (substitution.template.edits haystack
    (Matches.start _ _ _).all.value) = _
  rw [Matches.start_all_of_matched_at_end hcompiled hfound hresume]
  change haystack.slice ⟨0, caps.range.start⟩ ++
    (substitution.template.expansion haystack caps ++ haystack.drop caps.range.stop) = _
  rw [List.drop_of_length_le hstop, List.append_nil]
  rfl

end Substitution

end BytePattern
