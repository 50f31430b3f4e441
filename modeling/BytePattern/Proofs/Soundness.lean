/-
Programs that report, with every match, where it lies, and programs that report no group outside of
it.  The pattern of references has such a program.
-/
import BytePattern.Template

namespace BytePattern

/-- With every match the program reports the whole match, inside the subject. -/
def Program.Sound (program : Program) : Prop :=
  ∀ subject want caps, program.execute subject want = .ok (some caps) →
    ∃ span, caps.group 0 = some span ∧ span.Within subject.length

/-- The program of the pattern is sound.  An absent pattern has none. -/
def Pattern.Sound (pattern : Pattern) : Prop :=
  ∀ compiled, pattern.compiled = some compiled → compiled.program.Sound

/-- Captures whose whole match lies in a subject, and whose groups lie in that. -/
structure Captures.Inside (size : Nat) (caps : Captures) : Prop where
  whole : ∃ span, caps.group 0 = some span ∧ span.Within size
  groups : ∀ index span, caps.group index = some span →
    caps.range.start ≤ span.start ∧ span.start ≤ span.stop ∧ span.stop ≤ caps.range.stop

/-- The program reports nothing that lies outside of a match, or outside of the subject. -/
def Program.Contained (program : Program) : Prop :=
  ∀ subject want caps, program.execute subject want = .ok (some caps) →
    caps.Inside subject.length

theorem Program.Contained.sound {program : Program} (hcontained : program.Contained) :
    program.Sound :=
  fun subject want caps hexecute => (hcontained subject want caps hexecute).whole

/-- The program of the pattern reports nothing outside of its matches. -/
def Pattern.Contained (pattern : Pattern) : Prop :=
  ∀ compiled, pattern.compiled = some compiled → compiled.program.Contained

theorem Pattern.Contained.sound {pattern : Pattern} (hcontained : pattern.Contained) :
    pattern.Sound :=
  fun compiled hcompiled => (hcontained compiled hcompiled).sound

namespace Captures

theorem range_eq_of_group {caps : Captures} {span : Span} (hspan : caps.group 0 = some span) :
    caps.range = span := by
  simp [range, hspan]

theorem group_shift_of_group {caps : Captures} {span : Span} {index : Nat} (offset : Nat)
    (hspan : caps.group index = some span) :
    (caps.shift offset).group index = some (span.shift offset) := by
  simp [group_shift, hspan]

theorem range_shift {caps : Captures} {span : Span} (offset : Nat)
    (hspan : caps.group 0 = some span) : (caps.shift offset).range = span.shift offset :=
  range_eq_of_group (group_shift_of_group offset hspan)

theorem shift_shift (caps : Captures) (i j : Nat) :
    (caps.shift i).shift j = caps.shift (i + j) := by
  simp only [shift, List.map_map, Captures.mk.injEq]
  congr 1
  funext group
  cases group with
  | none => rfl
  | some span => simp [Span.shift_shift]

@[simp] theorem shift_zero (caps : Captures) : caps.shift 0 = caps := by
  simp [shift]

theorem Inside.within {caps : Captures} {size : Nat} (hinside : caps.Inside size) {index : Nat}
    {span : Span} (hspan : caps.group index = some span) : span.Within size := by
  obtain ⟨whole, hwhole, _, hsize⟩ := hinside.whole
  obtain ⟨_, hforward, hstop⟩ := hinside.groups index span hspan
  rw [range_eq_of_group hwhole] at hstop
  exact ⟨hforward, Nat.le_trans hstop hsize⟩

theorem Inside.shift {caps : Captures} {size : Nat} (hinside : caps.Inside size) (offset : Nat) :
    (caps.shift offset).Inside (size + offset) := by
  obtain ⟨whole, hwhole, hforward, hsize⟩ := hinside.whole
  have hrange := range_shift offset hwhole
  constructor
  · exact ⟨_, group_shift_of_group offset hwhole, Nat.add_le_add_right hforward offset,
      Nat.add_le_add_right hsize offset⟩
  · intro index span hspan
    rw [group_shift] at hspan
    obtain ⟨found, hfound, rfl⟩ := Option.map_eq_some_iff.mp hspan
    have hgroup := hinside.groups index found hfound
    rw [range_eq_of_group hwhole] at hgroup
    rw [hrange]
    simp only [Span.shift_start, Span.shift_stop]
    omega

theorem Inside.truncate {size : Nat} {caps : Captures} (hinside : caps.Inside size)
    {want : Nat} (hwant : 0 < want) : (caps.truncate want).Inside size := by
  have hrange : (caps.truncate want).range = caps.range := by
    rw [range, group_truncate, if_pos hwant, range]
  constructor
  · rw [group_truncate, if_pos hwant]
    exact hinside.whole
  · intro index span hspan
    rw [hrange]
    rw [group_truncate] at hspan
    exact hinside.groups index span (Option.ite_none_right_eq_some.mp hspan).2

theorem Inside.mono {caps : Captures} {size size' : Nat} (hinside : caps.Inside size)
    (hsize : size ≤ size') : caps.Inside size' where
  whole := by
    obtain ⟨whole, hwhole, hwithin⟩ := hinside.whole
    exact ⟨whole, hwhole, hwithin.1, Nat.le_trans hwithin.2 hsize⟩
  groups := hinside.groups

/-- A group that fits is moved to the right. -/
theorem group_wrap_of_fits {caps : Captures} {span : Span} {count offset index : Nat}
    (hspan : caps.group index = some span) (hfits : span.Fits count offset) :
    (caps.wrap count offset).group index = some (span.shift offset) := by
  by_cases hoffset : offset = 0
  · subst hoffset
    exact hspan
  · rw [group_wrap _ _ _ hoffset, hspan, Option.map_some, Span.wrap_of_fits hfits]

/-- Captures that fit are moved to the right. -/
theorem wrap_of_fits {caps : Captures} {count offset : Nat} (hfits : caps.Fits count offset) :
    caps.wrap count offset = caps.shift offset := by
  apply ext_group
  · simp
  · intro index _
    rw [group_shift]
    cases hspan : caps.group index with
    | none =>
        by_cases hoffset : offset = 0
        · simp [hoffset, hspan]
        · rw [group_wrap _ _ _ hoffset, hspan]
          rfl
    | some span => exact group_wrap_of_fits hspan (hfits index span hspan)

end Captures

/-- What lies inside the rest of a haystack fits where the rest begins. -/
theorem Span.fits_of_within {span : Span} {haystack : Bytes} {offset : Nat}
    (hoffset : offset ≤ haystack.length) (hwithin : span.Within (haystack.length - offset)) :
    span.Fits haystack.positions offset := by
  have hlength := haystack.length_lt_positions
  simp only [Within, Fits] at hwithin ⊢
  omega

namespace Program

/-- The first match is at the first position where there is one. -/
theorem firstMatch_eq (matchAt : Bool → Bytes → Option Captures) (pos : Nat) (subject : Bytes) :
    firstMatch matchAt pos subject =
      (List.range (subject.length + 1)).findSome? fun skipped =>
        (matchAt (pos + skipped == 0) (subject.drop skipped)).map (·.shift (pos + skipped)) := by
  induction subject generalizing pos with
  | nil =>
      rw [firstMatch, List.length_nil, List.range_one, List.findSome?_singleton, List.drop_nil]
      cases matchAt (pos == 0) [] <;> rfl
  | cons byte rest ih =>
      rw [firstMatch, List.length_cons, List.range_succ_eq_map, List.findSome?_cons,
        List.findSome?_map, List.drop_zero, Nat.add_zero]
      cases matchAt (pos == 0) (byte :: rest) with
      | some caps => rfl
      | none =>
          simp only [ih, Option.map_none, Function.comp_def, List.drop_succ_cons,
            Nat.add_right_comm pos 1, Nat.add_succ]

/-- Where the leftmost match starts, the matcher succeeded. -/
theorem exists_of_firstMatch {matchAt : Bool → Bytes → Option Captures} {subject : Bytes}
    {pos : Nat} {caps : Captures} (hfirst : firstMatch matchAt pos subject = some caps) :
    ∃ skipped found, skipped ≤ subject.length ∧
      matchAt (pos + skipped == 0) (subject.drop skipped) = some found ∧
      caps = found.shift (pos + skipped) := by
  rw [firstMatch_eq] at hfirst
  obtain ⟨skipped, hmem, hskipped⟩ := List.exists_of_findSome?_eq_some hfirst
  obtain ⟨found, hfound, rfl⟩ := Option.map_eq_some_iff.mp hskipped
  exact ⟨skipped, found, Nat.le_of_lt_succ (List.mem_range.mp hmem), hfound, rfl⟩

/-- The search for the leftmost match reports nothing outside of it if the matcher does not. -/
theorem leftmost_contained {groupLen : Nat} {matchAt : Bool → Bytes → Option Captures}
    (hmatch : ∀ atStart subject caps, matchAt atStart subject = some caps →
      caps.Inside subject.length) :
    (leftmost groupLen matchAt).Contained := by
  intro subject want caps hexecute
  simp only [leftmost, Except.ok.injEq] at hexecute
  obtain ⟨all, hfirst, rfl⟩ := Option.map_eq_some_iff.mp hexecute
  obtain ⟨skipped, found, hle, hfound, rfl⟩ := exists_of_firstMatch hfirst
  have hinside := (hmatch _ _ _ hfound).shift (0 + skipped)
  rw [List.length_drop] at hinside
  have hsize : subject.length - skipped + (0 + skipped) ≤ subject.length := by omega
  exact (hinside.mono hsize).truncate (by omega)

/-- Where every group is wanted the first match is reported as it is. -/
theorem leftmost_execute {groupLen want : Nat} {matchAt : Bool → Bytes → Option Captures}
    (hwant : ∀ atStart subject caps, matchAt atStart subject = some caps →
      caps.groupLen ≤ max 1 want) (subject : Bytes) :
    (leftmost groupLen matchAt).execute subject want = .ok (firstMatch matchAt 0 subject) := by
  simp only [leftmost]
  cases hfirst : firstMatch matchAt 0 subject with
  | none => rfl
  | some caps =>
      obtain ⟨skipped, found, _, hfound, rfl⟩ := exists_of_firstMatch hfirst
      have hlength : (found.shift (0 + skipped)).groupLen ≤ max 1 want := by
        rw [Captures.groupLen_shift]
        exact hwant _ _ _ hfound
      rw [Option.map_some, Captures.truncate_of_groupLen_le hlength]

end Program

namespace Reference

/-- A reference is no longer than the text it is read from. -/
theorem length_le_of_lengthAt {subject : Bytes} {length : Nat}
    (hlength : lengthAt subject = some length) : length ≤ subject.length := by
  unfold lengthAt at hlength
  split at hlength
  · next first rest =>
    split at hlength
    · split at hlength
      · next hhead =>
        obtain ⟨tail, rfl⟩ := List.head?_eq_some_iff.mp hhead
        obtain rfl := Option.some.inj hlength
        simp
      · simp at hlength
    · split at hlength
      · split at hlength
        · simp at hlength
        · next second more =>
          have hdigits := (List.takeWhile_prefix isDigitByte (l := more)).length_le
          split at hlength
          · simp only [Option.ite_none_right_eq_some, Option.some.injEq] at hlength
            obtain ⟨⟨_, hhead⟩, rfl⟩ := hlength
            obtain ⟨tail, htail⟩ := List.head?_eq_some_iff.mp hhead
            have := congrArg List.length htail
            simp only [List.length_drop, List.length_cons] at this ⊢
            omega
          · have hrest := (List.takeWhile_prefix isDigitByte (l := second :: more)).length_le
            simp only [Option.ite_none_right_eq_some, Option.some.injEq] at hlength
            obtain ⟨_, rfl⟩ := hlength
            simp only [List.length_cons] at hrest ⊢
            omega
      · simp at hlength
  · simp at hlength

theorem pattern_contained : pattern.Contained := by
  intro compiled hcompiled
  obtain rfl := Option.some.inj hcompiled
  apply Program.leftmost_contained
  intro atStart subject caps hmatch
  obtain ⟨length, hlength, rfl⟩ := Option.map_eq_some_iff.mp hmatch
  refine ⟨⟨_, rfl, Nat.zero_le _, length_le_of_lengthAt hlength⟩, ?_⟩
  intro index span hspan
  cases index with
  | zero =>
      obtain rfl := Option.some.inj hspan
      exact ⟨Nat.le_refl _, Nat.zero_le _, Nat.le_refl _⟩
  | succ index => contradiction

theorem pattern_sound : pattern.Sound :=
  pattern_contained.sound

end Reference

end BytePattern
