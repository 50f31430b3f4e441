/-
Expanding a template gives what its text says, with every number read in full.  A number too large
for a word is cut, but never to that of a group there is, and no group beyond those a template asks
for is looked at.
-/
import BytePattern.Proofs.Agreement
import BytePattern.Proofs.Escaping

namespace BytePattern

/-- The text of a span is what stands between as much as its start and what is left behind it. -/
theorem Bytes.text?_eq_some_iff_append {haystack text : Bytes} {span : Span} :
    haystack.text? span = some text ↔ ∃ before after, haystack = before ++ (text ++ after) ∧
      span = ⟨before.length, before.length + text.length⟩ := by
  constructor
  · intro htext
    obtain ⟨start, stop⟩ := span
    obtain ⟨⟨hforward, hinside⟩, rfl⟩ := text?_eq_some_iff.mp htext
    have hwhole := haystack.take_append_slice_append_drop hforward
    dsimp only at hforward hinside
    have hstart : (haystack.take start).length = start :=
      List.length_take_of_le (hforward.trans hinside)
    have hlength : (haystack.slice ⟨start, stop⟩).length = stop - start := by
      apply List.length_take_of_le
      rw [List.length_drop]
      exact Nat.sub_le_sub_right hinside start
    refine ⟨haystack.take start, haystack.drop stop, ?_, ?_⟩
    · rw [← List.append_assoc]
      exact hwhole.symm
    · rw [hstart, hlength, Nat.add_sub_of_le hforward]
  · rintro ⟨before, after, rfl, rfl⟩
    refine text?_eq_some_iff.mpr ⟨⟨Nat.le_add_right _ _, ?_⟩, ?_⟩
    · rw [List.length_append, List.length_append]
      exact Nat.add_le_add_left (Nat.le_add_right _ _) _
    · rw [slice, List.drop_left, Nat.add_sub_cancel_left, List.take_left]

namespace Captures

/-- What a reference to a group stands for: the group's text, and nothing if the group is not there,
is not set, or does not run forward inside the haystack. -/
inductive Gives (caps : Captures) (haystack : Bytes) (index : Nat) : Bytes → Prop where
  | text (before text after : Bytes) (hhaystack : haystack = before ++ (text ++ after))
      (hgroup : caps.groups[index]? =
        some (some ⟨before.length, before.length + text.length⟩)) :
      Gives caps haystack index text
  | nothing (hnone : ∀ span, caps.groups[index]? = some (some span) →
      ¬span.Within haystack.length) : Gives caps haystack index []

theorem group_eq_some_iff {caps : Captures} {index : Nat} {span : Span} :
    caps.group index = some span ↔ caps.groups[index]? = some (some span) :=
  Option.join_eq_some_iff

theorem gives_iff {caps : Captures} {haystack text : Bytes} {index : Nat} :
    caps.Gives haystack index text ↔ (caps.text? haystack index).getD [] = text := by
  constructor
  · intro hgives
    cases hgives with
    | text before text after hhaystack hgroup =>
        have htext := Bytes.text?_eq_some_iff_append.mpr ⟨before, after, hhaystack, rfl⟩
        rw [text?, group_eq_some_iff.mpr hgroup, Option.bind_some, htext]
        rfl
    | nothing hnone =>
        rw [text?]
        cases hgroup : caps.group index with
        | none => rfl
        | some span =>
            have houtside := hnone span (group_eq_some_iff.mp hgroup)
            rw [Option.bind_some, Bytes.text?, if_neg houtside]
            rfl
  · rintro rfl
    cases htext : caps.text? haystack index with
    | none =>
        refine .nothing fun span hgroup hwithin => ?_
        rw [text?, group_eq_some_iff.mpr hgroup, Option.bind_some,
          Bytes.text?_of_within hwithin] at htext
        contradiction
    | some text =>
        obtain ⟨span, hgroup, hspan⟩ := Option.bind_eq_some_iff.mp htext
        obtain ⟨before, after, hhaystack, rfl⟩ := Bytes.text?_eq_some_iff_append.mp hspan
        exact .text before text after hhaystack (group_eq_some_iff.mp hgroup)

/-- Groups are as few as a word can count, and so none is lost by cutting a number to a word. -/
theorem text?_min {caps : Captures} (hcount : caps.groupLen ≤ everyGroup) (haystack : Bytes)
    (index : Nat) : caps.text? haystack (min index everyGroup) = caps.text? haystack index := by
  rcases Nat.le_total index everyGroup with hindex | hindex
  · rw [Nat.min_eq_left hindex]
  · rw [Nat.min_eq_right hindex, text?, text?, group_of_groupLen_le hcount,
      group_of_groupLen_le (hcount.trans hindex)]

end Captures

namespace Reference

/-- Behind the digits and the closing brace of a reference the rest is left. -/
theorem drop_braced (digits rest : Bytes) :
    (digits ++ ascii '\x7d' :: rest).drop (digits.length + 1) = rest := by
  rw [List.drop_length_add_append]
  rfl

/-- The number that digits write, however large it is. -/
def value (digits : Bytes) : Nat :=
  Nat.ofDigits 10 (digits.reverse.map fun digit => digit.toNat - (ascii '0').toNat)

end Reference

namespace Template

/-- What a replacement text stands for, beside a match in a haystack. -/
inductive Expands (haystack : Bytes) (caps : Captures) : Bytes → Bytes → Prop where
  | ended : Expands haystack caps [] []
  | dollar {rest out : Bytes} (hrest : Expands haystack caps rest out) :
      Expands haystack caps (ascii '\\' :: ascii '$' :: rest) (ascii '$' :: out)
  /-- A bare number takes all the digits there are. -/
  | group {digits rest text out : Bytes} (hdigits : Reference.Digits digits)
      (hbehind : ∀ byte ∈ rest.head?, isDigitByte byte = false)
      (htext : caps.Gives haystack (Reference.value digits) text)
      (hrest : Expands haystack caps rest out) :
      Expands haystack caps (ascii '$' :: (digits ++ rest)) (text ++ out)
  | braced {digits rest text out : Bytes} (hdigits : Reference.Digits digits)
      (htext : caps.Gives haystack (Reference.value digits) text)
      (hrest : Expands haystack caps rest out) :
      Expands haystack caps (ascii '$' :: ascii '\x7b' :: (digits ++ ascii '\x7d' :: rest))
        (text ++ out)
  /-- A byte with which no reference begins stands for itself. -/
  | literal {byte : UInt8} {rest out : Bytes}
      (hnone : ∀ kind length, ¬Reference.Begins (byte :: rest) kind length)
      (hrest : Expands haystack caps rest out) :
      Expands haystack caps (byte :: rest) (byte :: out)

section Expands

variable {haystack : Bytes} {caps : Captures} (hcount : caps.groupLen ≤ everyGroup)

include hcount

/-- A group stands for the same by the number that is written and by the one that is kept. -/
theorem gives_value_iff {digits text : Bytes} :
    caps.Gives haystack (Reference.value digits) text ↔
      (caps.text? haystack (Reference.numeral digits)).getD [] = text := by
  rw [Captures.gives_iff, ← Captures.text?_min hcount]
  rfl

theorem expands_fill (text : Bytes) :
    Expands haystack caps text (Reference.fill (expandKind haystack caps) text) := by
  induction text using Reference.read_induction with
  | ended =>
      rw [Reference.fill_nil]
      exact .ended
  | taken text kind length hbegins ih =>
      rw [Reference.fill_of_begins _ hbegins]
      cases hbegins with
      | dollar rest => exact .dollar ih
      | group digits rest hdigits hbehind =>
          rw [List.drop_succ_cons, List.drop_left] at ih ⊢
          exact .group hdigits hbehind ((gives_value_iff hcount).mpr rfl) ih
      | braced digits rest hdigits =>
          rw [List.drop_succ_cons, List.drop_succ_cons, Reference.drop_braced] at ih ⊢
          exact .braced hdigits ((gives_value_iff hcount).mpr rfl) ih
  | passed byte rest hlength ih =>
      rw [Reference.fill_of_passed _ hlength]
      exact .literal (Reference.not_begins_iff.mpr hlength) ih

/-- A replacement text stands for what its references are filled in with, and nothing else. -/
theorem expands_iff {text out : Bytes} :
    Expands haystack caps text out ↔ Reference.fill (expandKind haystack caps) text = out := by
  constructor
  · intro hexpands
    induction hexpands with
    | ended => exact Reference.fill_nil _
    | @dollar rest out hrest ih =>
        rw [Reference.fill_of_begins _ (.dollar rest)]
        exact congrArg (ascii '$' :: ·) ih
    | @group digits rest text out hdigits hbehind htext hrest ih =>
        rw [Reference.fill_of_begins _ (.group digits rest hdigits hbehind),
          List.drop_succ_cons, List.drop_left, ih]
        exact congrArg (· ++ out) ((gives_value_iff hcount).mp htext)
    | @braced digits rest text out hdigits htext hrest ih =>
        rw [Reference.fill_of_begins _ (.braced digits rest hdigits), List.drop_succ_cons,
          List.drop_succ_cons, Reference.drop_braced, ih]
        exact congrArg (· ++ out) ((gives_value_iff hcount).mp htext)
    | literal hnone hrest ih =>
        rw [Reference.fill_of_passed _ (Reference.not_begins_iff.mp hnone), ih]
  · rintro rfl
    exact expands_fill hcount text

end Expands

/-- `expand` with every slice of the replacement text checked. -/
def expand? (template : Template) (haystack : Bytes) (caps : Captures) (buffer : Bytes) :
    Option Bytes :=
  (template.text.splice? 0 (template.references.map fun ref =>
    (ref.span, expandKind haystack caps ref.kind))).map (buffer ++ ·)

/-- No slice of a replacement text is out of bounds. -/
theorem expand?_parse (text haystack : Bytes) (caps : Captures) (buffer : Bytes) :
    (parse text).expand? haystack caps buffer =
      some ((parse text).expand haystack caps buffer) := by
  have hspans : Span.Ascending text.length 0 ((parse text).references.map (·.span)) := by
    rw [parse_references, Reference.read, List.map_map]
    exact Matches.start_take_ascending Reference.pattern_sound text everyGroup (text.length + 1)
  have hedits : Span.Ascending text.length 0 (((parse text).references.map fun ref =>
      (ref.span, expandKind haystack caps ref.kind)).map Prod.fst) := by
    rw [List.map_map]
    exact hspans
  have hsplice := Bytes.splice?_eq_some hedits (Nat.le_refl 0) (Nat.zero_le _)
  exact congrArg (Option.map (buffer ++ ·)) hsplice

/-- Groups beyond those that are asked for are not looked at. -/
theorem expansion_truncate {caps : Captures} (hcount : caps.groupLen ≤ everyGroup)
    (template : Template) (haystack : Bytes) :
    template.expansion haystack (caps.truncate template.wantGroups) =
      template.expansion haystack caps := by
  rcases Nat.lt_or_ge template.wantGroups everyGroup with hwant | hwant
  · apply expansion_congr
    intro index hindex
    rw [Captures.group_truncate, if_pos (lt_wantGroups hindex hwant)]
  · rw [Captures.truncate_of_groupLen_le (hcount.trans hwant)]

/-- What is appended to a buffer for a replacement text, beside a match in a haystack. -/
structure Appends (text haystack : Bytes) (caps : Captures) (buffer appended : Bytes) : Prop where
  expands_iff : ∀ out, Expands haystack caps text out ↔ out = appended
  expand_eq : (parse text).expand haystack caps buffer = buffer ++ appended
  /-- No slice on the way is out of bounds. -/
  checked : (parse text).expand? haystack caps buffer = some (buffer ++ appended)
  /-- A number that is cut to a word names no group. -/
  oversized : ∀ digits, everyGroup < Reference.value digits →
    caps.groupLen ≤ Reference.numeral digits
  /-- The groups from the number of those asked for on may as well be unset. -/
  truncated : (parse text).expand haystack (caps.truncate (parse text).wantGroups) buffer =
    buffer ++ appended

/-- Every replacement text is expanded to what it stands for, whatever the groups are, as long as a
word can count them. -/
theorem appends_parse (text haystack : Bytes) {caps : Captures} (buffer : Bytes)
    (hcount : caps.groupLen ≤ everyGroup) :
    ∃ appended, Appends text haystack caps buffer appended := by
  have hexpand : (parse text).expand haystack caps buffer =
      buffer ++ Reference.fill (expandKind haystack caps) text := by
    rw [expand, expansion_parse]
  refine ⟨Reference.fill (expandKind haystack caps) text, ?_, hexpand, ?_, ?_, ?_⟩
  · intro out
    rw [Template.expands_iff hcount]
    exact eq_comm
  · rw [expand?_parse, hexpand]
  · intro digits hdigits
    have hcut : Reference.numeral digits = everyGroup := Nat.min_eq_right (Nat.le_of_lt hdigits)
    rw [hcut]
    exact hcount
  · rw [expand, expansion_truncate hcount, ← expand, hexpand]

section Oversized

/-- An escaped dollar sign, a group in braces before a digit, one that is reversed, one beyond all
groups, one too large for a word, and the whole match. -/
def crowded : Bytes :=
  Bytes.ofString "\\$1$\x7b2\x7d3|$1|$7|$18446744073709551616|$0"

/-- A match of three groups, the second of them reversed. -/
def untidy : Captures :=
  ⟨[some ⟨1, 3⟩, some ⟨2, 1⟩, some ⟨0, 1⟩]⟩

theorem appends_parse_crowded :
    untidy.groupLen ≤ everyGroup ∧
      ∃ appended, Appends crowded (Bytes.ofString "abc") untidy (Bytes.ofString ">") appended ∧
        appended = Bytes.ofString "$1a3||||bc" := by
  have hcount : untidy.groupLen ≤ everyGroup := by decide
  obtain ⟨appended, happends⟩ :=
    appends_parse crowded (Bytes.ofString "abc") (Bytes.ofString ">") hcount
  have hexpand : (parse crowded).expand (Bytes.ofString "abc") untidy (Bytes.ofString ">") =
      Bytes.ofString ">" ++ Bytes.ofString "$1a3||||bc" := by
    decide
  refine ⟨hcount, appended, happends, ?_⟩
  exact List.append_cancel_left (happends.expand_eq.symm.trans hexpand)

end Oversized

end Template

end BytePattern
