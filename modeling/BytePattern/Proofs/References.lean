/-
The references of a replacement text are those of one reading from left to right, which takes the
reference that begins at a place, goes on behind it, and passes over a byte where none begins.
-/
import BytePattern.Proofs.Suffix
import Mathlib.Data.List.TakeWhile
import Mathlib.Data.Nat.Digits.Defs

namespace BytePattern

namespace Reference

/-- A row of one ASCII digit or more. -/
def Digits (digits : Bytes) : Prop :=
  digits ≠ [] ∧ ∀ digit ∈ digits, isDigitByte digit = true

/-- The number that digits write, as far as a word can hold it. -/
def numeral (digits : Bytes) : Nat :=
  min (Nat.ofDigits 10 (digits.reverse.map fun digit => digit.toNat - (ascii '0').toNat)) everyGroup

/-- The reference that begins a text, and its length. -/
inductive Begins : Bytes → ReferenceKind → Nat → Prop where
  | dollar (rest : Bytes) : Begins (ascii '\\' :: ascii '$' :: rest) .dollar 2
  /-- A bare number takes all the digits there are. -/
  | group (digits rest : Bytes) (hdigits : Digits digits)
      (hrest : ∀ byte ∈ rest.head?, isDigitByte byte = false) :
      Begins (ascii '$' :: (digits ++ rest)) (.group (numeral digits)) (digits.length + 1)
  | braced (digits rest : Bytes) (hdigits : Digits digits) :
      Begins (ascii '$' :: ascii '\x7b' :: (digits ++ ascii '\x7d' :: rest))
        (.braced (numeral digits)) (digits.length + 3)

/-- A reading from left to right of what a text holds from a position on. -/
inductive Scan : Nat → Bytes → List Reference → Prop where
  | ended (pos : Nat) : Scan pos [] []
  | taken {pos length : Nat} {text : Bytes} {kind : ReferenceKind} {references : List Reference}
      (hbegins : Begins text kind length)
      (hrest : Scan (pos + length) (text.drop length) references) :
      Scan pos text (⟨⟨pos, pos + length⟩, kind⟩ :: references)
  | passed {pos : Nat} {byte : UInt8} {rest : Bytes} {references : List Reference}
      (hnone : ∀ kind length, ¬ Begins (byte :: rest) kind length)
      (hrest : Scan (pos + 1) rest references) :
      Scan pos (byte :: rest) references

section Numerals

theorem decimalValue_concat (digits : Bytes) (digit : UInt8) :
    decimalValue (digits ++ [digit]) = 10 * decimalValue digits + (digit - ascii '0').toNat := by
  rw [decimalValue, List.foldl_append]
  rfl

theorem decimalValue_eq_ofDigits {digits : Bytes}
    (hdigits : ∀ digit ∈ digits, isDigitByte digit = true) :
    decimalValue digits =
      Nat.ofDigits 10 (digits.reverse.map fun digit => digit.toNat - (ascii '0').toNat) := by
  induction digits using List.reverseRecOn with
  | nil => rfl
  | append_singleton digits digit ih =>
      obtain ⟨hinitial, hlast⟩ := List.forall_mem_append.mp hdigits
      have hdigit := hlast digit (List.mem_singleton_self digit)
      have hle : ascii '0' ≤ digit := by
        rw [isDigitByte, Bool.and_eq_true] at hdigit
        exact of_decide_eq_true hdigit.1
      rw [decimalValue_concat, ih hinitial, List.reverse_append, List.reverse_singleton,
        List.singleton_append, List.map_cons, Nat.ofDigits_cons, UInt8.toNat_sub_of_le _ _ hle]
      omega

/-- The group number read from digits is the number they write. -/
theorem groupNumber_eq {digits : Bytes} (hdigits : Digits digits) :
    groupNumber digits = numeral digits := by
  rw [groupNumber, numeral, decimalValue_eq_ofDigits hdigits.2]

end Numerals

section Lengths

variable {first second : UInt8}

theorem lengthAt_backslash (rest : Bytes) :
    lengthAt (ascii '\\' :: rest) = if rest.head? = some (ascii '$') then some 2 else none :=
  rfl

theorem lengthAt_brace (more : Bytes) :
    lengthAt (ascii '$' :: ascii '\x7b' :: more) =
      if more.takeWhile isDigitByte ≠ [] ∧
          (more.drop (more.takeWhile isDigitByte).length).head? = some (ascii '\x7d') then
        some ((more.takeWhile isDigitByte).length + 3)
      else none :=
  rfl

theorem lengthAt_bare (hsecond : second ≠ ascii '\x7b') (more : Bytes) :
    lengthAt (ascii '$' :: second :: more) =
      if (second :: more).takeWhile isDigitByte ≠ [] then
        some (((second :: more).takeWhile isDigitByte).length + 1)
      else none :=
  if_neg hsecond

theorem lengthAt_other (hbackslash : first ≠ ascii '\\') (hdollar : first ≠ ascii '$')
    (rest : Bytes) : lengthAt (first :: rest) = none :=
  (if_neg hbackslash).trans (if_neg hdollar)

theorem kindOf_bare (hsecond : second ≠ ascii '\x7b') (more : Bytes) :
    kindOf (ascii '$' :: second :: more) = .group (groupNumber (second :: more)) :=
  if_neg hsecond

end Lengths

section Begins

variable {text digits rest : Bytes} {kind : ReferenceKind} {length : Nat}

theorem Digits.exists_cons (hdigits : Digits digits) :
    ∃ first more, digits = first :: more ∧ first ≠ ascii '\x7b' := by
  obtain ⟨first, more, rfl⟩ := List.exists_cons_of_ne_nil hdigits.1
  have hfirst := hdigits.2 first List.mem_cons_self
  refine ⟨first, more, rfl, ?_⟩
  rintro rfl
  contradiction

/-- Digits before anything else are all that is taken. -/
theorem takeWhile_digits (hdigits : ∀ digit ∈ digits, isDigitByte digit = true)
    (hrest : ∀ byte ∈ rest.head?, isDigitByte byte = false) :
    (digits ++ rest).takeWhile isDigitByte = digits := by
  have hnothing : rest.takeWhile isDigitByte = [] := by
    cases rest with
    | nil => rfl
    | cons byte rest => exact List.takeWhile_cons_of_neg (by simp [hrest byte rfl])
  rw [List.takeWhile_append_of_pos hdigits, hnothing, List.append_nil]

theorem Begins.lengthAt_eq (hbegins : Begins text kind length) : lengthAt text = some length := by
  cases hbegins with
  | dollar rest => rfl
  | group digits rest hdigits hrest =>
      have htake := takeWhile_digits hdigits.2 hrest
      have hne := hdigits.1
      obtain ⟨first, more, rfl, hfirst⟩ := hdigits.exists_cons
      rw [List.cons_append] at htake ⊢
      rw [lengthAt_bare hfirst, htake]
      exact if_pos hne
  | braced digits rest hdigits =>
      have htake : (digits ++ ascii '\x7d' :: rest).takeWhile isDigitByte = digits := by
        apply takeWhile_digits hdigits.2
        rintro byte ⟨⟩
        rfl
      rw [lengthAt_brace, htake, List.drop_left]
      exact if_pos ⟨hdigits.1, rfl⟩

theorem Begins.kindOf_eq (hbegins : Begins text kind length) :
    kindOf (text.take length) = kind := by
  cases hbegins with
  | dollar rest => rfl
  | group digits rest hdigits hrest =>
      rw [List.take_succ_cons, List.take_left, ← groupNumber_eq hdigits]
      obtain ⟨first, more, rfl, hfirst⟩ := hdigits.exists_cons
      exact kindOf_bare hfirst more
  | braced digits rest hdigits =>
      have htake : (digits ++ ascii '\x7d' :: rest).take (digits.length + 1) =
          digits ++ [ascii '\x7d'] := by
        rw [List.take_length_add_append]
        rfl
      rw [List.take_succ_cons, List.take_succ_cons, htake, ← groupNumber_eq hdigits]
      change ReferenceKind.braced (groupNumber (digits ++ [ascii '\x7d']).dropLast) = _
      rw [List.dropLast_concat]

/-- The digits that a text starts with, and what follows them. -/
theorem exists_digits (text : Bytes) (hsome : text.takeWhile isDigitByte ≠ []) :
    ∃ digits rest, text = digits ++ rest ∧ text.takeWhile isDigitByte = digits ∧ Digits digits ∧
      ∀ byte ∈ rest.head?, isDigitByte byte = false := by
  refine ⟨text.takeWhile isDigitByte, text.dropWhile isDigitByte,
    List.takeWhile_append_dropWhile.symm, rfl, ⟨hsome, ?_⟩, ?_⟩
  · intro digit hmem
    exact List.mem_takeWhile_imp hmem
  · intro byte hmem
    have hhead := List.head?_dropWhile_not isDigitByte text
    rw [Option.mem_def.mp hmem] at hhead
    simpa using hhead

/-- Where a length is read a reference of some kind begins. -/
theorem exists_begins_of_lengthAt (hlength : lengthAt text = some length) :
    ∃ kind, Begins text kind length := by
  cases text with
  | nil => contradiction
  | cons first rest =>
      by_cases hbackslash : first = ascii '\\'
      · subst hbackslash
        rw [lengthAt_backslash, Option.ite_none_right_eq_some] at hlength
        obtain ⟨hhead, htwo⟩ := hlength
        obtain ⟨more, rfl⟩ := List.head?_eq_some_iff.mp hhead
        obtain rfl := Option.some.inj htwo
        exact ⟨_, .dollar more⟩
      · by_cases hdollar : first = ascii '$'
        · subst hdollar
          cases rest with
          | nil => contradiction
          | cons second more =>
              by_cases hbrace : second = ascii '\x7b'
              · subst hbrace
                rw [lengthAt_brace] at hlength
                obtain ⟨⟨hsome, hclosed⟩, hcount⟩ := Option.ite_none_right_eq_some.mp hlength
                obtain ⟨digits, behind, rfl, htake, hdigits, _⟩ := exists_digits more hsome
                rw [htake, List.drop_left] at hclosed
                obtain ⟨others, rfl⟩ := List.head?_eq_some_iff.mp hclosed
                rw [htake] at hcount
                obtain rfl := Option.some.inj hcount
                exact ⟨_, .braced digits others hdigits⟩
              · rw [lengthAt_bare hbrace] at hlength
                obtain ⟨hsome, hcount⟩ := Option.ite_none_right_eq_some.mp hlength
                obtain ⟨digits, behind, heq, htake, hdigits, hbehind⟩ := exists_digits _ hsome
                rw [htake] at hcount
                obtain rfl := Option.some.inj hcount
                rw [heq]
                exact ⟨_, .group digits behind hdigits hbehind⟩
        · rw [lengthAt_other hbackslash hdollar] at hlength
          contradiction

/-- A text begins with the reference that is read there. -/
theorem begins_iff :
    Begins text kind length ↔ lengthAt text = some length ∧ kindOf (text.take length) = kind := by
  constructor
  · intro hbegins
    exact ⟨hbegins.lengthAt_eq, hbegins.kindOf_eq⟩
  · rintro ⟨hlength, rfl⟩
    obtain ⟨kind, hbegins⟩ := exists_begins_of_lengthAt hlength
    rw [hbegins.kindOf_eq]
    exact hbegins

theorem not_begins_iff : (∀ kind length, ¬ Begins text kind length) ↔ lengthAt text = none := by
  constructor
  · intro hnone
    rw [Option.eq_none_iff_forall_ne_some]
    intro length hlength
    exact hnone _ length (begins_iff.mpr ⟨hlength, rfl⟩)
  · intro hnone kind length hbegins
    rw [hbegins.lengthAt_eq] at hnone
    contradiction

theorem Begins.length_le (hbegins : Begins text kind length) : length ≤ text.length :=
  length_le_of_lengthAt hbegins.lengthAt_eq

theorem Begins.length_pos (hbegins : Begins text kind length) : 0 < length := by
  cases hbegins <;> omega

end Begins

section Found

variable {text rest : Bytes} {byte : UInt8} {length : Nat}

/-- A search that does not look at its start finds the same further to the right. -/
theorem firstMatch_shift (matchAt : Bytes → Option Captures) (pos : Nat) (subject : Bytes) :
    Program.firstMatch (fun _ => matchAt) pos subject =
      (Program.firstMatch (fun _ => matchAt) 0 subject).map (·.shift pos) := by
  induction subject generalizing pos with
  | nil =>
      simp only [Program.firstMatch]
      cases matchAt [] with
      | none => rfl
      | some caps => simp
  | cons byte rest ih =>
      simp only [Program.firstMatch]
      cases matchAt (byte :: rest) with
      | none =>
          simp only [ih (pos + 1), ih (0 + 1), Option.map_map]
          congr 1
          funext caps
          rw [Function.comp, Captures.shift_shift, Nat.zero_add, Nat.add_comm]
      | some caps => simp

/-- The first reference of a text. -/
def first? (text : Bytes) : Option Captures :=
  Program.firstMatch
    (fun _ subject => (lengthAt subject).map fun length => ⟨[some ⟨0, length⟩]⟩) 0 text

theorem first?_of_begins (hlength : lengthAt text = some length) :
    first? text = some ⟨[some ⟨0, length⟩]⟩ := by
  have hmatch : (lengthAt text).map (fun length => (⟨[some ⟨0, length⟩]⟩ : Captures)) =
      some ⟨[some ⟨0, length⟩]⟩ := by
    rw [hlength]
    rfl
  cases text with
  | nil => contradiction
  | cons byte rest => simp [first?, Program.firstMatch, hmatch]

theorem first?_of_passed (hlength : lengthAt (byte :: rest) = none) :
    first? (byte :: rest) = (first? rest).map (·.shift 1) := by
  have hshift := firstMatch_shift
    (fun subject => (lengthAt subject).map fun length => ⟨[some ⟨0, length⟩]⟩) 1 rest
  rw [first?, first?, ← hshift, Program.firstMatch, hlength]
  rfl

/-- The first reference is a stretch of the text, and not an empty one. -/
theorem exists_of_first? {caps : Captures} (hfirst : first? text = some caps) :
    caps.group 0 = some caps.range ∧ Matches.resume caps.range = caps.range.stop ∧
      caps.range.stop ≤ text.length := by
  obtain ⟨skipped, found, hle, hfound, rfl⟩ := Program.exists_of_firstMatch hfirst
  obtain ⟨length, hlength, rfl⟩ := Option.map_eq_some_iff.mp hfound
  obtain ⟨kind, hbegins⟩ := exists_begins_of_lengthAt hlength
  have hpos := hbegins.length_pos
  have hroom := hbegins.length_le
  rw [List.length_drop] at hroom
  refine ⟨rfl, Matches.resume_of_lt ?_, ?_⟩
  · change 0 + (0 + skipped) < length + (0 + skipped)
    omega
  · change length + (0 + skipped) ≤ text.length
    omega

/-- All references of a text, as matches. -/
def found (text : Bytes) : List Captures :=
  (pattern.capturesIter text).value

/-- Every search asks for the one group of a reference. -/
theorem execute_program (text : Bytes) (want : Nat) :
    program.execute text want = .ok (first? text) := by
  apply Program.leftmost_execute
  intro atStart subject caps hmatch
  obtain ⟨length, _, rfl⟩ := Option.map_eq_some_iff.mp hmatch
  exact Nat.le_max_left 1 want

theorem found_search (text : Bytes) :
    ((Matches.start pattern text everyGroup).search ⟨program, [], pattern.text⟩).found =
      first? text := by
  change Search.found ⟨_, _, program.execute text everyGroup⟩ = _
  rw [execute_program, Search.found]

theorem found_of_first?_none (hfirst : first? text = none) : found text = [] := by
  have hall : (Matches.start pattern text everyGroup).all = _ :=
    Matches.start_all_of_missed rfl ((found_search text).trans hfirst)
  exact congrArg Traced.value hall

/-- Behind the first reference come those of the rest. -/
theorem found_of_first?_some {caps : Captures} (hfirst : first? text = some caps) :
    found text = caps :: (found (text.drop caps.range.stop)).map (·.shift caps.range.stop) := by
  obtain ⟨_, hresume, hstop⟩ := exists_of_first? hfirst
  have hall : (Matches.start pattern text everyGroup).all = _ :=
    Matches.start_all_of_matched pattern_sound (pattern_contained.fitsIn text everyGroup) rfl
      ((found_search text).trans hfirst) (hresume.trans_le hstop)
  rw [hresume] at hall
  exact congrArg Traced.value hall

theorem found_nil : found [] = [] :=
  found_of_first?_none rfl

theorem found_of_begins (hlength : lengthAt text = some length) :
    found text = ⟨[some ⟨0, length⟩]⟩ :: (found (text.drop length)).map (·.shift length) :=
  found_of_first?_some (first?_of_begins hlength)

/-- A byte with which no reference begins is passed over. -/
theorem found_of_passed (hlength : lengthAt (byte :: rest) = none) :
    found (byte :: rest) = (found rest).map (·.shift 1) := by
  have hpassed := first?_of_passed hlength
  cases hfirst : first? rest with
  | none =>
      rw [hfirst] at hpassed
      rw [found_of_first?_none hpassed, found_of_first?_none hfirst]
      rfl
  | some caps =>
      rw [hfirst] at hpassed
      have hgroup := (exists_of_first? hfirst).1
      have hrange : (caps.shift 1).range = caps.range.shift 1 := Captures.range_shift 1 hgroup
      rw [found_of_first?_some hpassed, found_of_first?_some hfirst, hrange, List.map_cons,
        List.map_map]
      congr 1
      apply List.map_congr_left
      intro other _
      exact (Captures.shift_shift _ _ _).symm

end Found

/-- The reference moved to the right. -/
def shift (reference : Reference) (offset : Nat) : Reference :=
  ⟨reference.span.shift offset, reference.kind⟩

theorem shift_shift (reference : Reference) (i j : Nat) :
    (reference.shift i).shift j = reference.shift (i + j) := by
  rw [shift, shift, shift, Span.shift_shift]

/-- All references of a text, in order. -/
def read (text : Bytes) : List Reference :=
  (found text).map (ofMatch text)

section Read

variable {text rest : Bytes} {byte : UInt8} {kind : ReferenceKind} {length : Nat}

/-- A text is read reference by reference, and byte by byte where none begins. -/
theorem read_induction {motive : Bytes → Prop} (ended : motive [])
    (taken : ∀ text kind length, Begins text kind length → motive (text.drop length) →
      motive text)
    (passed : ∀ byte rest, lengthAt (byte :: rest) = none → motive rest → motive (byte :: rest))
    (text : Bytes) : motive text := by
  induction hsize : text.length using Nat.strongRecOn generalizing text with
  | ind size ih =>
      cases text with
      | nil => exact ended
      | cons byte rest =>
          cases hlength : lengthAt (byte :: rest) with
          | none => exact passed byte rest hlength (ih rest.length (by simp [← hsize]) rest rfl)
          | some length =>
              obtain ⟨kind, hbegins⟩ := exists_begins_of_lengthAt hlength
              have hpos := hbegins.length_pos
              refine taken _ kind length hbegins (ih _ ?_ _ rfl)
              rw [← hsize, List.length_drop, List.length_cons]
              omega

theorem ofMatch_shift (text : Bytes) {caps : Captures} (hgroup : caps.group 0 = some caps.range)
    (offset : Nat) :
    ofMatch text (caps.shift offset) = (ofMatch (text.drop offset) caps).shift offset := by
  rw [ofMatch, ofMatch, shift, Captures.range_shift offset hgroup, Bytes.slice_shift]

theorem found_group {caps : Captures} (hmem : caps ∈ found text) :
    caps.group 0 = some caps.range :=
  Matches.start_take_group_zero pattern_sound hmem

theorem map_ofMatch_shift (text : Bytes) (offset : Nat) :
    ((found (text.drop offset)).map (·.shift offset)).map (ofMatch text) =
      (read (text.drop offset)).map (·.shift offset) := by
  rw [read, List.map_map, List.map_map]
  apply List.map_congr_left
  intro caps hmem
  exact ofMatch_shift text (found_group hmem) offset

theorem read_nil : read [] = [] := by
  rw [read, found_nil]
  rfl

theorem read_of_begins (hbegins : Begins text kind length) :
    read text = ⟨⟨0, length⟩, kind⟩ :: (read (text.drop length)).map (·.shift length) := by
  have hfirst : ofMatch text ⟨[some ⟨0, length⟩]⟩ = ⟨⟨0, length⟩, kind⟩ :=
    congrArg (Reference.mk ⟨0, length⟩) hbegins.kindOf_eq
  rw [read, found_of_begins hbegins.lengthAt_eq, List.map_cons, map_ofMatch_shift, hfirst]

theorem read_of_passed (hlength : lengthAt (byte :: rest) = none) :
    read (byte :: rest) = (read rest).map (·.shift 1) := by
  rw [read, found_of_passed hlength]
  exact map_ofMatch_shift (byte :: rest) 1

/-- Without a dollar sign there is no reference. -/
theorem read_of_not_mem (hdollar : ascii '$' ∉ text) : read text = [] := by
  induction text using read_induction with
  | ended => exact read_nil
  | taken text kind length hbegins ih =>
      exact absurd (by cases hbegins <;> simp) hdollar
  | passed byte rest hlength ih =>
      rw [read_of_passed hlength, ih (fun hmem => hdollar (List.mem_cons_of_mem _ hmem))]
      rfl

/-- The references are those of one reading. -/
theorem scan_read (pos : Nat) (text : Bytes) : Scan pos text ((read text).map (·.shift pos)) := by
  induction text using read_induction generalizing pos with
  | ended =>
      rw [read_nil]
      exact .ended pos
  | taken text kind length hbegins ih =>
      have hrest := ih (pos + length)
      rw [read_of_begins hbegins, List.map_cons, List.map_map]
      have hfirst : shift ⟨⟨0, length⟩, kind⟩ pos = ⟨⟨pos, pos + length⟩, kind⟩ := by
        rw [shift, Span.shift, Nat.zero_add, Nat.add_comm]
      have hothers : (fun reference : Reference => (reference.shift length).shift pos) =
          fun reference => reference.shift (pos + length) := by
        funext reference
        rw [shift_shift, Nat.add_comm]
      rw [hfirst]
      refine .taken hbegins ?_
      change Scan _ _ ((read (text.drop length)).map
        fun reference => (reference.shift length).shift pos)
      rw [hothers]
      exact hrest
  | passed byte rest hlength ih =>
      have hrest := ih (pos + 1)
      rw [read_of_passed hlength, List.map_map]
      have hothers : (fun reference : Reference => (reference.shift 1).shift pos) =
          fun reference => reference.shift (pos + 1) := by
        funext reference
        rw [shift_shift, Nat.add_comm]
      refine .passed (not_begins_iff.mpr hlength) ?_
      change Scan _ _ ((read rest).map fun reference => (reference.shift 1).shift pos)
      rw [hothers]
      exact hrest

end Read

namespace Scan

variable {pos : Nat} {text : Bytes} {references : List Reference}

/-- There is one reading only. -/
theorem unique (hscan : Scan pos text references) {others : List Reference}
    (hothers : Scan pos text others) : references = others := by
  induction hscan generalizing others with
  | ended pos =>
      cases hothers with
      | ended => rfl
      | taken hbegins => nomatch hbegins
  | taken hbegins _ ih =>
      cases hothers with
      | ended => nomatch hbegins
      | taken hbegins' hrest' =>
          obtain ⟨hlength, hkind⟩ := begins_iff.mp hbegins
          obtain ⟨hlength', hkind'⟩ := begins_iff.mp hbegins'
          obtain rfl := Option.some.inj (hlength.symm.trans hlength')
          obtain rfl := hkind.symm.trans hkind'
          rw [ih hrest']
      | passed hnone => exact absurd hbegins (hnone _ _)
  | passed hnone _ ih =>
      cases hothers with
      | taken hbegins => exact absurd hbegins (hnone _ _)
      | passed _ hrest' => exact ih hrest'

/-- Every reference is a stretch of the text that is read, and not an empty one. -/
theorem within (hscan : Scan pos text references) : ∀ reference ∈ references,
    pos ≤ reference.span.start ∧ reference.span.start < reference.span.stop ∧
      reference.span.stop ≤ pos + text.length := by
  induction hscan with
  | ended => simp
  | @taken pos length text kind references hbegins _ ih =>
      have hpos := hbegins.length_pos
      have hle := hbegins.length_le
      intro reference hmem
      rcases List.mem_cons.mp hmem with rfl | hmem
      · exact ⟨Nat.le_refl _, Nat.lt_add_of_pos_right hpos, Nat.add_le_add_left hle pos⟩
      · have hbehind := ih reference hmem
        rw [List.length_drop] at hbehind
        omega
  | passed _ _ ih =>
      intro reference hmem
      have hbehind := ih reference hmem
      rw [List.length_cons]
      omega

/-- Every reference ends before the next begins. -/
theorem disjoint (hscan : Scan pos text references) :
    references.Pairwise fun first second => first.span.stop ≤ second.span.start := by
  induction hscan with
  | ended => exact .nil
  | taken _ hrest ih => exact .cons (fun reference hmem => (hrest.within reference hmem).1) ih
  | passed _ _ ih => exact ih

/-- Outside of the references none begins. -/
theorem not_begins (hscan : Scan pos text references) {place : Nat}
    (houtside : ∀ reference ∈ references,
      pos + place < reference.span.start ∨ reference.span.stop ≤ pos + place)
    (kind : ReferenceKind) (length : Nat) : ¬ Begins (text.drop place) kind length := by
  induction hscan generalizing place with
  | ended pos =>
      rw [List.drop_nil]
      exact nofun
  | @taken pos taken text _ references hbegins _ ih =>
      obtain ⟨hfirst, hrest⟩ := List.forall_mem_cons.mp houtside
      have hbehind : taken ≤ place := by
        simp only [Nat.add_le_add_iff_left] at hfirst
        omega
      obtain ⟨behind, rfl⟩ := Nat.exists_eq_add_of_le hbehind
      rw [← List.drop_drop]
      apply ih
      intro reference hmem
      rw [Nat.add_assoc]
      exact hrest reference hmem
  | @passed pos byte rest references hnone _ ih =>
      cases place with
      | zero => exact hnone kind length
      | succ place =>
          apply ih
          intro reference hmem
          rw [Nat.add_assoc, Nat.add_comm 1]
          exact houtside reference hmem

end Scan

end Reference

namespace Template

theorem parse_references (text : Bytes) : (parse text).references = Reference.read text := by
  rw [parse]
  split
  · rfl
  · next hdollar =>
    rw [List.contains_iff_mem] at hdollar
    exact (Reference.read_of_not_mem hdollar).symm

/-- The references of a replacement text, beside what is written in it. -/
structure Grammatical (text : Bytes) : Prop where
  scan_iff : ∀ references,
    Reference.Scan 0 text references ↔ (parse text).references = references
  within : ∀ reference ∈ (parse text).references,
    reference.span.start < reference.span.stop ∧ reference.span.stop ≤ text.length
  disjoint : (parse text).references.Pairwise fun first second =>
    first.span.stop ≤ second.span.start
  /-- No reference begins where none was found. -/
  hidden : ∀ place, (∀ reference ∈ (parse text).references,
      place < reference.span.start ∨ reference.span.stop ≤ place) →
    ∀ kind length, ¬ Reference.Begins (text.drop place) kind length
  /-- Looking for a dollar sign first makes no difference. -/
  unguarded : (parse text).references =
    ((Reference.pattern.capturesIter text).map (List.map (Reference.ofMatch text))).value

/-- Every replacement text is read as it is written. -/
theorem grammatical (text : Bytes) : Grammatical text := by
  have hscan : Reference.Scan 0 text (parse text).references := by
    have hread := Reference.scan_read 0 text
    have hshift : (fun reference : Reference => reference.shift 0) = id := rfl
    rw [hshift, List.map_id] at hread
    rwa [parse_references]
  constructor
  · intro references
    constructor
    · exact hscan.unique
    · rintro rfl
      exact hscan
  · intro reference hmem
    have hwithin := hscan.within reference hmem
    omega
  · exact hscan.disjoint
  · intro place houtside
    apply hscan.not_begins
    simpa using houtside
  · exact parse_references text

/-- A dollar sign that begins nothing is passed over, and so is a brace that is not closed. -/
example : (parse ("$$1\\$2$\x7b3".toList.map ascii)).references =
    [⟨⟨1, 3⟩, .group 1⟩, ⟨⟨3, 5⟩, .dollar⟩] := by
  decide

end Template

end BytePattern
