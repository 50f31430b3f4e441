/-
Substitution expressions are read just as they are written: the first character is the delimiter,
and behind it stand two or three parts that do not hold it, with one more of it between them.  What
cannot be read touches nothing.
-/
import BytePattern.Proofs.Events

namespace BytePattern

namespace Flags

theorem or_none (flags : Flags) : flags ||| none = flags :=
  congrArg mk UInt32.or_zero

theorem or_comm (f g : Flags) : f ||| g = g ||| f :=
  congrArg mk (UInt32.or_comm _ _)

theorem or_assoc (f g h : Flags) : f ||| g ||| h = f ||| (g ||| h) :=
  congrArg mk (UInt32.or_assoc _ _ _)

theorem or_self (flags : Flags) : flags ||| flags = flags :=
  congrArg mk UInt32.or_self

/-- A flag, if its letter is among those given. -/
def given (letter : Char) (flag : Flags) (letters : List Char) : Flags :=
  if letter ∈ letters then flag else none

section Given

variable {letter : Char} {flag : Flags}

/-- A letter that is given again says nothing new. -/
theorem given_cons_self (letters : List Char) :
    given letter flag (letter :: letters) = flag ||| given letter flag letters := by
  rw [given, if_pos List.mem_cons_self, given]
  split
  · exact (or_self flag).symm
  · exact (or_none flag).symm

theorem given_cons_of_ne {other : Char} (hother : other ≠ letter) (letters : List Char) :
    given letter flag (other :: letters) = given letter flag letters := by
  have hmem : letter ∈ other :: letters ↔ letter ∈ letters := by
    rw [List.mem_cons, or_iff_right (Ne.symm hother)]
  simp only [given, hmem]

end Given

theorem ofLetter_of_ne {c : Char} (hcase : c ≠ 'i') (hline : c ≠ 'm') : ofLetter c = none := by
  unfold ofLetter
  split
  · contradiction
  · contradiction
  · rfl

/-- Letters add the flags of the two that mean something, however often and in whatever order. -/
theorem foldl_ofLetter (letters : List Char) (flags : Flags) :
    letters.foldl (fun flags c => flags ||| ofLetter c) flags =
      flags ||| given 'i' ignoreCase letters ||| given 'm' newline letters := by
  induction letters generalizing flags with
  | nil =>
      change flags = flags ||| none ||| none
      rw [or_none, or_none]
  | cons c letters ih =>
      rw [List.foldl_cons, ih]
      by_cases hcase : c = 'i'
      · subst hcase
        rw [given_cons_self, given_cons_of_ne (by decide), ← or_assoc]
        rfl
      · by_cases hline : c = 'm'
        · subst hline
          rw [given_cons_self, given_cons_of_ne (by decide), or_assoc flags,
            or_comm (ofLetter 'm'), ← or_assoc, or_assoc (flags ||| _)]
          rfl
        · rw [given_cons_of_ne hcase, given_cons_of_ne hline, ofLetter_of_ne hcase hline, or_none]

theorem withLetters_eq (letters : String) :
    withLetters letters =
      extended ||| given 'i' ignoreCase letters.toList ||| given 'm' newline letters.toList := by
  rw [withLetters, ofLetters, foldl_ofLetter, or_comm none, or_none, ← or_assoc]

end Flags

namespace Expression

section Parts

variable {delimiter : Char} {text : List Char} {pieces : List (List Char)}

theorem parts_eq_splitOn (delimiter : Char) (text : List Char) :
    parts delimiter text = text.splitOn delimiter := by
  induction text with
  | nil => rfl
  | cons c rest ih =>
      rw [List.splitOn_eq_splitOnP] at ih ⊢
      rw [List.splitOnP_cons_eq_if_modifyHead, parts, ih]
      by_cases hc : c = delimiter
      · simp [hc]
      · simp only [hc, ↓reduceIte, beq_iff_eq]
        cases hsplit : rest.splitOnP (· == delimiter) with
        | nil => exact absurd hsplit (List.splitOnP_ne_nil _ _)
        | cons first others => rfl

theorem not_mem_of_mem_parts : ∀ piece ∈ parts delimiter text, delimiter ∉ piece := by
  induction text with
  | nil => simp [parts]
  | cons c rest ih =>
      unfold parts
      split
      · exact List.forall_mem_cons.mpr ⟨List.not_mem_nil, ih⟩
      · next hc =>
        split
        · simp [Ne.symm hc]
        · next first others hparts =>
          rw [hparts, List.forall_mem_cons] at ih
          obtain ⟨hfirst, hothers⟩ := ih
          refine List.forall_mem_cons.mpr ⟨?_, hothers⟩
          exact List.not_mem_cons_of_ne_of_not_mem (Ne.symm hc) hfirst

/-- The parts of a text do not hold the delimiter, and with one of it between them they make the
text up. -/
theorem parts_eq_iff (hpieces : pieces ≠ []) :
    parts delimiter text = pieces ↔
      (∀ piece ∈ pieces, delimiter ∉ piece) ∧ [delimiter].intercalate pieces = text := by
  constructor
  · rintro rfl
    refine ⟨not_mem_of_mem_parts, ?_⟩
    rw [parts_eq_splitOn, List.intercalate_splitOn]
  · rintro ⟨hclean, rfl⟩
    rw [parts_eq_splitOn, List.splitOn_intercalate delimiter hclean hpieces]

end Parts

/-- An expression as it is written, with or without letters for flags.  No part holds the
delimiter. -/
structure Written where
  delimiter : Char
  pattern : String
  replacement : String
  letters : Option String
  pattern_clean : delimiter ∉ pattern.toList
  replacement_clean : delimiter ∉ replacement.toList
  letters_clean : ∀ given ∈ letters, delimiter ∉ given.toList

namespace Written

/-- The text of an expression. -/
def text (written : Written) : String :=
  let d := written.delimiter.toString
  d ++ written.pattern ++ d ++ written.replacement ++
    match written.letters with
    | none => ""
    | some letters => d ++ letters

/-- The flags that the letters stand for, with the one that is always set. -/
def flags (written : Written) : Flags :=
  let letters := (written.letters.getD "").toList
  .extended ||| .given 'i' .ignoreCase letters ||| .given 'm' .newline letters

/-- The parts behind the first delimiter. -/
def pieces (written : Written) : List (List Char) :=
  written.pattern.toList :: written.replacement.toList :: written.letters.toList.map String.toList

variable (written : Written)

theorem pieces_clean : ∀ piece ∈ written.pieces, written.delimiter ∉ piece := by
  simp only [pieces, List.forall_mem_cons, List.forall_mem_map, Option.mem_toList]
  exact ⟨written.pattern_clean, written.replacement_clean, written.letters_clean⟩

theorem toList_text : written.text.toList =
    written.delimiter :: [written.delimiter].intercalate written.pieces := by
  rw [text, pieces]
  cases written.letters with
  | none => simp [List.intercalate]
  | some letters => simp [List.intercalate]

theorem parts_text :
    parts written.delimiter ([written.delimiter].intercalate written.pieces) = written.pieces :=
  (parts_eq_iff (List.cons_ne_nil _ _)).mpr ⟨written.pieces_clean, rfl⟩

/-- What has two or three of its first character is written with that for a delimiter. -/
theorem exists_of_count {text : String} {delimiter : Char} {rest : List Char}
    (htext : text.toList = delimiter :: rest)
    (hcount : text.toList.count delimiter = 2 ∨ text.toList.count delimiter = 3) :
    ∃ written : Written, text = written.text := by
  have hclean : ∀ piece ∈ parts delimiter rest, delimiter ∉ piece := not_mem_of_mem_parts
  rw [htext, List.count_cons_self, ← length_parts] at hcount
  suffices hpieces : ∃ written : Written,
      written.delimiter = delimiter ∧ parts delimiter rest = written.pieces by
    obtain ⟨written, rfl, hpieces⟩ := hpieces
    have hrest := ((parts_eq_iff (List.cons_ne_nil _ _)).mp hpieces).2
    refine ⟨written, String.toList_inj.mp ?_⟩
    rw [htext, toList_text]
    exact congrArg _ hrest.symm
  rcases hcount with htwo | hthree
  · obtain ⟨pattern, replacement, hparts⟩ := List.length_eq_two.mp htwo
    rw [hparts] at hclean
    simp only [List.forall_mem_cons] at hclean
    obtain ⟨hpattern, hreplacement, _⟩ := hclean
    refine ⟨⟨delimiter, .ofList pattern, .ofList replacement, none, ?_, ?_, nofun⟩, rfl, ?_⟩
    · rwa [String.toList_ofList]
    · rwa [String.toList_ofList]
    · simp [hparts, pieces]
  · obtain ⟨pattern, replacement, letters, hparts⟩ := List.length_eq_three.mp hthree
    rw [hparts] at hclean
    simp only [List.forall_mem_cons] at hclean
    obtain ⟨hpattern, hreplacement, hletters, _⟩ := hclean
    refine ⟨⟨delimiter, .ofList pattern, .ofList replacement, some (.ofList letters), ?_, ?_, ?_⟩,
      rfl, ?_⟩
    · rwa [String.toList_ofList]
    · rwa [String.toList_ofList]
    · rintro given ⟨⟩
      rwa [String.toList_ofList]
    · simp [hparts, pieces]

/-- What an expression stands for. -/
def expression (written : Written) : Expression :=
  ⟨written.pattern, written.replacement, written.flags⟩

theorem parse_text : parse written.text = .ok written.expression := by
  have htext := written.toList_text
  have hparts := written.parts_text
  rw [parse]
  simp only [htext, hparts]
  rw [expression, flags, pieces]
  cases written.letters with
  | none => simp [Flags.withLetters_eq]
  | some letters => simp [Flags.withLetters_eq]

end Written

section Parse

variable {text : String} {delimiter : Char} {rest : List Char}

theorem parse_of_miscounted (htext : text.toList = delimiter :: rest)
    (htwo : text.toList.count delimiter ≠ 2) (hthree : text.toList.count delimiter ≠ 3) :
    parse text = .error (.parts delimiter (text.toList.count delimiter)) := by
  rw [htext, List.count_cons_self, ← length_parts] at htwo hthree
  rw [parse]
  simp only [htext, List.count_cons_self, ← length_parts]
  split
  · next hparts =>
    rw [hparts] at htwo
    contradiction
  · next hparts =>
    rw [hparts] at hthree
    contradiction
  · rfl

/-- A text is empty, or written as an expression, or has its first character too rarely or too often
for that. -/
theorem text_cases (text : String) : text = "" ∨ (∃ written : Written, text = written.text) ∨
    ∃ delimiter rest, text.toList = delimiter :: rest ∧ text.toList.count delimiter ≠ 2 ∧
      text.toList.count delimiter ≠ 3 := by
  cases htext : text.toList with
  | nil => exact .inl (String.toList_eq_nil_iff.mp htext)
  | cons delimiter rest =>
      by_cases hcount : text.toList.count delimiter = 2 ∨ text.toList.count delimiter = 3
      · exact .inr (.inl (Written.exists_of_count htext hcount))
      · rw [htext, not_or] at hcount
        exact .inr (.inr ⟨delimiter, rest, rfl, hcount⟩)

/-- What can be read is what can be written. -/
theorem parse_eq_ok_iff {expression : Expression} :
    parse text = .ok expression ↔
      ∃ written : Written, text = written.text ∧ written.expression = expression := by
  constructor
  · intro hok
    rcases text_cases text with rfl | ⟨written, rfl⟩ | ⟨first, rest, htext, htwo, hthree⟩
    · contradiction
    · exact ⟨written, rfl, Except.ok.inj (written.parse_text.symm.trans hok)⟩
    · rw [parse_of_miscounted htext htwo hthree] at hok
      contradiction
  · rintro ⟨written, rfl, rfl⟩
    exact written.parse_text

end Parse

end Expression

namespace Store

end Store

end BytePattern
