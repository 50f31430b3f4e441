/-
The expansion of shorthands is one pass over the text: the rules, one after the other, exchange what
a reader of escapes would exchange, and change nothing else.
-/
import BytePattern.Proofs.Encoding
import BytePattern.Proofs.EscapeSearch
import BytePattern.Proofs.Suffix

namespace BytePattern

namespace Shorthand

/-- What the rule of a shorthand asks of it: an ASCII letter that is no backslash, a template that
puts the bracket expression behind group 1, and no backslash in that expression. -/
structure WellFormed (shorthand : Shorthand) : Prop where
  letter_ascii : shorthand.letter.toNat < 0x80
  letter_ne : ascii shorthand.letter ≠ ascii '\\'
  template_eq : shorthand.rule.template =
    ⟨[ascii '$', ascii '1'] ++ Bytes.ofString shorthand.bracket, [⟨⟨0, 2⟩, .group 1⟩]⟩
  bracket_clean : ascii '\\' ∉ Bytes.ofString shorthand.bracket

theorem wellFormed_of_mem : ∀ shorthand ∈ all, shorthand.WellFormed := by
  intro shorthand hmem
  have hall : ∀ shorthand ∈ all, shorthand.letter.toNat < 0x80 ∧
      ascii shorthand.letter ≠ ascii '\\' ∧ shorthand.rule.template =
      ⟨[ascii '$', ascii '1'] ++ Bytes.ofString shorthand.bracket, [⟨⟨0, 2⟩, .group 1⟩]⟩ ∧
      ascii '\\' ∉ Bytes.ofString shorthand.bracket := by
    decide
  obtain ⟨hascii, hletter, htemplate, hclean⟩ := hall shorthand hmem
  exact ⟨hascii, hletter, htemplate, hclean⟩

section Rule

variable {shorthand : Shorthand}

/-- The rule keeps group 1 and puts the bracket expression behind it. -/
theorem WellFormed.expansion_eq (hshorthand : shorthand.WellFormed) (haystack : Bytes)
    (caps : Captures) :
    shorthand.rule.template.expansion haystack caps =
      (caps.text? haystack 1).getD [] ++ Bytes.ofString shorthand.bracket := by
  rw [hshorthand.template_eq]
  rfl

/-- The rule asks for every group of its program, which finds the first match. -/
theorem WellFormed.found_firstSearch (hshorthand : shorthand.WellFormed) (text : Bytes) :
    (shorthand.rule.firstSearch ⟨shorthand.program, [1], shorthand.ruleText⟩ text).found =
      Program.firstMatch (matchAt (ascii shorthand.letter)) 0 text := by
  have hwant : shorthand.rule.template.wantGroups = 2 := by
    rw [hshorthand.template_eq]
    rfl
  have hexecute : shorthand.program.execute text 2 = .ok _ :=
    Program.leftmost_execute
      (fun _ _ _ hmatch => (groupLen_of_matchAt hshorthand.letter_ne hmatch).le) text
  change Search.found ⟨_, shorthand.rule.template.wantGroups,
    shorthand.program.execute text shorthand.rule.template.wantGroups⟩ = _
  rw [hwant, hexecute, Search.found]

/-- Where the rule's search meets an escape, it keeps what stands before the backslash, puts in the
bracket expression, and goes on behind the letter. -/
theorem WellFormed.apply_of_found (hshorthand : shorthand.WellFormed) {before after text : Bytes}
    {skipped : Nat} (htext : text = before ++ ascii '\\' :: ascii shorthand.letter :: after)
    (hskipped : skipped ≤ before.length)
    (hfound : Program.firstMatch (matchAt (ascii shorthand.letter)) 0 text =
      some ⟨[some ⟨skipped, before.length + 2⟩, some ⟨skipped, before.length⟩]⟩) :
    shorthand.apply text =
      before ++ (Bytes.ofString shorthand.bracket ++ shorthand.apply after) := by
  have hlength : text.length = before.length + 2 + after.length := by
    rw [htext, List.length_append, List.length_cons, List.length_cons]
    omega
  have htake : text.take before.length = before := by
    rw [htext, List.take_left]
  have hdrop : text.drop (before.length + 2) = after := by
    rw [htext, List.drop_length_add_append]
    rfl
  have hresume : Matches.resume ⟨skipped, before.length + 2⟩ = before.length + 2 :=
    Matches.resume_of_lt (Nat.lt_of_le_of_lt hskipped (Nat.lt_add_of_pos_right Nat.two_pos))
  have hinside : before.length + 2 ≤ text.length := hlength ▸ Nat.le_add_right _ _
  have hgroup : Captures.text? ⟨[some ⟨skipped, before.length + 2⟩,
      some ⟨skipped, before.length⟩]⟩ text 1 = some (text.slice ⟨skipped, before.length⟩) :=
    if_pos ⟨hskipped, Nat.le_of_add_right_le hinside⟩
  have hnothing : text.slice ⟨before.length + 2, before.length + 2⟩ = [] := by
    rw [Bytes.slice, Nat.sub_self, List.take_zero]
  have hmatched : (shorthand.rule.exec text).value = _ := Substitution.exec_of_matched
    (shorthand.pattern_sound hshorthand.letter_ne)
    ((shorthand.pattern_contained hshorthand.letter_ne).fitsIn text _) rfl
    ((hshorthand.found_firstSearch text).trans hfound) (hresume.trans_le hinside)
  change shorthand.apply text = text.take skipped ++ (_ ++
    (text.slice ⟨before.length + 2, Matches.resume ⟨skipped, before.length + 2⟩⟩ ++
      shorthand.apply (text.drop (Matches.resume ⟨skipped, before.length + 2⟩)))) at hmatched
  rw [hmatched, hresume, hnothing, hdrop, hshorthand.expansion_eq, hgroup, Option.getD_some,
    List.nil_append, List.append_assoc, ← List.append_assoc,
    text.take_append_slice hskipped, htake]

/-- A rule is one pass over the text for its letter. -/
theorem WellFormed.apply_eq (hshorthand : shorthand.WellFormed) (text : Bytes) :
    shorthand.apply text =
      onePass (ascii '\\') (tableOf (ascii shorthand.letter) (Bytes.ofString shorthand.bracket))
        text := by
  induction hlength : text.length using Nat.strongRecOn generalizing text with
  | ind length ih =>
      -- The rule starts afresh behind each match, where the text left is again any text.
      have hlocates := locates_start hshorthand.letter_ne text
      generalize hfound : Program.firstMatch (matchAt (ascii shorthand.letter)) 0 text = caps
        at hlocates
      generalize hcut : cutEscape (ascii '\\') (ascii shorthand.letter) text = cut at hlocates
      cases hlocates with
      | absent =>
          rw [onePass_of_cutEscape_none _ hcut]
          exact Substitution.exec_of_missed rfl ((hshorthand.found_firstSearch text).trans hfound)
      | found skipped before after hskipped =>
          obtain ⟨htext, hpass⟩ := onePass_of_cutEscape_some (Bytes.ofString shorthand.bracket) hcut
          simp only [Nat.zero_add] at hfound
          rw [hpass, hshorthand.apply_of_found htext hskipped hfound, ih after.length ?_ after rfl]
          rw [← hlength, htext, List.length_append, List.length_cons, List.length_cons]
          omega

end Rule

/-- What the rules of some shorthands put in for the byte behind a backslash. -/
def bytesOf (shorthands : List Shorthand) (byte : UInt8) : Option Bytes :=
  shorthands.findSome? fun shorthand =>
    tableOf (ascii shorthand.letter) (Bytes.ofString shorthand.bracket) byte

/-- What a shorthand stands for, by its letter. -/
def bracketOf (shorthands : List Shorthand) (letter : Char) : Option (List Char) :=
  (shorthands.find? (·.letter = letter)).map (·.bracket.toList)

/-- Rules one after the other are one pass with the tables of all. -/
theorem foldl_apply_eq {shorthands : List Shorthand}
    (hshorthands : ∀ shorthand ∈ shorthands, shorthand.WellFormed) (text : Bytes) :
    shorthands.foldl (fun bytes shorthand => shorthand.apply bytes) text =
      onePass (ascii '\\') (bytesOf shorthands) text := by
  induction shorthands generalizing text with
  | nil => exact (onePass_none text).symm
  | cons shorthand rest ih =>
      rw [List.forall_mem_cons] at hshorthands
      obtain ⟨hfirst, hrest⟩ := hshorthands
      rw [List.foldl_cons, hfirst.apply_eq, ih hrest, onePass_onePass]
      · congr 1
        funext byte
        rw [bytesOf, bytesOf, List.findSome?_cons]
        cases tableOf (ascii shorthand.letter) (Bytes.ofString shorthand.bracket) byte <;> rfl
      · intro byte text hbyte
        obtain ⟨_, hbracket⟩ := Option.ite_none_right_eq_some.mp hbyte
        rw [← Option.some.inj hbracket]
        exact hfirst.bracket_clean

section Encoded

variable {shorthands : List Shorthand}

theorem bytesOf_ascii (hshorthands : ∀ shorthand ∈ shorthands, shorthand.WellFormed) {c : Char}
    (hc : c.toNat < 0x80) :
    bytesOf shorthands (ascii c) =
      (bracketOf shorthands c).map (·.flatMap String.utf8EncodeChar) := by
  induction shorthands with
  | nil => rfl
  | cons shorthand rest ih =>
      rw [List.forall_mem_cons] at hshorthands
      have hsame := ascii_inj hc hshorthands.1.letter_ascii
      have hrest := ih hshorthands.2
      rw [bytesOf, bracketOf] at hrest ⊢
      rw [List.findSome?_cons, List.find?_cons, tableOf]
      by_cases hletter : shorthand.letter = c
      · simp [hletter, Bytes.ofString_eq_flatMap]
      · rw [if_neg (fun h => hletter (hsame h).symm)]
        simp only [hletter, decide_false]
        exact hrest

theorem bytesOf_high (hshorthands : ∀ shorthand ∈ shorthands, shorthand.WellFormed) {byte : UInt8}
    (hbyte : 0x80 ≤ byte) : bytesOf shorthands byte = none := by
  rw [bytesOf, List.findSome?_eq_none_iff]
  intro shorthand hmem
  apply if_neg
  rintro rfl
  exact absurd hbyte (not_le_ascii (hshorthands shorthand hmem).letter_ascii)

theorem bracketOf_high (hshorthands : ∀ shorthand ∈ shorthands, shorthand.WellFormed) {c : Char}
    (hc : 0x80 ≤ c.toNat) : bracketOf shorthands c = none := by
  rw [bracketOf, Option.map_eq_none_iff, List.find?_eq_none]
  intro shorthand hmem hletter
  have hascii := (hshorthands shorthand hmem).letter_ascii
  rw [of_decide_eq_true hletter] at hascii
  omega

/-- A pass over the encoding of a text is the encoding of a pass over the text. -/
theorem onePass_encoded (hshorthands : ∀ shorthand ∈ shorthands, shorthand.WellFormed)
    (text : List Char) :
    onePass (ascii '\\') (bytesOf shorthands) (text.flatMap String.utf8EncodeChar) =
      (onePass '\\' (bracketOf shorthands) text).flatMap String.utf8EncodeChar := by
  have hascii : '\\'.toNat < 0x80 := by decide
  induction text using token_induction '\\' with
  | nil => rfl
  | lone => rfl
  | single first rest hfirst ih =>
      rw [onePass_single _ hfirst, List.flatMap_cons, List.flatMap_cons,
        onePass_append _ (ascii_not_mem_utf8EncodeChar hascii hfirst), ih]
  | pair second rest ih =>
      rw [onePass_pair, List.flatMap_cons, List.flatMap_cons, List.flatMap_append, ← ih,
        utf8EncodeChar_of_ascii hascii, List.singleton_append]
      by_cases hsecond : second.toNat < 0x80
      · rw [utf8EncodeChar_of_ascii hsecond, List.singleton_append, onePass_pair,
          bytesOf_ascii hshorthands hsecond]
        cases bracketOf shorthands second with
        | none => simp [utf8EncodeChar_of_ascii hascii, utf8EncodeChar_of_ascii hsecond]
        | some bracket => rfl
      · rw [bracketOf_high hshorthands (Nat.le_of_not_lt hsecond)]
        have hclean := ascii_not_mem_utf8EncodeChar hascii (c := second) (by
          rintro rfl
          exact hsecond hascii)
        have hhigh := @le_of_mem_utf8EncodeChar second (Nat.le_of_not_lt hsecond)
        obtain ⟨byte, more, hbytes⟩ := List.exists_cons_of_ne_nil (utf8EncodeChar_ne_nil second)
        rw [hbytes, List.mem_cons, not_or] at hclean
        rw [hbytes] at hhigh
        rw [hbytes, List.cons_append, onePass_pair,
          bytesOf_high hshorthands (hhigh (List.mem_cons_self ..)), onePass_append _ hclean.2]
        simp [utf8EncodeChar_of_ascii hascii, hbytes]

end Encoded

/-- The rules make a text out of a text. -/
theorem foldl_apply_ofString (text : String) :
    all.foldl (fun bytes shorthand => shorthand.apply bytes) (Bytes.ofString text) =
      Bytes.ofString (String.ofList (onePass '\\' (bracketOf all) text.toList)) := by
  rw [foldl_apply_eq wellFormed_of_mem, Bytes.ofString_eq_flatMap, Bytes.ofString_eq_flatMap,
    String.toList_ofList, onePass_encoded wellFormed_of_mem]

theorem applyRules_map (text : String) :
    applyRules (all.map rule) text =
      .ok (String.ofList (onePass '\\' (bracketOf all) text.toList)) := by
  have hbytes : (all.map rule).foldl (fun bytes rule => (rule.exec bytes).value)
      (Bytes.ofString text) = _ :=
    List.foldl_map.trans (foldl_apply_ofString text)
  simp only [applyRules, hbytes, Bytes.toString?_ofString]

theorem exists_expand (text : String) : ∃ expanded, expand text = .ok expanded := by
  rw [expand]
  split
  · exact ⟨_, applyRules_map text⟩
  · exact ⟨_, rfl⟩

/-- What a text expands to is what the rules make of it, whether there is a backslash or not. -/
theorem expand_eq_ok_iff {text expanded : String} :
    expand text = .ok expanded ↔
      all.foldl (fun bytes shorthand => shorthand.apply bytes) (Bytes.ofString text) =
        Bytes.ofString expanded := by
  rw [expand, foldl_apply_ofString, Bytes.ofString_inj]
  split
  · rw [applyRules_map, Except.ok.injEq]
  · next hclean =>
    rw [List.contains_iff_mem] at hclean
    rw [onePass_of_not_mem hclean, String.ofList_toList, Except.ok.injEq]

/-- Expansion never fails, and is one pass that takes each backslash together with the character
behind it. -/
theorem expand_eq_onePass (text : String) :
    expand text = .ok (String.ofList (onePass '\\' (bracketOf all) text.toList)) := by
  rw [expand]
  split
  · exact applyRules_map text
  · next hclean =>
    rw [List.contains_iff_mem] at hclean
    rw [onePass_of_not_mem hclean, String.ofList_toList]

example : String.ofList (onePass '\\' (bracketOf all) "\\\\d\\\\\\d\\d\\".toList) =
    "\\\\d\\\\[[:digit:]][[:digit:]]\\" := by
  decide

end Shorthand

end BytePattern
