/-
Texts with their shorthands spelled out as bracket expressions.  What stands between the parts of a
pattern is skipped alike before and after.
-/
import BytePattern.Dialect.Node
import BytePattern.Dialect.Spacing
import BytePattern.Proofs.Expansion

namespace BytePattern

open Shorthand (bracketOf)

/-- The shorthands whose bracket expressions hold the same bytes as the classes of their letters. -/
def Shorthand.bytewise : List Shorthand :=
  all.drop 2

open Shorthand (bytewise)

/-- A text with these shorthands spelled out. -/
def spell (text : List Char) : List Char :=
  onePass '\\' (bracketOf bytewise) text

/-- The letters that are spelled out, with their classes and the brackets in their place. -/
inductive Spells : Char → LetterClass → NamedClass → Bool → List Char → Prop where
  | digit : Spells 'd' .digit .digit false "[[:digit:]]".toList
  | notDigit : Spells 'D' .digit .digit true "[^[:digit:]]".toList
  | space : Spells 's' .space .space false "[[:space:]]".toList
  | notSpace : Spells 'S' .space .space true "[^[:space:]]".toList

theorem exists_spells {c : Char} {bracket : List Char} (hc : bracketOf bytewise c = some bracket) :
    ∃ kind named negated, Spells c kind named negated bracket := by
  obtain ⟨shorthand, hfind, rfl⟩ := Option.map_eq_some_iff.mp hc
  have hletter : decide (shorthand.letter = c) = true :=
    List.find?_some (p := fun shorthand : Shorthand => decide (shorthand.letter = c)) hfind
  obtain rfl := of_decide_eq_true hletter
  have hmem := List.mem_of_find?_eq_some hfind
  simp only [bytewise, Shorthand.all, List.drop_succ_cons, List.drop_zero, List.mem_cons,
    List.not_mem_nil, or_false] at hmem
  rcases hmem with rfl | rfl | rfl | rfl
  · exact ⟨_, _, _, .digit⟩
  · exact ⟨_, _, _, .notDigit⟩
  · exact ⟨_, _, _, .space⟩
  · exact ⟨_, _, _, .notSpace⟩

theorem spell_char {c : Char} (rest : List Char) (hc : c ≠ '\\') :
    spell (c :: rest) = c :: spell rest :=
  onePass_single rest hc

theorem spell_escape {c : Char} (rest : List Char) (hc : bracketOf bytewise c = none) :
    spell ('\\' :: c :: rest) = '\\' :: c :: spell rest := by
  rw [spell, onePass_pair, hc]
  rfl

theorem spell_shorthand {c : Char} {bracket : List Char} (rest : List Char)
    (hc : bracketOf bytewise c = some bracket) :
    spell ('\\' :: c :: rest) = bracket ++ spell rest := by
  rw [spell, onePass_pair, hc]
  rfl

/-- How a text and its spelling begin: alike, unless the text begins with a backslash. -/
inductive Spelled : List Char → List Char → Prop where
  | nil : Spelled [] []
  | char (c : Char) (rest : List Char) (hc : c ≠ '\\') : Spelled (c :: rest) (c :: spell rest)
  | backslash (rest : List Char) (c : Char) (more : List Char) (hc : c = '\\' ∨ c = '[') :
      Spelled ('\\' :: rest) (c :: more)

theorem spelled (text : List Char) : Spelled text (spell text) := by
  cases text with
  | nil => exact .nil
  | cons c rest =>
      by_cases hc : c = '\\'
      · subst hc
        cases rest with
        | nil => exact .backslash [] '\\' [] (.inl rfl)
        | cons second rest =>
            cases hsecond : bracketOf bytewise second with
            | none =>
                rw [spell_escape rest hsecond]
                exact .backslash _ _ _ (.inl rfl)
            | some bracket =>
                rw [spell_shorthand rest hsecond]
                obtain ⟨_, _, _, hspells⟩ := exists_spells hsecond
                cases hspells <;> exact .backslash _ _ _ (.inr rfl)
      · rw [spell_char rest hc]
        exact .char c rest hc

/-- A character that is never spelled out begins the text if it begins the spelling. -/
theorem spell_eq_cons {c : Char} {text more : List Char} (hbackslash : c ≠ '\\')
    (hbracket : c ≠ '[') (hspell : spell text = c :: more) :
    ∃ rest, text = c :: rest ∧ more = spell rest := by
  have hspelled := spelled text
  rw [hspell] at hspelled
  cases hspelled with
  | char _ rest => exact ⟨rest, rfl, rfl⟩
  | backslash rest _ _ hc => exact absurd hc (not_or.mpr ⟨hbackslash, hbracket⟩)

/-- Such a character begins both a text and its spelling, or neither. -/
theorem begins_or_not (c : Char) (text : List Char) (hc : c ≠ '\\' ∧ c ≠ '[') :
    (∃ rest, text = c :: rest ∧ spell text = c :: spell rest) ∨
      (∀ rest, text = c :: rest → False) ∧ ∀ more, spell text = c :: more → False := by
  by_cases hbegins : ∃ rest, text = c :: rest
  · obtain ⟨rest, rfl⟩ := hbegins
    exact .inl ⟨rest, rfl, spell_char rest hc.1⟩
  · refine .inr ⟨fun rest htext => hbegins ⟨rest, htext⟩, ?_⟩
    intro more hspell
    obtain ⟨rest, htext, _⟩ := spell_eq_cons hc.1 hc.2 hspell
    exact hbegins ⟨rest, htext⟩

theorem spell_eq_nil {text : List Char} (hspell : spell text = []) : text = [] := by
  have hspelled := spelled text
  rw [hspell] at hspelled
  cases hspelled
  rfl

section Spacing

theorem skipComments_inside (text rest : List Char) (htext : '\n' ∉ text) :
    skipComments true (text ++ rest) = skipComments true rest := by
  induction text with
  | nil => rfl
  | cons c text ih =>
      rw [List.mem_cons, not_or] at htext
      rw [List.cons_append, skipComments, if_pos rfl, bne_iff_ne.mpr (Ne.symm htext.1), ih htext.2]

theorem skipComments_spell (inComment : Bool) (text : List Char) :
    skipComments inComment (spell text) = spell (skipComments inComment text) := by
  induction text using token_induction '\\' generalizing inComment with
  | nil => rfl
  | lone => cases inComment <;> rfl
  | single first rest hfirst ih =>
      rw [spell_char rest hfirst, skipComments, skipComments, ih, ih, ih]
      split
      · rfl
      · split
        · rfl
        · split
          · rfl
          · rw [spell_char rest hfirst]
  | pair second rest ih =>
      -- Outside a comment neither a backslash nor a bracket is skipped; inside one both are.
      cases inComment with
      | false =>
          cases hsecond : bracketOf bytewise second with
          | none =>
              rw [spell_escape rest hsecond]
              exact (spell_escape rest hsecond).symm
          | some bracket =>
              have hskip : skipComments false ('\\' :: second :: rest) = '\\' :: second :: rest :=
                rfl
              rw [hskip, spell_shorthand rest hsecond]
              obtain ⟨_, _, _, hspells⟩ := exists_spells hsecond
              cases hspells <;> rfl
      | true =>
          have hskip : skipComments true ('\\' :: second :: rest) =
              skipComments (second != '\n') rest := rfl
          rw [hskip, ← ih]
          cases hsecond : bracketOf bytewise second with
          | none =>
              rw [spell_escape rest hsecond]
              rfl
          | some bracket =>
              rw [spell_shorthand rest hsecond]
              obtain ⟨_, _, _, hspells⟩ := exists_spells hsecond
              cases hspells <;> exact skipComments_inside _ _ (by decide)

@[simp] theorem skipSpace_spell (verbose : Bool) (text : List Char) :
    skipSpace verbose (spell text) = spell (skipSpace verbose text) := by
  cases verbose with
  | false => rfl
  | true => exact skipComments_spell false text

theorem skipComments_idem (inComment : Bool) (text : List Char) :
    skipComments false (skipComments inComment text) = skipComments inComment text := by
  fun_induction skipComments inComment text with
  | case1 => rfl
  | case2 _ _ ih => exact ih
  | case3 _ _ _ _ _ ih => exact ih
  | case4 _ _ _ _ ih => exact ih
  | case5 inComment c rest hinside hblank hsign =>
      rw [skipComments, if_neg Bool.false_ne_true, if_neg hblank, if_neg hsign]

@[simp] theorem skipSpace_idem (verbose : Bool) (text : List Char) :
    skipSpace verbose (skipSpace verbose text) = skipSpace verbose text := by
  cases verbose with
  | false => rfl
  | true => exact skipComments_idem false text

theorem peekComments_spell (inComment : Bool) (text : List Char) :
    peekComments inComment (spell text) = peekComments inComment text ∨
      peekComments inComment text = some '\\' ∧ peekComments inComment (spell text) = some '[' := by
  induction text generalizing inComment with
  | nil => exact .inl rfl
  | cons c rest ih =>
      have hspelled := spelled (c :: rest)
      generalize spell (c :: rest) = spelling at hspelled ⊢
      cases hspelled with
      | char _ _ hc =>
          rw [peekComments, peekComments]
          split
          · exact ih inComment
          · split
            · exact ih true
            · exact .inl rfl
      | backslash _ first more hfirst =>
          rcases hfirst with rfl | rfl
          · exact .inl rfl
          · exact .inr ⟨rfl, rfl⟩

/-- The character that stands next is the same, or else a backslash with a bracket in its place. -/
theorem peekSpace_spell (verbose : Bool) (text : List Char) :
    peekSpace verbose (spell text) = peekSpace verbose text ∨
      peekSpace verbose text = some '\\' ∧ peekSpace verbose (spell text) = some '[' := by
  have hhead : (spell text).head? = text.head? ∨
      text.head? = some '\\' ∧ (spell text).head? = some '[' := by
    have hspelled := spelled text
    generalize spell text = spelling at hspelled ⊢
    cases hspelled with
    | nil => exact .inl rfl
    | char => exact .inl rfl
    | backslash _ first more hfirst =>
        rcases hfirst with rfl | rfl
        · exact .inl rfl
        · exact .inr ⟨rfl, rfl⟩
  cases verbose with
  | false => exact hhead
  | true =>
      change (peekComments false (spell text) <|> (spell text).head?) =
        (peekComments false text <|> text.head?) ∨ (peekComments false text <|> text.head?) = _ ∧
        (peekComments false (spell text) <|> (spell text).head?) = _
      rcases peekComments_spell false text with hsame | ⟨hnative, hspelled⟩
      · rw [hsame]
        cases peekComments false text with
        | none => exact hhead
        | some c => exact .inl rfl
      · rw [hnative, hspelled]
        exact .inr ⟨rfl, rfl⟩

theorem peekSpace_spell_iff (verbose : Bool) (text : List Char) {c : Char} (hbackslash : c ≠ '\\')
    (hbracket : c ≠ '[') :
    peekSpace verbose (spell text) = some c ↔ peekSpace verbose text = some c := by
  rcases peekSpace_spell verbose text with hsame | ⟨hnative, hspelled⟩
  · rw [hsame]
  · rw [hnative, hspelled, Option.some.injEq, Option.some.injEq]
    exact ⟨fun h => absurd h.symm hbracket, fun h => absurd h.symm hbackslash⟩

theorem dropWhile_spell {skip : Char → Bool} (hbackslash : skip '\\' = false)
    (hbracket : skip '[' = false) (text : List Char) :
    (spell text).dropWhile skip = spell (text.dropWhile skip) := by
  induction text with
  | nil => rfl
  | cons c rest ih =>
      have hspelled := spelled (c :: rest)
      generalize hspelling : spell (c :: rest) = spelling at hspelled ⊢
      cases hspelled with
      | char _ _ hc =>
          rw [List.dropWhile_cons, List.dropWhile_cons, ih]
          split
          · rfl
          · exact hspelling.symm
      | backslash _ first more hfirst =>
          have hskip : skip first = false := by
            rcases hfirst with rfl | rfl <;> assumption
          rw [List.dropWhile_cons, List.dropWhile_cons, hskip, hbackslash]
          exact hspelling.symm

/-- A row of characters that are never spelled out is taken alike. -/
theorem takeSpaced_spell (verbose : Bool) {accept : Char → Bool} (hbackslash : accept '\\' = false)
    (hbracket : accept '[' = false) (text : List Char) :
    takeSpaced verbose accept (spell text) =
      ((takeSpaced verbose accept text).1, spell (takeSpaced verbose accept text).2) := by
  fun_induction takeSpaced verbose accept text with
  | case1 =>
      rw [takeSpaced.eq_def]
      rfl
  | case2 c rest haccept taken after heq ih =>
      have hc : c ≠ '\\' := by
        rintro rfl
        rw [hbackslash] at haccept
        contradiction
      rw [spell_char rest hc, takeSpaced, if_pos haccept, skipSpace_spell, ih, heq]
  | case3 c rest haccept =>
      have hspelled := spelled (c :: rest)
      generalize spell (c :: rest) = spelling at hspelled ⊢
      cases hspelled with
      | char _ _ hc => rw [takeSpaced, if_neg haccept]
      | backslash _ first more hfirst =>
          rw [takeSpaced, if_neg]
          rcases hfirst with rfl | rfl <;> simp [hbackslash, hbracket]

end Spacing

end BytePattern
