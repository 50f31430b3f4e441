/-
The parts of a pattern outside bracket expressions.  A repetition, a group head or an escape that is
no shorthand is read alike when the text behind it is spelled out, and fails alike.
-/
import BytePattern.Dialect.Escape
import BytePattern.Dialect.Repetition
import BytePattern.Proofs.NameCharacters
import BytePattern.Proofs.Spelling

namespace BytePattern

open Shorthand (bracketOf bytewise)

variable {α : Type}

/-- What reading gives, with the text that is left spelled out. -/
def spellRest (result : Except SyntaxFault (α × List Char)) :
    Except SyntaxFault (α × List Char) :=
  result.map (Prod.map id spell)

@[simp] theorem spellRest_ok (a : α) (after : List Char) :
    spellRest (.ok (a, after)) = .ok (a, spell after) := rfl

@[simp] theorem spellRest_error (fault : SyntaxFault) :
    spellRest (.error fault : Except SyntaxFault (α × List Char)) = .error fault := rfl

section Repetition

theorem readGreed_spell (least : Nat) (most : Option Nat) (text : List Char) :
    readGreed least most (spell text) =
      ((readGreed least most text).1, spell (readGreed least most text).2) := by
  rcases begins_or_not '?' text (by decide) with ⟨rest, rfl, hspell⟩ | ⟨htext, hspell⟩
  · rw [hspell]
    rfl
  · rw [readGreed.eq_2 _ _ _ hspell, readGreed.eq_2 _ _ _ htext]

theorem readBound_spell (verbose : Bool) (text : List Char) :
    readBound verbose (spell text) = spellRest (readBound verbose text) := by
  have hblank : isBlank '\\' = false ∧ isBlank '[' = false := by decide
  rw [readBound, readBound, dropWhile_spell hblank.1 hblank.2, takeSpaced_spell verbose rfl rfl]
  dsimp only
  split
  · rfl
  · rw [dropWhile_spell hblank.1 hblank.2, spellRest_ok]

theorem readBraceEnd_spell (verbose : Bool) (least : Nat) (most : Option Nat) (text : List Char) :
    readBraceEnd verbose least most (spell text) =
      spellRest (readBraceEnd verbose least most text) := by
  rcases begins_or_not '\x7d' text (by decide) with ⟨rest, rfl, hspell⟩ | ⟨htext, hspell⟩
  · rw [hspell, readBraceEnd, readBraceEnd, skipSpace_spell, readGreed_spell]
    dsimp only
    split <;> rfl
  · rw [readBraceEnd.eq_2 _ _ _ _ hspell, readBraceEnd.eq_2 _ _ _ _ htext, spellRest_error]

/-- Reads what follows the comma after the first bound. -/
def readMost (verbose : Bool) (least : Nat) (text : List Char) :
    Except SyntaxFault (Repetition × List Char) :=
  match text with
  | '\x7d' :: after => readBraceEnd verbose least none ('\x7d' :: after)
  | text =>
    match readBound verbose text with
    | .error fault => .error fault
    | .ok (most, after) => readBraceEnd verbose least (some most) after

theorem readMost_spell (verbose : Bool) (least : Nat) (text : List Char) :
    readMost verbose least (spell text) = spellRest (readMost verbose least text) := by
  rcases begins_or_not '\x7d' text (by decide) with ⟨rest, rfl, hspell⟩ | ⟨htext, hspell⟩
  · rw [hspell, readMost, readMost, ← hspell]
    exact readBraceEnd_spell verbose least none _
  · rw [readMost.eq_2 _ _ _ hspell, readMost.eq_2 _ _ _ htext, readBound_spell]
    cases readBound verbose text with
    | error fault => rfl
    | ok bounded => exact readBraceEnd_spell verbose least (some bounded.1) bounded.2

/-- Reads what follows the first bound. -/
def readBounds (verbose : Bool) (least : Nat) (text : List Char) :
    Except SyntaxFault (Repetition × List Char) :=
  match text with
  | ',' :: rest => readMost verbose least (skipSpace verbose rest)
  | text => readBraceEnd verbose least (some least) text

theorem readBounds_spell (verbose : Bool) (least : Nat) (text : List Char) :
    readBounds verbose least (spell text) = spellRest (readBounds verbose least text) := by
  rcases begins_or_not ',' text (by decide) with ⟨rest, rfl, hspell⟩ | ⟨htext, hspell⟩
  · rw [hspell, readBounds, readBounds, skipSpace_spell]
    exact readMost_spell verbose least _
  · rw [readBounds.eq_2 _ _ _ hspell, readBounds.eq_2 _ _ _ htext]
    exact readBraceEnd_spell verbose least (some least) text

theorem readBraces_of_bound {verbose : Bool} {text after : List Char} {least : Nat}
    (hbound : readBound verbose (skipSpace verbose text) = .ok (least, after)) :
    readBraces verbose text = readBounds verbose least after := by
  rw [readBraces, hbound]
  split
  · next heq => contradiction
  · next heq =>
    obtain ⟨rfl, rfl⟩ := Prod.mk.inj (Except.ok.inj heq)
    rfl
  · next hcomma heq =>
    obtain ⟨rfl, rfl⟩ := Prod.mk.inj (Except.ok.inj heq)
    rw [readBounds.eq_2]
    rintro rest rfl
    exact hcomma _ rfl

theorem readBraces_spell (verbose : Bool) (text : List Char) :
    readBraces verbose (spell text) = spellRest (readBraces verbose text) := by
  have hspell := readBound_spell verbose (skipSpace verbose text)
  rw [← skipSpace_spell] at hspell
  cases hbound : readBound verbose (skipSpace verbose text) with
  | error fault =>
      rw [hbound, spellRest_error] at hspell
      rw [readBraces, readBraces, hspell, hbound, spellRest_error]
  | ok bounded =>
      obtain ⟨least, after⟩ := bounded
      rw [hbound, spellRest_ok] at hspell
      rw [readBraces_of_bound hbound, readBraces_of_bound hspell]
      exact readBounds_spell verbose least after

theorem readRepetition?_spell (verbose : Bool) (c : Char) (rest : List Char) :
    readRepetition? verbose c (spell rest) = (readRepetition? verbose c rest).map spellRest := by
  unfold readRepetition?
  split
  · rw [readGreed_spell]
    rfl
  · rw [readGreed_spell]
    rfl
  · rw [readGreed_spell]
    rfl
  · rw [readBraces_spell]
    rfl
  · rfl

end Repetition

section Head

theorem readFlags_spell (negated dangling : Bool) (settings : FlagSettings) (text : List Char) :
    readFlags negated dangling settings (spell text) =
      spellRest (readFlags negated dangling settings text) := by
  induction text generalizing negated dangling settings with
  | nil => rfl
  | cons c rest ih =>
      have hspelled := spelled (c :: rest)
      generalize spell (c :: rest) = spelling at hspelled ⊢
      cases hspelled with
      | char _ _ hc =>
          rw [readFlags, readFlags, ih]
          split
          · split
            · rfl
            · split
              · rfl
              · split <;> rfl
          · split
            · split <;> rfl
            · split
              · rfl
              · rw [ih]
                split <;> rfl
      | backslash _ first more hfirst => rcases hfirst with rfl | rfl <;> rfl

theorem readName_of_barred {isFirst : Bool} {c : Char} (rest : List Char)
    (hc : c = '\\' ∨ c = ':' ∨ c = '^') :
    readName isFirst (c :: rest) = .error .groupNameInvalid := by
  have hclose : c ≠ '>' := by
    rcases hc with rfl | rfl | rfl <;> decide
  rw [readName, if_neg hclose, isNameChar_eq_false hc]
  rfl

theorem readName_bracket {isFirst : Bool} {rest : List Char}
    (hrest : readName false rest = .error .groupNameInvalid) :
    readName isFirst ('[' :: rest) = .error .groupNameInvalid := by
  cases isFirst with
  | true =>
      rw [readName, isNameChar_bracket]
      rfl
  | false =>
      rw [readName, hrest]
      rfl

/-- A name that holds a shorthand is none, before the shorthand is spelled out and after. -/
theorem readName_shorthand (isFirst : Bool) (rest : List Char) :
    readName isFirst (spell ('\\' :: rest)) = .error .groupNameInvalid := by
  cases rest with
  | nil => exact readName_of_barred [] (.inl rfl)
  | cons second rest =>
      cases hsecond : bracketOf bytewise second with
      | none =>
          rw [spell_escape rest hsecond]
          exact readName_of_barred _ (.inl rfl)
      | some bracket =>
          rw [spell_shorthand rest hsecond]
          obtain ⟨_, _, _, hspells⟩ := exists_spells hsecond
          have hcolon (text : List Char) :
              readName false (':' :: text) = .error .groupNameInvalid :=
            readName_of_barred text (.inr (.inl rfl))
          have hcaret (text : List Char) :
              readName false ('^' :: text) = .error .groupNameInvalid :=
            readName_of_barred text (.inr (.inr rfl))
          -- A name may hold brackets, but not what follows them in a spelling.
          cases hspells with
          | digit => exact readName_bracket (readName_bracket (hcolon _))
          | notDigit => exact readName_bracket (hcaret _)
          | space => exact readName_bracket (readName_bracket (hcolon _))
          | notSpace => exact readName_bracket (hcaret _)

theorem readName_spell (isFirst : Bool) (text : List Char) :
    readName isFirst (spell text) = spellRest (readName isFirst text) := by
  induction text generalizing isFirst with
  | nil => rfl
  | cons c rest ih =>
      by_cases hc : c = '\\'
      · subst hc
        rw [readName_shorthand, readName_of_barred rest (.inl rfl), spellRest_error]
      · rw [spell_char rest hc, readName, readName, ih]
        split
        · rfl
        · split
          · cases readName false rest <;> rfl
          · rfl

theorem readNamedGroup_spell (text : List Char) :
    readNamedGroup (spell text) = spellRest (readNamedGroup text) := by
  rw [readNamedGroup, readNamedGroup, readName_spell]
  cases readName true text with
  | error fault => rfl
  | ok named =>
      obtain ⟨name, after⟩ := named
      cases name <;> rfl

/-- Reads what follows the question mark behind an opening parenthesis. -/
def readMarked (text : List Char) : Except SyntaxFault (GroupHead × List Char) :=
  match text with
  | '=' :: _ => .error .lookAroundUnsupported
  | '!' :: _ => .error .lookAroundUnsupported
  | '<' :: '=' :: _ => .error .lookAroundUnsupported
  | '<' :: '!' :: _ => .error .lookAroundUnsupported
  | 'P' :: '<' :: after => readNamedGroup after
  | '<' :: after => readNamedGroup after
  | _ => readFlags false false [] text

/-- Two characters that are never spelled out begin the text if they begin the spelling. -/
theorem spell_eq_cons_cons {c d : Char} {text more : List Char} (hc : c ≠ '\\' ∧ c ≠ '[')
    (hd : d ≠ '\\' ∧ d ≠ '[') (hspell : spell text = c :: d :: more) :
    ∃ rest, text = c :: d :: rest ∧ more = spell rest := by
  obtain ⟨rest, rfl, hrest⟩ := spell_eq_cons hc.1 hc.2 hspell
  obtain ⟨last, rfl, rfl⟩ := spell_eq_cons hd.1 hd.2 hrest.symm
  exact ⟨last, rfl, rfl⟩

theorem readMarked_spell (text : List Char) :
    readMarked (spell text) = spellRest (readMarked text) := by
  rw [readMarked.eq_def]
  split
  · next heq =>
    obtain ⟨rest, rfl, _⟩ := spell_eq_cons (by decide) (by decide) heq
    rfl
  · next heq =>
    obtain ⟨rest, rfl, _⟩ := spell_eq_cons (by decide) (by decide) heq
    rfl
  · next heq =>
    obtain ⟨rest, rfl, _⟩ := spell_eq_cons_cons (by decide) (by decide) heq
    rfl
  · next heq =>
    obtain ⟨rest, rfl, _⟩ := spell_eq_cons_cons (by decide) (by decide) heq
    rfl
  · next heq =>
    obtain ⟨rest, rfl, rfl⟩ := spell_eq_cons_cons (by decide) (by decide) heq
    exact readNamedGroup_spell rest
  · next hequal hexclamation heq =>
    obtain ⟨rest, rfl, rfl⟩ := spell_eq_cons (by decide) (by decide) heq
    rw [readMarked.eq_6]
    · exact readNamedGroup_spell rest
    · rintro more rfl
      exact hequal _ (spell_char more (by decide))
    · rintro more rfl
      exact hexclamation _ (spell_char more (by decide))
  · next hequal hexclamation _ _ hnamed hangle =>
    rw [readMarked.eq_7]
    · exact readFlags_spell false false [] text
    all_goals
      intros
      subst_vars
      simp_all [spell_char]

/-- Reads the opening of a group behind the space after the parenthesis. -/
def readOpening (text : List Char) : Except SyntaxFault (GroupHead × List Char) :=
  match text with
  | '?' :: rest => readMarked rest
  | text => .ok (.capture none, text)

theorem readOpening_spell (text : List Char) :
    readOpening (spell text) = spellRest (readOpening text) := by
  rcases begins_or_not '?' text (by decide) with ⟨rest, rfl, hspell⟩ | ⟨htext, hspell⟩
  · rw [hspell]
    exact readMarked_spell rest
  · rw [readOpening.eq_2 _ hspell, readOpening.eq_2 _ htext, spellRest_ok]

theorem readGroupHead_spell (verbose : Bool) (text : List Char) :
    readGroupHead verbose (spell text) = spellRest (readGroupHead verbose text) := by
  have hopening (text : List Char) :
      readGroupHead verbose text = readOpening (skipSpace verbose text) := by
    rw [readGroupHead, readOpening.eq_def]
    rfl
  rw [hopening, hopening, skipSpace_spell, readOpening_spell]

end Head

section Escape

theorem readHexDigits_spell (verbose : Bool) (n : Nat) (text : List Char) :
    readHexDigits verbose n (spell text) = spellRest (readHexDigits verbose n text) := by
  induction n generalizing text with
  | zero => rfl
  | succ n ih =>
      have hspelled := spelled text
      generalize spell text = spelling at hspelled ⊢
      cases hspelled with
      | nil => rfl
      | char c rest hc =>
          rw [readHexDigits, readHexDigits, skipSpace_spell, ih]
          split
          · cases readHexDigits verbose n (skipSpace verbose rest) <;> rfl
          · rfl
      | backslash _ first more hfirst => rcases hfirst with rfl | rfl <;> rfl

/-- Reads what follows a row of hexadecimal digits in braces, given the row and what follows it. -/
def readHexEnd (verbose : Bool) (taken : List Char × List Char) :
    Except SyntaxFault (Literal × List Char) :=
  match taken with
  | ([], _) => .error .hexInvalid
  | (digits, '\x7d' :: after) =>
    match charOfHex digits with
    | .ok c => .ok (⟨c, false⟩, skipSpace verbose after)
    | .error fault => .error fault
  | _ => .error .hexInvalid

theorem readHexEnd_spell (verbose : Bool) (digits text : List Char) :
    readHexEnd verbose (digits, spell text) = spellRest (readHexEnd verbose (digits, text)) := by
  cases digits with
  | nil => rfl
  | cons digit digits =>
      have hdigits : digit :: digits ≠ [] := List.cons_ne_nil _ _
      have hopen {text : List Char} (htext : ∀ rest, text = '\x7d' :: rest → False) :
          readHexEnd verbose (digit :: digits, text) = .error .hexInvalid := by
        apply readHexEnd.eq_3
        · intro _ heq
          cases heq
        · intro _ rest heq
          exact htext rest (Prod.mk.inj heq).2
      rcases begins_or_not '\x7d' text (by decide) with ⟨rest, rfl, hspell⟩ | ⟨htext, hspell⟩
      · rw [hspell, readHexEnd.eq_2 _ _ _ hdigits, readHexEnd.eq_2 _ _ _ hdigits, skipSpace_spell]
        cases charOfHex (digit :: digits) <;> rfl
      · rw [hopen hspell, hopen htext, spellRest_error]

/-- Reads a code point behind the space after its letter. -/
def readHexBody (verbose : Bool) (letter : Char) (text : List Char) :
    Except SyntaxFault (Literal × List Char) :=
  match text with
  | [] => .error .escapeUnfinished
  | '\x7b' :: rest =>
    readHexEnd verbose (takeSpaced verbose (fun c => (hexValue? c).isSome) (skipSpace verbose rest))
  | text =>
    match readHexDigits verbose (hexLength letter) text with
    | .error fault => .error fault
    | .ok (digits, after) =>
      match charOfHex digits with
      | .ok c => .ok (⟨c, decide (letter = 'x' ∧ c.toNat < 256)⟩, after)
      | .error fault => .error fault

theorem readHex_eq (verbose : Bool) (letter : Char) (text : List Char) :
    readHex verbose letter text = readHexBody verbose letter (skipSpace verbose text) := by
  rw [readHex, readHexBody.eq_def]
  rfl

theorem readHexBody_spell (verbose : Bool) (letter : Char) (text : List Char) :
    readHexBody verbose letter (spell text) = spellRest (readHexBody verbose letter text) := by
  rcases begins_or_not '\x7b' text (by decide) with ⟨rest, rfl, hspell⟩ | ⟨htext, hspell⟩
  · rw [hspell, readHexBody, readHexBody, skipSpace_spell, takeSpaced_spell verbose rfl rfl]
    exact readHexEnd_spell verbose _ _
  · by_cases hnil : text = []
    · subst hnil
      rfl
    · rw [readHexBody.eq_3 _ _ _ (mt spell_eq_nil hnil) hspell, readHexBody.eq_3 _ _ _ hnil htext,
        readHexDigits_spell]
      cases readHexDigits verbose (hexLength letter) text with
      | error fault => rfl
      | ok read =>
          obtain ⟨digits, after⟩ := read
          rw [spellRest_ok]
          dsimp only
          cases charOfHex digits <;> rfl

theorem readHex_spell (verbose : Bool) (letter : Char) (text : List Char) :
    readHex verbose letter (spell text) = spellRest (readHex verbose letter text) := by
  rw [readHex_eq, readHex_eq, skipSpace_spell, readHexBody_spell]

/-- Reads what follows the name in braces behind `\b`, given the name and what follows it. -/
def readBoundaryEnd (taken : List Char × List Char) : Except SyntaxFault (Assertion × List Char) :=
  match taken with
  | (name, '\x7d' :: after) =>
    match boundaryOf? (String.ofList name) with
    | some boundary => .ok (boundary, after)
    | none => .error .boundaryUnknown
  | _ => .error .boundaryUnclosed

theorem readBoundaryEnd_spell (name text : List Char) :
    readBoundaryEnd (name, spell text) = spellRest (readBoundaryEnd (name, text)) := by
  have hopen {text : List Char} (htext : ∀ rest, text = '\x7d' :: rest → False) :
      readBoundaryEnd (name, text) = .error .boundaryUnclosed := by
    apply readBoundaryEnd.eq_2
    intro _ rest heq
    exact htext rest (Prod.mk.inj heq).2
  rcases begins_or_not '\x7d' text (by decide) with ⟨rest, rfl, hspell⟩ | ⟨htext, hspell⟩
  · rw [hspell, readBoundaryEnd, readBoundaryEnd]
    cases boundaryOf? (String.ofList name) <;> rfl
  · rw [hopen hspell, hopen htext, spellRest_error]

/-- Reads what follows `\b` and an opening brace, which is left alone if it begins no name. -/
def readBoundaryName (verbose : Bool) (rest : List Char) : List Char →
    Except SyntaxFault (Assertion × List Char)
  | [] => .error .boundaryUnclosed
  | c :: more =>
    if isBoundaryLetter c then
      readBoundaryEnd (takeSpaced verbose isBoundaryLetter (c :: more))
    else .ok (.wordBoundary, '\x7b' :: rest)

theorem readBoundaryName_spell (verbose : Bool) (rest text : List Char) :
    readBoundaryName verbose (spell rest) (spell text) =
      spellRest (readBoundaryName verbose rest text) := by
  have hplain : .ok (.wordBoundary, '\x7b' :: spell rest) =
      spellRest (.ok (Assertion.wordBoundary, '\x7b' :: rest)) := by
    rw [spellRest_ok, spell_char rest (by decide)]
  have hspelled := spelled text
  generalize hspelling : spell text = spelling at hspelled ⊢
  cases hspelled with
  | nil => rfl
  | char c more hc =>
      rw [readBoundaryName, readBoundaryName, ← hspelling, takeSpaced_spell verbose rfl rfl]
      split
      · exact readBoundaryEnd_spell _ _
      · exact hplain
  | backslash _ first more hfirst => rcases hfirst with rfl | rfl <;> exact hplain

theorem readBoundary_brace (verbose : Bool) (rest : List Char) :
    readBoundary verbose ('\x7b' :: rest) =
      readBoundaryName verbose rest (skipSpace verbose rest) := by
  rw [readBoundary, readBoundaryName.eq_def]
  rfl

theorem readBoundary_spell (verbose : Bool) (text : List Char) :
    readBoundary verbose (spell text) = spellRest (readBoundary verbose text) := by
  rcases begins_or_not '\x7b' text (by decide) with ⟨rest, rfl, hspell⟩ | ⟨htext, hspell⟩
  · rw [hspell, readBoundary_brace, readBoundary_brace, skipSpace_spell, readBoundaryName_spell]
  · rw [readBoundary.eq_2 _ _ hspell, readBoundary.eq_2 _ _ htext, spellRest_ok]

/-- What follows a backslash is read alike, whatever is spelled out behind it, unless it is the name
of a property. -/
theorem readEscape_spell (verbose : Bool) {c : Char} (rest : List Char) (hc : c ≠ 'p' ∧ c ≠ 'P') :
    readEscape verbose (c :: spell rest) = spellRest (readEscape verbose (c :: rest)) := by
  rw [readEscape, readEscape, readHex_spell, readBoundary_spell]
  split
  · rfl
  · split
    · cases readHex verbose c rest <;> rfl
    · rw [if_neg (not_or.mpr hc), if_neg (not_or.mpr hc)]
      split
      · cases readBoundary verbose rest <;> rfl
      · split
        · rfl
        · rfl
        · rfl
        · split <;> rfl

end Escape

end BytePattern
