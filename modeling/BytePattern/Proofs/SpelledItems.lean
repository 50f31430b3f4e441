/-
The items of bracket expressions, with their shorthands spelled out.  They are read in step with the
native ones, except for a range that has a shorthand for an end: that is an error, and may be none
when the shorthand is spelled out.
-/
import BytePattern.Dialect.Bracket
import BytePattern.Proofs.SpelledNodes
import BytePattern.Proofs.SpelledParts

namespace BytePattern

open Shorthand (bracketOf bytewise)

section InStep

variable {α : Type}

/-- Whatever comes of reading. -/
def Only (holds : α → Prop) (result : Except SyntaxFault (α × List Char)) : Prop :=
  ∀ a after, result = .ok (a, after) → holds a

theorem only_error (holds : α → Prop) (fault : SyntaxFault) : Only holds (.error fault) := by
  intro _ _ hresult
  contradiction

/-- What is read from a text and from its spelling: the same but for what is spelled out, or on both
sides nothing but what is blocked. -/
def InStep (spellOut : α → α) (blocked : α → Prop)
    (native spelled : Except SyntaxFault (α × List Char)) : Prop :=
  spelled = native.map (Prod.map spellOut spell) ∨ Only blocked native ∧ Only blocked spelled

variable {spellOut : α → α} {blocked : α → Prop}

theorem inStep_error (fault fault' : SyntaxFault) :
    InStep spellOut blocked (.error fault) (.error fault') :=
  .inr ⟨only_error _ _, only_error _ _⟩

theorem inStep_ok (a : α) (after : List Char) :
    InStep spellOut blocked (.ok (a, after)) (.ok (spellOut a, spell after)) :=
  .inl rfl

variable {β : Type} {native spelled : Except SyntaxFault (α × List Char)} {f f' : α → β}

theorem Only.map {holds : α → Prop} {holds' : β → Prop} (honly : Only holds native)
    (hf : ∀ a, holds a → holds' (f a)) : Only holds' (native.map (Prod.map f id)) := by
  intro b after hmap
  cases native with
  | error fault => contradiction
  | ok found =>
      obtain ⟨rfl, _⟩ := Prod.mk.inj (Except.ok.inj hmap)
      exact hf found.1 (honly found.1 found.2 rfl)

/-- What is made of what is read in step is in step again. -/
theorem InStep.map {spellOut' : β → β} {blocked' : β → Prop}
    (hstep : InStep spellOut blocked native spelled)
    (hsame : ∀ a after, native = .ok (a, after) → f' (spellOut a) = spellOut' (f a))
    (hnative : ∀ a, blocked a → blocked' (f a)) (hspelled : ∀ a, blocked a → blocked' (f' a)) :
    InStep spellOut' blocked' (native.map (Prod.map f id)) (spelled.map (Prod.map f' id)) := by
  rcases hstep with rfl | ⟨honly, honly'⟩
  · cases native with
    | error fault => exact inStep_error _ _
    | ok found =>
        exact .inl (congrArg Except.ok (Prod.ext (hsame found.1 found.2 rfl) rfl))
  · exact .inr ⟨honly.map hnative, honly'.map hspelled⟩

end InStep

/-- A character, what follows it, and what follows it in the spelling, where the spelling begins
with that character too. -/
inductive Aligned : Char → List Char → List Char → Prop where
  | char (c : Char) (rest : List Char) (hc : c ≠ '\\') : Aligned c rest (spell rest)
  | lone : Aligned '\\' [] []
  | escape (letter : Char) (rest : List Char) (hletter : bracketOf bytewise letter = none) :
      Aligned '\\' (letter :: rest) (letter :: spell rest)

theorem Aligned.eq_spell {c : Char} {rest more : List Char} (haligned : Aligned c rest more)
    (hc : c ≠ '\\') : more = spell rest := by
  cases haligned with
  | char => rfl
  | lone => contradiction
  | escape => contradiction

/-- A text that begins with a shorthand, and its spelling. -/
inductive Abbreviated (kind : LetterClass) (named : NamedClass) (negated : Bool) :
    Char → List Char → List Char → Prop where
  | intro (letter : Char) (bracket rest : List Char)
      (hspells : Spells letter kind named negated bracket) :
      Abbreviated kind named negated '\\' (letter :: rest) (bracket ++ spell rest)

/-- A spelling begins as its text does, or the text begins with a shorthand. -/
theorem aligned_or_abbreviated (c : Char) (rest : List Char) :
    (∃ more, spell (c :: rest) = c :: more ∧ Aligned c rest more) ∨
      ∃ kind named negated spelling, spell (c :: rest) = spelling ∧
        Abbreviated kind named negated c rest spelling := by
  by_cases hc : c = '\\'
  · subst hc
    cases rest with
    | nil => exact .inl ⟨[], rfl, .lone⟩
    | cons letter rest =>
        cases hletter : bracketOf bytewise letter with
        | none => exact .inl ⟨_, spell_escape rest hletter, .escape letter rest hletter⟩
        | some bracket =>
            obtain ⟨kind, named, negated, hspells⟩ := exists_spells hletter
            exact .inr ⟨kind, named, negated, _, spell_shorthand rest hletter,
              .intro letter bracket rest hspells⟩
  · exact .inl ⟨_, spell_char rest hc, .char c rest hc⟩

section Primitive

/-- Whether an escape names a property. -/
def Primitive.isProperty : Primitive → Bool
  | property _ _ => true
  | _ => false

/-- Whether an escape is a class with a letter of its own. -/
def Primitive.isLetterClass : Primitive → Bool
  | letterClass _ _ => true
  | _ => false

theorem readEscape_property (verbose : Bool) {c : Char} (rest : List Char)
    (hc : c = 'p' ∨ c = 'P') : Only (·.isProperty) (readEscape verbose (c :: rest)) := by
  have hdigit : ¬c.isDigit = true := by
    rcases hc with rfl | rfl <;> decide
  have hhex : ¬(c = 'x' ∨ c = 'u' ∨ c = 'U') := by
    rcases hc with rfl | rfl <;> decide
  have hread : readEscape verbose (c :: rest) =
      (readProperty verbose rest).map (Prod.map (.property · (c == 'P')) id) := by
    rw [readEscape, if_neg hdigit, if_neg hhex, if_pos hc]
    cases readProperty verbose rest <;> rfl
  have hany : Only (fun _ => True) (readProperty verbose rest) := fun _ _ _ => trivial
  rw [hread]
  exact hany.map fun _ _ => rfl

/-- What comes of an escape that is spelled out. -/
theorem Spells.readEscape_eq {letter : Char} {kind : LetterClass} {named : NamedClass}
    {negated : Bool} {bracket : List Char} (hspells : Spells letter kind named negated bracket)
    (verbose : Bool) (rest : List Char) :
    readEscape verbose (letter :: rest) = .ok (.letterClass kind negated, rest) := by
  cases hspells <;> rfl

theorem Spells.named? {letter : Char} {kind : LetterClass} {named : NamedClass}
    {negated : Bool} {bracket : List Char} (hspells : Spells letter kind named negated bracket) :
    kind.named? = some named := by
  cases hspells <;> rfl

/-- The class of a letter that is not spelled out has no bracket. -/
theorem named?_of_readEscape {verbose : Bool} {c : Char} {rest after : List Char}
    {kind : LetterClass} {negated : Bool} (hc : bracketOf bytewise c = none)
    (hread : readEscape verbose (c :: rest) = .ok (.letterClass kind negated, after)) :
    kind.named? = none := by
  have hclass : letterClassOf? c = some (kind, negated) := by
    rw [readEscape] at hread
    split at hread
    · contradiction
    · split at hread
      · split at hread <;> cases hread
      · split at hread
        · split at hread <;> cases hread
        · split at hread
          · split at hread <;> cases hread
          · split at hread
            · next hclass _ =>
              cases hread
              assumption
            · cases hread
            · cases hread
            · split at hread <;> cases hread
  unfold letterClassOf? at hclass
  split at hclass <;> cases hclass <;> first | rfl | cases hc

variable {verbose : Bool} {c : Char} {rest more : List Char}

theorem readSetPrimitive_spell (verbose : Bool) (haligned : Aligned c rest more) :
    InStep id (·.isProperty) (readSetPrimitive verbose c rest)
      (readSetPrimitive verbose c more) := by
  cases haligned with
  | char _ _ hc =>
      rw [readSetPrimitive, readSetPrimitive, if_neg hc, if_neg hc]
      exact inStep_ok _ _
  | lone => exact inStep_error _ _
  | escape letter rest hletter =>
      change InStep id _ (readEscape verbose (letter :: rest))
        (readEscape verbose (letter :: spell rest))
      by_cases hproperty : letter = 'p' ∨ letter = 'P'
      · have hnamed (text : List Char) := readEscape_property verbose text hproperty
        exact .inr ⟨hnamed _, hnamed _⟩
      · exact .inl (readEscape_spell verbose rest (not_or.mp hproperty))

/-- The class of a letter that is read where text and spelling begin alike has no bracket. -/
theorem named?_of_aligned {kind : LetterClass} {negated : Bool} {after : List Char}
    (haligned : Aligned c rest more)
    (hread : readSetPrimitive verbose c rest = .ok (.letterClass kind negated, after)) :
    kind.named? = none := by
  cases haligned with
  | char _ _ hc =>
      rw [readSetPrimitive, if_neg hc] at hread
      cases hread
  | lone => contradiction
  | escape letter rest hletter => exact named?_of_readEscape hletter hread

theorem spell_toSetNode {first : Primitive} {after : List Char} {item : SetNode}
    (haligned : Aligned c rest more)
    (hread : readSetPrimitive verbose c rest = .ok (first, after))
    (hitem : first.toSetNode = .ok item) : item.spell = item := by
  cases first with
  | literal l =>
      cases hitem
      rfl
  | assertion a => contradiction
  | property name negated =>
      cases hitem
      rfl
  | letterClass kind negated =>
      cases hitem
      rw [SetNode.spell, named?_of_aligned haligned hread]

end Primitive

section NamedClass

/-- Whether a character is no colon. -/
def isNoColon (c : Char) : Bool :=
  c != ':'

/-- A name without a backslash is not spelled out, and ends where it ended. -/
theorem takeWhile_noColon_spell {text : List Char} (hclean : '\\' ∉ text.takeWhile isNoColon) :
    (spell text).takeWhile isNoColon = text.takeWhile isNoColon ∧
      (spell text).dropWhile isNoColon = spell (text.dropWhile isNoColon) := by
  induction text with
  | nil => exact ⟨rfl, rfl⟩
  | cons c rest ih =>
      by_cases hcolon : isNoColon c = true
      · rw [List.takeWhile_cons_of_pos hcolon, List.mem_cons, not_or] at hclean
        obtain ⟨hname, hrest⟩ := ih hclean.2
        rw [spell_char rest (Ne.symm hclean.1), List.takeWhile_cons_of_pos hcolon,
          List.takeWhile_cons_of_pos hcolon, List.dropWhile_cons_of_pos hcolon,
          List.dropWhile_cons_of_pos hcolon, hname, hrest]
        exact ⟨rfl, rfl⟩
      · have hc : c ≠ '\\' := by
          rintro rfl
          exact hcolon rfl
        rw [List.takeWhile_cons_of_neg hcolon, List.dropWhile_cons_of_neg hcolon,
          spell_char rest hc, List.takeWhile_cons_of_neg hcolon, List.dropWhile_cons_of_neg hcolon]
        exact ⟨rfl, rfl⟩

/-- A name with a backslash keeps it, or gets a bracket in its place. -/
theorem exists_mem_takeWhile_spell {text : List Char}
    (hbackslash : '\\' ∈ text.takeWhile isNoColon) :
    ∃ c ∈ (spell text).takeWhile isNoColon, c = '\\' ∨ c = '[' := by
  induction text with
  | nil => contradiction
  | cons c rest ih =>
      have hspelled := spelled (c :: rest)
      generalize spell (c :: rest) = spelling at hspelled ⊢
      cases hspelled with
      | char _ _ hc =>
          rw [List.takeWhile_cons] at hbackslash ⊢
          split
          · next hcolon =>
            rw [if_pos hcolon, List.mem_cons] at hbackslash
            obtain ⟨found, hmem, hfound⟩ := ih (hbackslash.resolve_left (Ne.symm hc))
            exact ⟨found, List.mem_cons_of_mem c hmem, hfound⟩
          · next hcolon =>
            rw [if_neg hcolon] at hbackslash
            contradiction
      | backslash _ first more hfirst =>
          refine ⟨first, ?_, hfirst⟩
          rcases hfirst with rfl | rfl <;> exact List.mem_cons_self ..

theorem NamedClass.ofName?_eq_none {name : List Char} {c : Char} (hmem : c ∈ name)
    (hc : c = '\\' ∨ c = '[') : ofName? (String.ofList name) = none := by
  cases hkind : ofName? (String.ofList name) with
  | none => rfl
  | some kind =>
      have hclean : ∀ entry ∈ names, '\\' ∉ entry.1.toList ∧ '[' ∉ entry.1.toList := by decide
      obtain ⟨front, back, hnames, _⟩ := List.lookup_eq_some_iff.mp hkind
      have hentry := hclean (String.ofList name, kind) (hnames ▸ List.mem_append_cons_self)
      rw [String.toList_ofList] at hentry
      rcases hc with rfl | rfl
      · exact absurd hmem hentry.1
      · exact absurd hmem hentry.2

/-- Reads the name of a class behind its opening colon, and the negation of the class, if any. -/
def readClassName? (negated : Bool) (text : List Char) :
    Option ((NamedClass × Bool) × List Char) :=
  match text.dropWhile isNoColon with
  | ':' :: ']' :: after =>
    (NamedClass.ofName? (String.ofList (text.takeWhile isNoColon))).map fun kind =>
      ((kind, negated), after)
  | _ => none

theorem readNamedClass?_colon (rest : List Char) :
    readNamedClass? (':' :: rest) =
      readClassName? (rest.head? == some '^')
        (if rest.head? == some '^' then rest.tail else rest) := by
  rw [readNamedClass?]
  generalize (if (rest.head? == some '^') = true then rest.tail else rest) = text
  have hdrop : text.drop (text.takeWhile isNoColon).length = text.dropWhile isNoColon := by
    have happend := List.takeWhile_append_dropWhile (p := isNoColon) (l := text)
    nth_rewrite 2 [← happend]
    exact List.drop_left
  have hcolon : (fun c => c != ':') = isNoColon := rfl
  rw [hcolon, hdrop]
  rfl

theorem readClassName?_spell (negated : Bool) (text : List Char) :
    readClassName? negated (spell text) =
      (readClassName? negated text).map (Prod.map id spell) := by
  by_cases hbackslash : '\\' ∈ text.takeWhile isNoColon
  · obtain ⟨c, hmem, hc⟩ := exists_mem_takeWhile_spell hbackslash
    rw [readClassName?, readClassName?, NamedClass.ofName?_eq_none hmem hc,
      NamedClass.ofName?_eq_none hbackslash (.inl rfl)]
    split <;> split <;> rfl
  · obtain ⟨hname, hrest⟩ := takeWhile_noColon_spell hbackslash
    rw [readClassName?, readClassName?, hname, hrest]
    generalize text.dropWhile isNoColon = text
    by_cases hend : ∃ after, text = ':' :: ']' :: after
    · obtain ⟨after, rfl⟩ := hend
      rw [spell_char _ (by decide), spell_char _ (by decide)]
      cases NamedClass.ofName? _ <;> rfl
    · split
      · next more heq =>
        obtain ⟨after, rfl, _⟩ := spell_eq_cons_cons (by decide) (by decide) heq
        exact absurd ⟨after, rfl⟩ hend
      · split
        · exact absurd ⟨_, rfl⟩ hend
        · rfl

theorem head?_spell_caret (text : List Char) :
    ((spell text).head? == some '^') = (text.head? == some '^') := by
  have hspelled := spelled text
  generalize spell text = spelling at hspelled ⊢
  cases hspelled with
  | nil => rfl
  | char => rfl
  | backslash _ first more hfirst => rcases hfirst with rfl | rfl <;> rfl

theorem tail_spell_caret {text : List Char} (hcaret : (text.head? == some '^') = true) :
    (spell text).tail = spell text.tail := by
  cases text with
  | nil => contradiction
  | cons c rest =>
      obtain rfl := Option.some.inj (eq_of_beq hcaret)
      rw [spell_char rest (by decide)]
      rfl

/-- A named class holds no shorthand, before it is spelled out or after. -/
theorem readNamedClass?_spell (text : List Char) :
    readNamedClass? (spell text) = (readNamedClass? text).map (Prod.map id spell) := by
  rcases begins_or_not ':' text (by decide) with ⟨rest, rfl, hspell⟩ | ⟨htext, hspell⟩
  · rw [hspell, readNamedClass?_colon, readNamedClass?_colon, head?_spell_caret,
      ← readClassName?_spell]
    split
    · next hcaret => rw [tail_spell_caret hcaret]
    · rfl
  · rw [readNamedClass?.eq_2 _ hspell, readNamedClass?.eq_2 _ htext]
    rfl

end NamedClass

section Start

/-- Reads what a bracket may start with behind its negation. -/
def readBracketItems (verbose negated : Bool) (taken : List Char × List Char) :
    Except SyntaxFault (BracketLevel × List Char) :=
  match taken.2 with
  | [] => .error .classUnclosed
  | c :: rest =>
    if taken.1.isEmpty ∧ c = ']' then
      match skipSpace verbose rest with
      | [] => .error .classUnclosed
      | text => .ok (⟨negated, none, [.literal ⟨']', false⟩]⟩, text)
    else .ok (⟨negated, none, taken.1.map fun c => SetNode.literal ⟨c, false⟩⟩, c :: rest)

theorem readBracketStart_eq (verbose : Bool) (text : List Char) :
    readBracketStart verbose text =
      readBracketItems verbose ((skipSpace verbose text).head? == some '^')
        (takeSpaced verbose (· == '-')
          (if (skipSpace verbose text).head? == some '^' then
            skipSpace verbose (skipSpace verbose text).tail
          else skipSpace verbose text)) := rfl

theorem readBracketItems_spell (verbose negated : Bool) (hyphens text : List Char) :
    readBracketItems verbose negated (hyphens, spell text) =
      spellRest (readBracketItems verbose negated (hyphens, text)) := by
  have hspelled := spelled text
  generalize hspelling : spell text = spelling at hspelled ⊢
  cases hspelled with
  | nil => rfl
  | char c rest hc =>
      rw [readBracketItems, readBracketItems]
      dsimp only
      rw [skipSpace_spell]
      split
      · have hmore := spelled (skipSpace verbose rest)
        generalize hskip : spell (skipSpace verbose rest) = spelling at hmore ⊢
        generalize skipSpace verbose rest = text at hmore hskip ⊢
        cases hmore with
        | nil => rfl
        | char => rw [spellRest_ok, hskip]
        | backslash => rw [spellRest_ok, hskip]
      · rw [spellRest_ok, hspelling]
  | backslash rest first more hfirst =>
      have hclosed (c : Char) (hc : c ≠ ']') : ¬(hyphens.isEmpty = true ∧ c = ']') :=
        fun h => hc h.2
      have hother : first ≠ ']' := by
        rcases hfirst with rfl | rfl <;> decide
      rw [readBracketItems, readBracketItems]
      dsimp only
      rw [if_neg (hclosed first hother), if_neg (hclosed '\\' (by decide)), spellRest_ok, hspelling]

theorem readBracketStart_spell (verbose : Bool) (text : List Char) :
    readBracketStart verbose (spell text) = spellRest (readBracketStart verbose text) := by
  rw [readBracketStart_eq, readBracketStart_eq, skipSpace_spell, head?_spell_caret]
  split
  · next hcaret =>
    rw [tail_spell_caret hcaret, skipSpace_spell, takeSpaced_spell verbose rfl rfl]
    exact readBracketItems_spell verbose _ _ _
  · rw [takeSpaced_spell verbose rfl rfl]
    exact readBracketItems_spell verbose _ _ _

end Start

section Item

/-- What follows a hyphen that makes a range, if the text begins with one. -/
def rangeMark? (verbose : Bool) (text : List Char) : Option (List Char) :=
  match text with
  | '-' :: more =>
    if peekSpace verbose more = some ']' ∨ peekSpace verbose more = some '-' then none
    else some more
  | _ => none

/-- Whether a class with a letter of its own stands next. -/
def letterClassNext (verbose : Bool) (text : List Char) : Bool :=
  match skipSpace verbose text with
  | [] => false
  | c :: rest =>
    match readSetPrimitive verbose c rest with
    | .error _ => false
    | .ok (last, _) => last.isLetterClass

/-- Whether an item is a range with a class with a letter of its own for an end. -/
def isClassRange (verbose : Bool) (c : Char) (rest : List Char) : Bool :=
  match readSetPrimitive verbose c rest with
  | .error _ => false
  | .ok (first, after) =>
    (rangeMark? verbose (skipSpace verbose after)).any fun more =>
      first.isLetterClass || letterClassNext verbose more

/-- Reads what follows the first character or escape of an item, behind the space after it. -/
def readAfterFirst (verbose : Bool) (first : Primitive) (text : List Char) :
    Except SyntaxFault (SetNode × List Char) :=
  if text = [] then .error .classUnclosed
  else
    match rangeMark? verbose text with
    | some more => readRangeEnd verbose first more
    | none => first.toSetNode.map (·, text)

variable {verbose : Bool} {c : Char} {rest more after : List Char} {first : Primitive}

theorem readSetItem_of_first (hread : readSetPrimitive verbose c rest = .ok (first, after)) :
    readSetItem verbose c rest = readAfterFirst verbose first (skipSpace verbose after) := by
  rw [readSetItem, hread]
  dsimp only
  generalize skipSpace verbose after = text
  rw [readAfterFirst]
  split
  · rfl
  · rw [if_neg (List.cons_ne_nil _ _), rangeMark?]
    split
    · cases first.toSetNode <;> rfl
    · rfl
  · next hnil hhyphen =>
    rw [if_neg hnil, rangeMark?.eq_2 _ _ hhyphen]
    cases first.toSetNode <;> rfl

theorem rangeMark?_spell (verbose : Bool) (text : List Char) :
    rangeMark? verbose (spell text) = (rangeMark? verbose text).map spell := by
  rcases begins_or_not '-' text (by decide) with ⟨rest, rfl, hspell⟩ | ⟨htext, hspell⟩
  · rw [hspell, rangeMark?, rangeMark?]
    simp only [peekSpace_spell_iff verbose rest (by decide : ']' ≠ '\\') (by decide),
      peekSpace_spell_iff verbose rest (by decide : '-' ≠ '\\') (by decide)]
    split <;> rfl
  · rw [rangeMark?.eq_2 _ _ hspell, rangeMark?.eq_2 _ _ htext]
    rfl

/-- The range between two ends, which must be characters in order. -/
def rangeOf : Primitive → Primitive → Except SyntaxFault SetNode
  | .literal lo, .literal hi =>
    if lo.char.toNat ≤ hi.char.toNat then .ok (.range lo hi) else .error .classRangeReversed
  | _, _ => .error .classItemInvalid

theorem readRangeEnd_of_last {text : List Char} {last : Primitive}
    (htext : skipSpace verbose text = c :: rest)
    (hread : readSetPrimitive verbose c rest = .ok (last, after)) :
    readRangeEnd verbose first text = (rangeOf first last).map (·, after) := by
  rw [readRangeEnd, htext]
  dsimp only
  rw [hread]
  by_cases hliterals : ∃ lo hi, first = .literal lo ∧ last = .literal hi
  · obtain ⟨lo, hi, rfl, rfl⟩ := hliterals
    rw [rangeOf]
    dsimp only
    split <;> rfl
  · have hother : ∀ lo hi, first = .literal lo → last = .literal hi → False :=
      fun lo hi hfirst hlast => hliterals ⟨lo, hi, hfirst, hlast⟩
    rw [rangeOf.eq_2 _ _ hother]
    dsimp only
    split
    · exact (hother _ _ rfl rfl).elim
    · rfl

theorem readRangeEnd_of_error {text : List Char} {fault : SyntaxFault}
    (htext : skipSpace verbose text = c :: rest)
    (hread : readSetPrimitive verbose c rest = .error fault) :
    readRangeEnd verbose first text = .error fault := by
  rw [readRangeEnd, htext]
  dsimp only
  rw [hread]

theorem readRangeEnd_of_nil {text : List Char} (htext : skipSpace verbose text = []) :
    readRangeEnd verbose first text = .error .classUnclosed := by
  rw [readRangeEnd, htext]

theorem spell_of_rangeOf {last : Primitive} {range : SetNode}
    (hrange : rangeOf first last = .ok range) : range.spell = range := by
  unfold rangeOf at hrange
  split at hrange
  · split at hrange
    · obtain rfl := Except.ok.inj hrange
      rfl
    · contradiction
  · contradiction

/-- Neither end of a range is a property. -/
theorem only_readRangeEnd {text : List Char} (holds : SetNode → Prop)
    (htext : skipSpace verbose text = c :: rest)
    (hlast : Only (·.isProperty) (readSetPrimitive verbose c rest)) :
    Only holds (readRangeEnd verbose first text) := by
  cases hread : readSetPrimitive verbose c rest with
  | error fault =>
      rw [readRangeEnd_of_error htext hread]
      exact only_error _ _
  | ok found =>
      obtain ⟨last, after⟩ := found
      have hproperty := hlast last after hread
      rw [readRangeEnd_of_last htext hread]
      cases last with
      | property name negated => cases first <;> exact only_error _ _
      | _ => contradiction

/-- The second end of a range is read alike if it is no class. -/
theorem readRangeEnd_spell {text : List Char} (hlast : letterClassNext verbose text = false) :
    InStep SetNode.spell (·.hasProperty) (readRangeEnd verbose first text)
      (readRangeEnd verbose first (spell text)) := by
  have hspace := skipSpace_spell verbose text
  cases htext : skipSpace verbose text with
  | nil =>
      rw [htext] at hspace
      rw [readRangeEnd_of_nil htext, readRangeEnd_of_nil hspace]
      exact inStep_error _ _
  | cons c rest =>
      rw [htext] at hspace
      rcases aligned_or_abbreviated c rest with ⟨more, hspell, haligned⟩ |
        ⟨kind, named, negated, spelling, hspell, habbreviated⟩
      · rw [hspell] at hspace
        rcases readSetPrimitive_spell verbose haligned with hsame | ⟨hnative, hspelled⟩
        · cases hread : readSetPrimitive verbose c rest with
          | error fault =>
              rw [hread] at hsame
              rw [readRangeEnd_of_error htext hread, readRangeEnd_of_error hspace hsame]
              exact inStep_error _ _
          | ok found =>
              obtain ⟨last, after⟩ := found
              rw [hread] at hsame
              rw [readRangeEnd_of_last htext hread, readRangeEnd_of_last hspace hsame]
              cases hrange : rangeOf first last with
              | error fault =>
                  rw [id, hrange]
                  exact inStep_error _ _
              | ok range =>
                  rw [id, hrange]
                  exact .inl (congrArg Except.ok (Prod.ext (spell_of_rangeOf hrange).symm rfl))
        · exact .inr ⟨only_readRangeEnd _ htext hnative, only_readRangeEnd _ hspace hspelled⟩
      · cases habbreviated with
        | intro letter bracket rest hspells =>
            have hread : readSetPrimitive verbose '\\' (letter :: rest) = _ :=
              hspells.readEscape_eq verbose rest
            rw [letterClassNext, htext] at hlast
            dsimp only at hlast
            rw [hread] at hlast
            contradiction

theorem only_readRangeEnd_property {text : List Char} (holds : SetNode → Prop) (name : String)
    (negated : Bool) : Only holds (readRangeEnd verbose (.property name negated) text) := by
  cases htext : skipSpace verbose text with
  | nil =>
      rw [readRangeEnd_of_nil htext]
      exact only_error _ _
  | cons c rest =>
      cases hread : readSetPrimitive verbose c rest with
      | error fault =>
          rw [readRangeEnd_of_error htext hread]
          exact only_error _ _
      | ok found =>
          rw [readRangeEnd_of_last htext hread]
          exact only_error _ _

/-- A property can only stand alone. -/
theorem only_readSetItem (hfirst : Only (·.isProperty) (readSetPrimitive verbose c rest)) :
    Only (·.hasProperty) (readSetItem verbose c rest) := by
  cases hread : readSetPrimitive verbose c rest with
  | error fault =>
      rw [readSetItem, hread]
      exact only_error _ _
  | ok found =>
      obtain ⟨first, after⟩ := found
      have hproperty := hfirst first after hread
      rw [readSetItem_of_first hread, readAfterFirst]
      cases first with
      | property name negated =>
          split
          · exact only_error _ _
          · split
            · exact only_readRangeEnd_property _ name negated
            · intro item text hitem
              cases hitem
              rfl
      | _ => contradiction

theorem readAfterFirst_spell {text : List Char}
    (hunspelled : ∀ item, first.toSetNode = .ok item → item.spell = item)
    (hrange : (rangeMark? verbose text).any (letterClassNext verbose) = false) :
    InStep SetNode.spell (·.hasProperty) (readAfterFirst verbose first text)
      (readAfterFirst verbose first (spell text)) := by
  rw [readAfterFirst, readAfterFirst, rangeMark?_spell]
  by_cases htext : text = []
  · subst htext
    exact inStep_error _ _
  · rw [if_neg htext, if_neg (fun hspell => htext (spell_eq_nil hspell))]
    cases hmark : rangeMark? verbose text with
    | some more =>
        rw [hmark] at hrange
        exact readRangeEnd_spell hrange
    | none =>
        cases hitem : first.toSetNode with
        | error fault => exact inStep_error _ _
        | ok item =>
            exact .inl (congrArg Except.ok (Prod.ext (hunspelled item hitem).symm rfl))

/-- An item that is no range with a class for an end is read alike. -/
theorem readSetItem_spell (haligned : Aligned c rest more)
    (hrange : isClassRange verbose c rest = false) :
    InStep SetNode.spell (·.hasProperty) (readSetItem verbose c rest)
      (readSetItem verbose c more) := by
  rcases readSetPrimitive_spell verbose haligned with hsame | ⟨hnative, hspelled⟩
  · cases hread : readSetPrimitive verbose c rest with
    | error fault =>
        rw [hread] at hsame
        rw [readSetItem, readSetItem, hread, hsame]
        exact inStep_error _ _
    | ok found =>
        obtain ⟨first, after⟩ := found
        rw [hread] at hsame
        rw [readSetItem_of_first hread, readSetItem_of_first hsame, skipSpace_spell]
        apply readAfterFirst_spell
        · exact fun item => spell_toSetNode haligned hread
        · rw [isClassRange, hread] at hrange
          rw [Option.any_eq_false] at hrange ⊢
          intro text hmark
          exact (Bool.or_eq_false_iff.mp (hrange text hmark)).2
  · exact .inr ⟨only_readSetItem hnative, only_readSetItem hspelled⟩

theorem rangeOf_letterClass {last : Primitive}
    (hclass : first.isLetterClass = true ∨ last.isLetterClass = true) :
    rangeOf first last = .error .classItemInvalid := by
  cases first <;> cases last <;> first | rfl | simp [Primitive.isLetterClass] at hclass

/-- A range with a class for an end is an error. -/
theorem exists_readRangeEnd {text : List Char}
    (hclass : (first.isLetterClass || letterClassNext verbose text) = true) :
    ∃ fault, readRangeEnd verbose first text = .error fault := by
  cases htext : skipSpace verbose text with
  | nil => exact ⟨_, readRangeEnd_of_nil htext⟩
  | cons c rest =>
      cases hread : readSetPrimitive verbose c rest with
      | error fault => exact ⟨_, readRangeEnd_of_error htext hread⟩
      | ok found =>
          obtain ⟨last, after⟩ := found
          rw [letterClassNext, htext, Bool.or_eq_true_iff] at hclass
          dsimp only at hclass
          rw [hread] at hclass
          rw [readRangeEnd_of_last htext hread, rangeOf_letterClass hclass]
          exact ⟨_, rfl⟩

theorem exists_readSetItem (hrange : isClassRange verbose c rest = true) :
    ∃ fault, readSetItem verbose c rest = .error fault := by
  cases hread : readSetPrimitive verbose c rest with
  | error fault =>
      rw [readSetItem, hread]
      exact ⟨_, rfl⟩
  | ok found =>
      obtain ⟨first, after⟩ := found
      rw [isClassRange, hread] at hrange
      obtain ⟨more, hmark, hclass⟩ := (Option.any_eq_true _ _).mp hrange
      rw [readSetItem_of_first hread, readAfterFirst, hmark]
      split
      · exact ⟨_, rfl⟩
      · exact exists_readRangeEnd hclass

end Item

end BytePattern
