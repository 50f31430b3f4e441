/-
Bracket expressions with their shorthands spelled out.  They are read in step with the native ones
up to an item that cannot be read because a shorthand is an end of a range.
-/
import BytePattern.Proofs.SpelledItems

namespace BytePattern

namespace BracketLevel

/-- A level with its shorthands spelled out. -/
def spell (level : BracketLevel) : BracketLevel where
  negated := level.negated
  pending := level.pending.map fun (operation, left) => (operation, left.spell)
  items := level.items.map SetNode.spell

/-- Whether a property has been read on a level. -/
def hasProperty (level : BracketLevel) : Bool :=
  level.pending.any (·.2.hasProperty) || level.items.any SetNode.hasProperty

theorem spell_node (level : BracketLevel) : level.spell.node = level.node.spell := by
  obtain ⟨negated, pending, items⟩ := level
  have hitems : SetNode.ofItems (items.map SetNode.spell).reverse =
      (SetNode.ofItems items.reverse).spell := by
    rw [SetNode.spell_ofItems, List.map_reverse]
  cases pending with
  | none => exact hitems
  | some pending => exact congrArg (SetNode.combine pending.1 pending.2.spell) hitems

theorem spell_operate (level : BracketLevel) (operation : SetOperation) :
    (level.operate operation).spell = level.spell.operate operation := by
  rw [operate, operate, spell_node]
  rfl

theorem hasProperty_node (level : BracketLevel) : level.node.hasProperty = level.hasProperty := by
  obtain ⟨negated, pending, items⟩ := level
  have hitems : (SetNode.ofItems items.reverse).hasProperty = items.any SetNode.hasProperty := by
    rw [SetNode.hasProperty_ofItems, List.any_reverse]
  cases pending with
  | none => exact hitems
  | some pending => exact congrArg (pending.2.hasProperty || ·) hitems

theorem hasProperty_push (level : BracketLevel) (item : SetNode) :
    (level.push item).hasProperty = (item.hasProperty || level.hasProperty) := by
  rw [hasProperty, hasProperty, push, List.any_cons]
  exact Bool.or_left_comm ..

theorem hasProperty_operate (level : BracketLevel) (operation : SetOperation) :
    (level.operate operation).hasProperty = level.hasProperty := by
  rw [hasProperty, operate, List.any_nil, Bool.or_false, ← hasProperty_node]
  rfl

end BracketLevel

namespace BracketReading

/-- A bracket reading with its shorthands spelled out. -/
def spell (reading : BracketReading) : BracketReading :=
  ⟨reading.level.spell, reading.around.map BracketLevel.spell⟩

/-- Whether a property has been read in a bracket or around it. -/
def hasProperty (reading : BracketReading) : Bool :=
  reading.level.hasProperty || reading.around.any BracketLevel.hasProperty

end BracketReading

namespace BracketProgress

/-- What reading comes to, with its shorthands spelled out. -/
def spell : BracketProgress → BracketProgress
  | more reading => more reading.spell
  | closed negated inside => closed negated inside.spell

/-- Whether a property has been read. -/
def hasProperty : BracketProgress → Bool
  | more reading => reading.hasProperty
  | closed _ inside => inside.hasProperty

end BracketProgress

namespace BracketReading

variable {reading : BracketReading} {verbose : Bool} {c : Char} {rest after : List Char}

theorem spell_close (reading : BracketReading) : reading.spell.close = reading.close.spell := by
  obtain ⟨level, around⟩ := reading
  cases around with
  | nil => exact congrArg (BracketProgress.closed level.negated) level.spell_node
  | cons outer around =>
      change BracketProgress.more
        ⟨outer.spell.push (.bracket level.negated level.spell.node), _⟩ = _
      rw [level.spell_node]
      rfl

theorem hasProperty_close (reading : BracketReading) :
    reading.close.hasProperty = reading.hasProperty := by
  obtain ⟨level, around⟩ := reading
  cases around with
  | nil => exact level.hasProperty_node.trans (Bool.or_false _).symm
  | cons outer around =>
      change ((outer.push (.bracket level.negated level.node)).hasProperty || _) = _
      rw [BracketLevel.hasProperty_push, SetNode.hasProperty, level.hasProperty_node, Bool.or_assoc]
      rfl

/-- A bracket starts with nothing but literals. -/
theorem spell_of_readBracketStart {level : BracketLevel} {text : List Char}
    (hstart : readBracketStart verbose text = .ok (level, after)) : level.spell = level := by
  rw [readBracketStart_eq] at hstart
  generalize takeSpaced verbose _ _ = taken at hstart
  rw [readBracketItems.eq_def] at hstart
  split at hstart
  · contradiction
  · split at hstart
    · split at hstart
      · contradiction
      · obtain ⟨rfl, _⟩ := Prod.mk.inj (Except.ok.inj hstart)
        rfl
    · obtain ⟨rfl, _⟩ := Prod.mk.inj (Except.ok.inj hstart)
      rw [BracketLevel.spell, List.map_map]
      rfl

theorem hasProperty_push {item : SetNode} (hitem : item.hasProperty = true) :
    (reading.push item).hasProperty = true := by
  rw [hasProperty, push, BracketLevel.hasProperty_push, hitem, Bool.true_or, Bool.true_or]

/-- A step never loses a property. -/
theorem hasProperty_step {progress : BracketProgress}
    (hstep : reading.step verbose c rest = .ok (progress, after))
    (hproperty : reading.hasProperty = true) : progress.hasProperty = true := by
  have hlevel (level : BracketLevel)
      (hkept : reading.level.hasProperty = true → level.hasProperty = true) :
      ({ reading with level := level } : BracketReading).hasProperty = true := by
    rw [hasProperty, Bool.or_eq_true_iff] at hproperty ⊢
    exact hproperty.imp_left hkept
  have hoperate (operation : SetOperation) := hlevel (reading.level.operate operation)
    fun h => (reading.level.hasProperty_operate operation).trans h
  have hpush (item : SetNode) := hlevel (reading.level.push item) fun h => by
    rw [reading.level.hasProperty_push item, h, Bool.or_true]
  unfold step at hstep
  split at hstep
  · obtain ⟨rfl, _⟩ := Prod.mk.inj (Except.ok.inj hstep)
    exact hoperate _
  · obtain ⟨rfl, _⟩ := Prod.mk.inj (Except.ok.inj hstep)
    exact hoperate _
  · obtain ⟨rfl, _⟩ := Prod.mk.inj (Except.ok.inj hstep)
    exact hoperate _
  · obtain ⟨rfl, _⟩ := Prod.mk.inj (Except.ok.inj hstep)
    exact reading.hasProperty_close.trans hproperty
  · split at hstep
    · obtain ⟨rfl, _⟩ := Prod.mk.inj (Except.ok.inj hstep)
      exact hpush _
    · split at hstep
      · contradiction
      · obtain ⟨rfl, _⟩ := Prod.mk.inj (Except.ok.inj hstep)
        exact (congrArg _ hproperty).trans (Bool.or_true _)
  · split at hstep
    · contradiction
    · obtain ⟨rfl, _⟩ := Prod.mk.inj (Except.ok.inj hstep)
      exact hpush _

/-- A part of a bracket that is an item: no operation, and no bracket of either kind. -/
structure IsItem (c : Char) (rest : List Char) : Prop where
  not_close : c = ']' → False
  not_open : c = '[' → False
  not_intersection : ∀ after, c = '&' → rest = '&' :: after → False
  not_difference : ∀ after, c = '-' → rest = '-' :: after → False
  not_symmetricDifference : ∀ after, c = '~' → rest = '~' :: after → False

theorem step_item (hitem : IsItem c rest) :
    reading.step verbose c rest =
      (readSetItem verbose c rest).map (Prod.map (fun item => .more (reading.push item)) id) := by
  rw [step.eq_6 _ _ _ _ hitem.not_close hitem.not_open hitem.not_intersection hitem.not_difference
    hitem.not_symmetricDifference]
  cases readSetItem verbose c rest <;> rfl

variable {more : List Char}

theorem IsItem.spell (hitem : IsItem c rest) (haligned : Aligned c rest more) : IsItem c more := by
  have hdouble (d : Char) (hd : d ≠ '\\' ∧ d ≠ '[')
      (hnative : ∀ after, c = d → rest = d :: after → False) (after : List Char) (hc : c = d)
      (hmore : more = d :: after) : False := by
    have hspell := haligned.eq_spell (hc ▸ hd.1)
    obtain ⟨text, hrest, _⟩ := spell_eq_cons hd.1 hd.2 (hspell.symm.trans hmore)
    exact hnative text hc hrest
  exact ⟨hitem.not_close, hitem.not_open, hdouble '&' (by decide) hitem.not_intersection,
    hdouble '-' (by decide) hitem.not_difference,
    hdouble '~' (by decide) hitem.not_symmetricDifference⟩

/-- An item is read alike unless it is a range that has a class for an end. -/
theorem step_spell_item (hitem : IsItem c rest) (haligned : Aligned c rest more)
    (hrange : isClassRange verbose c rest = false) :
    InStep BracketProgress.spell (·.hasProperty) (reading.step verbose c rest)
      (reading.spell.step verbose c more) := by
  rw [step_item hitem, step_item (hitem.spell haligned)]
  apply (readSetItem_spell haligned hrange).map
  · exact fun item after hread => rfl
  · exact fun item hproperty => hasProperty_push hproperty
  · exact fun item hproperty => hasProperty_push hproperty

/-- A part of a bracket is read alike unless it is a range that has a class for an end. -/
theorem step_spell (haligned : Aligned c rest more)
    (hrange : IsItem c rest → isClassRange verbose c rest = false) :
    InStep BracketProgress.spell (·.hasProperty) (reading.step verbose c rest)
      (reading.spell.step verbose c more) := by
  have hoperate (operation : SetOperation) (after : List Char) :
      InStep BracketProgress.spell (·.hasProperty)
        (.ok (.more { reading with level := reading.level.operate operation }, after))
        (.ok (.more { reading.spell with level := reading.spell.level.operate operation },
          BytePattern.spell after)) :=
    .inl (congrArg (fun level => Except.ok (BracketProgress.more ⟨level, reading.spell.around⟩, _))
      (BracketLevel.spell_operate _ _).symm)
  by_cases hitem : IsItem c rest
  · exact step_spell_item hitem haligned (hrange hitem)
  · rw [step.eq_def]
    split
    · next after =>
      obtain rfl := haligned.eq_spell (by decide)
      rw [spell_char after (by decide)]
      exact hoperate .intersection after
    · next after =>
      obtain rfl := haligned.eq_spell (by decide)
      rw [spell_char after (by decide)]
      exact hoperate .difference after
    · next after =>
      obtain rfl := haligned.eq_spell (by decide)
      rw [spell_char after (by decide)]
      exact hoperate .symmetricDifference after
    · obtain rfl := haligned.eq_spell (by decide)
      exact .inl (congrArg (fun progress => Except.ok (progress, _)) reading.spell_close)
    · obtain rfl := haligned.eq_spell (by decide)
      rw [step.eq_5, readNamedClass?_spell, readBracketStart_spell]
      cases readNamedClass? rest with
      | some named => exact .inl rfl
      | none =>
          cases hstart : readBracketStart verbose rest with
          | error fault => exact inStep_error _ _
          | ok start =>
              obtain ⟨level, after⟩ := start
              have hlevel := spell_of_readBracketStart hstart
              exact .inl (congrArg (fun level => Except.ok (BracketProgress.more ⟨level, _⟩, _))
                hlevel.symm)
    · next hclose hopen hand hhyphen htilde =>
      exact absurd ⟨hclose, hopen, hand, hhyphen, htilde⟩ hitem

section Run

variable {text : List Char}

/-- What a bracket comes to, part by part. -/
inductive ComesTo (verbose : Bool) (last : BracketReading) (left : List Char) :
    BracketReading → List Char → Prop where
  | here : ComesTo verbose last left last left
  | step {reading next : BracketReading} {c : Char} {text rest after : List Char}
      (hspace : skipSpace verbose text = c :: rest)
      (hstep : reading.step verbose c rest = .ok (.more next, after))
      (hmore : ComesTo verbose last left next after) : ComesTo verbose last left reading text

/-- The bracket cannot be read because a range in it has a class for an end. -/
def StopsAtRange (reading : BracketReading) (verbose : Bool) (text : List Char) : Prop :=
  ∃ last left c rest, ComesTo verbose last left reading text ∧
    skipSpace verbose left = c :: rest ∧ IsItem c rest ∧ isClassRange verbose c rest = true

theorem run_of_nil (hspace : skipSpace verbose text = []) :
    reading.run verbose text = .error .classUnclosed := by
  rw [run]
  split
  · rfl
  · next hcons =>
    rw [hspace] at hcons
    contradiction

/-- A bracket is read part by part. -/
theorem run_of_step (hspace : skipSpace verbose text = c :: rest) :
    reading.run verbose text =
      match reading.step verbose c rest with
      | .error fault => .error fault
      | .ok (.closed negated inside, after) => .ok ((negated, inside), after)
      | .ok (.more next, after) => next.run verbose after := by
  rw [run]
  split
  · next hnil =>
    rw [hspace] at hnil
    contradiction
  · next hcons =>
    obtain ⟨rfl, rfl⟩ := List.cons.inj (hspace.symm.trans hcons)
    split <;> simp_all

theorem run_of_more {next : BracketReading} (hspace : skipSpace verbose text = c :: rest)
    (hstep : reading.step verbose c rest = .ok (.more next, after)) :
    reading.run verbose text = next.run verbose after := by
  rw [run_of_step hspace, hstep]

theorem ComesTo.run_eq {last : BracketReading} {left : List Char}
    (hcomes : ComesTo verbose last left reading text) :
    reading.run verbose text = last.run verbose left := by
  induction hcomes with
  | here => rfl
  | step hspace hstep _ ih => exact (run_of_more hspace hstep).trans ih

theorem exists_run_of_stopsAtRange (hstop : reading.StopsAtRange verbose text) :
    ∃ fault, reading.run verbose text = .error fault := by
  obtain ⟨last, left, c, rest, hcomes, hspace, hitem, hclass⟩ := hstop
  obtain ⟨fault, hread⟩ := exists_readSetItem hclass
  refine ⟨fault, hcomes.run_eq.trans ?_⟩
  rw [run_of_step hspace, step_item hitem, hread]
  rfl

theorem run_skipSpace (reading : BracketReading) (verbose : Bool) (text : List Char) :
    reading.run verbose (skipSpace verbose text) = reading.run verbose text := by
  cases hspace : skipSpace verbose text with
  | nil =>
      rw [run_of_nil hspace, run_of_nil]
      cases verbose <;> rfl
  | cons c rest =>
      have hidem := skipSpace_idem verbose text
      rw [hspace] at hidem
      rw [run_of_step hspace, run_of_step hidem]

/-- A bracket that holds a property is closed with it. -/
theorem only_run (hproperty : reading.hasProperty = true) :
    Only (·.2.hasProperty) (reading.run verbose text) := by
  fun_induction run reading verbose text with
  | case1 => exact only_error _ _
  | case2 => exact only_error _ _
  | case3 reading text c rest hspace negated inside after hstep =>
      intro result left hresult
      obtain ⟨rfl, _⟩ := Prod.mk.inj (Except.ok.inj hresult)
      exact hasProperty_step hstep hproperty
  | case4 reading text c rest hspace next after hstep ih =>
      exact ih (hasProperty_step hstep hproperty)

theorem skipSpace_bracket (hc : c = '[' ∨ c = ']') : skipSpace verbose (c :: rest) = c :: rest := by
  rcases hc with rfl | rfl <;> cases verbose <;> rfl

/-- What a shorthand is spelled out as: a bracket with a named class inside. -/
theorem Spells.exists_inner {letter : Char} {kind : LetterClass} {named : NamedClass}
    {negated : Bool} {bracket : List Char} (hspells : Spells letter kind named negated bracket) :
    ∃ inner name, bracket = '[' :: inner ∧ ∀ verbose text,
      readNamedClass? (inner ++ text) = none ∧
      readBracketStart verbose (inner ++ text) = .ok (⟨negated, none, []⟩, '[' :: (name ++ text)) ∧
      readNamedClass? (name ++ text) = some ((named, false), ']' :: text) := by
  have htaken (verbose : Bool) (text : List Char) :
      takeSpaced verbose (· == '-') ('[' :: text) = ([], '[' :: text) := by
    rw [takeSpaced]
    rfl
  have hplain (verbose : Bool) (text : List Char) :
      readBracketStart verbose ('[' :: text) = .ok (⟨false, none, []⟩, '[' :: text) := by
    rw [readBracketStart_eq, skipSpace_bracket (.inl rfl)]
    change readBracketItems verbose false (takeSpaced verbose (· == '-') ('[' :: text)) = _
    rw [htaken]
    rfl
  have hnegated (verbose : Bool) (text : List Char) :
      readBracketStart verbose ('^' :: '[' :: text) = .ok (⟨true, none, []⟩, '[' :: text) := by
    have hcaret : skipSpace verbose ('^' :: '[' :: text) = '^' :: '[' :: text := by
      cases verbose <;> rfl
    rw [readBracketStart_eq, hcaret]
    change readBracketItems verbose true
      (takeSpaced verbose (· == '-') (skipSpace verbose ('[' :: text))) = _
    rw [skipSpace_bracket (.inl rfl), htaken]
    rfl
  cases hspells with
  | digit =>
      exact ⟨_, ":digit:]]".toList, rfl, fun verbose text => ⟨rfl, hplain verbose _, rfl⟩⟩
  | notDigit =>
      exact ⟨_, ":digit:]]".toList, rfl, fun verbose text => ⟨rfl, hnegated verbose _, rfl⟩⟩
  | space =>
      exact ⟨_, ":space:]]".toList, rfl, fun verbose text => ⟨rfl, hplain verbose _, rfl⟩⟩
  | notSpace =>
      exact ⟨_, ":space:]]".toList, rfl, fun verbose text => ⟨rfl, hnegated verbose _, rfl⟩⟩

theorem run_named {named : NamedClass} {name : List Char} (level : BracketLevel)
    (around : List BracketLevel)
    (hname : readNamedClass? (name ++ text) = some ((named, false), ']' :: text)) :
    run ⟨level, around⟩ verbose ('[' :: (name ++ text)) =
      run ⟨level.push (.namedClass named false), around⟩ verbose (']' :: text) := by
  apply run_of_more (skipSpace_bracket (.inl rfl))
  rw [step.eq_5, hname]
  rfl

/-- A shorthand that is spelled out adds its bracket. -/
theorem run_spells {letter : Char} {kind : LetterClass} {named : NamedClass} {negated : Bool}
    {bracket : List Char} (hspells : Spells letter kind named negated bracket) :
    reading.run verbose (bracket ++ text) =
      (reading.push (.bracket negated (.namedClass named false))).run verbose text := by
  obtain ⟨inner, name, rfl, hinner⟩ := Spells.exists_inner hspells
  obtain ⟨hnone, hstart, hname⟩ := hinner verbose text
  have hopen : reading.step verbose '[' (inner ++ text) = .ok
      (.more ⟨⟨negated, none, []⟩, reading.level :: reading.around⟩, '[' :: (name ++ text)) := by
    rw [step.eq_5, hnone, hstart]
  rw [List.cons_append, run_of_more (skipSpace_bracket (.inl rfl)) hopen, run_named _ _ hname]
  exact run_of_more (skipSpace_bracket (.inr rfl)) rfl

/-- A shorthand that is spelled out outside a bracket is a bracket of its own. -/
theorem readBracket_spells {letter : Char} {kind : LetterClass} {named : NamedClass}
    {negated : Bool} {bracket : List Char} (verbose : Bool) (text : List Char)
    (hspells : Spells letter kind named negated bracket) :
    ∃ inner, bracket = '[' :: inner ∧
      readBracket verbose (inner ++ text) = .ok ((negated, .namedClass named false), text) := by
  obtain ⟨inner, name, rfl, hinner⟩ := Spells.exists_inner hspells
  obtain ⟨_, hstart, hname⟩ := hinner verbose text
  refine ⟨inner, rfl, ?_⟩
  rw [readBracket, hstart]
  dsimp only
  rw [run_named _ _ hname, run_of_step (skipSpace_bracket (.inr rfl))]
  rfl

theorem isItem_backslash (rest : List Char) : IsItem '\\' rest := by
  constructor <;> intros <;> contradiction

/-- A native shorthand is an item of its own, unless nothing follows it or it makes a range. -/
theorem step_spells {letter : Char} {kind : LetterClass} {named : NamedClass} {negated : Bool}
    {bracket : List Char} (hspells : Spells letter kind named negated bracket)
    (hrange : isClassRange verbose '\\' (letter :: rest) = false) :
    reading.step verbose '\\' (letter :: rest) =
      if skipSpace verbose rest = [] then .error .classUnclosed
      else .ok (.more (reading.push (.letterClass kind negated)), skipSpace verbose rest) := by
  have hread : readSetPrimitive verbose '\\' (letter :: rest) = _ :=
    hspells.readEscape_eq verbose rest
  rw [isClassRange, hread, Option.any_eq_false] at hrange
  rw [step_item (isItem_backslash _), readSetItem_of_first hread, readAfterFirst]
  split
  · rfl
  · cases hmark : rangeMark? verbose (skipSpace verbose rest) with
    | some more =>
        have hclass := hrange more hmark
        contradiction
    | none => rfl

/-- A property that a step comes to is in whatever the bracket comes to. -/
theorem only_run_of_step (hspace : skipSpace verbose text = c :: rest)
    (hstep : Only (·.hasProperty) (reading.step verbose c rest)) :
    Only (·.2.hasProperty) (reading.run verbose text) := by
  rw [run_of_step hspace]
  split
  · exact only_error _ _
  · next negated inside after hclosed =>
    intro result left hresult
    obtain ⟨rfl, _⟩ := Prod.mk.inj (Except.ok.inj hresult)
    exact hstep _ _ hclosed
  · next next after hmore => exact only_run (hstep _ _ hmore)

section Part

variable (hspace : skipSpace verbose text = c :: rest)
  (hrange : IsItem c rest → isClassRange verbose c rest = false)
  (hnext : ∀ next after, reading.step verbose c rest = .ok (.more next, after) →
    InStep (Prod.map id SetNode.spell) (·.2.hasProperty) (next.run verbose after)
      (next.spell.run verbose (BytePattern.spell after)))

include hspace hrange hnext

/-- A part that is read alike, and the rest in step. -/
theorem run_spell_of_aligned (hspell : BytePattern.spell (c :: rest) = c :: more)
    (haligned : Aligned c rest more) :
    InStep (Prod.map id SetNode.spell) (·.2.hasProperty) (reading.run verbose text)
      (reading.spell.run verbose (BytePattern.spell text)) := by
  have hspelling : skipSpace verbose (BytePattern.spell text) = c :: more := by
    rw [skipSpace_spell, hspace, hspell]
  rcases step_spell haligned hrange with hsame | ⟨hnative, hspelled⟩
  · rw [run_of_step hspace, run_of_step hspelling, hsame]
    cases hstep : reading.step verbose c rest with
    | error fault => exact inStep_error _ _
    | ok found =>
        obtain ⟨progress, after⟩ := found
        cases progress with
        | closed negated inside => exact .inl rfl
        | more next => exact hnext next after hstep
  · exact .inr ⟨only_run_of_step hspace hnative, only_run_of_step hspelling hspelled⟩

/-- A shorthand for its bracket, and the rest in step. -/
theorem run_spell_of_abbreviated {kind : LetterClass} {named : NamedClass} {negated : Bool}
    {spelling : List Char} (hspell : BytePattern.spell (c :: rest) = spelling)
    (habbreviated : Abbreviated kind named negated c rest spelling) :
    InStep (Prod.map id SetNode.spell) (·.2.hasProperty) (reading.run verbose text)
      (reading.spell.run verbose (BytePattern.spell text)) := by
  rw [← run_skipSpace reading.spell verbose (BytePattern.spell text), skipSpace_spell, hspace,
    hspell]
  cases habbreviated with
  | intro letter bracket rest hspells =>
      have hstep : reading.step verbose '\\' (letter :: rest) = _ :=
        step_spells hspells (hrange (isItem_backslash _))
      have hitem : (SetNode.letterClass kind negated).spell =
          .bracket negated (.namedClass named false) := by
        rw [SetNode.spell, hspells.named?]
      rw [run_spells hspells, ← run_skipSpace _ verbose (BytePattern.spell rest), skipSpace_spell]
      split at hstep
      · next hrest =>
        rw [run_of_step hspace, hstep, hrest, run_of_nil (by cases verbose <;> rfl)]
        exact inStep_error _ _
      · rw [run_of_more hspace hstep, ← hitem]
        exact hnext _ _ hstep

end Part

section Behind

variable {next : BracketReading} (hspace : skipSpace verbose text = c :: rest)
  (hstep : reading.step verbose c rest = .ok (.more next, after))

include hspace hstep

theorem length_behind_lt : after.length < text.length := by
  have hskip := length_skipSpace_le verbose text
  have hshorter := length_step_le hstep
  rw [hspace, List.length_cons] at hskip
  omega

theorem StopsAtRange.of_behind (hrange : next.StopsAtRange verbose after) :
    reading.StopsAtRange verbose text := by
  obtain ⟨last, left, d, more, hcomes, hstop⟩ := hrange
  exact ⟨last, left, d, more, .step hspace hstep hcomes, hstop⟩

end Behind

/-- Up to a range with a class for an end, a bracket and its spelling are read in step. -/
theorem run_spell (hrange : ¬reading.StopsAtRange verbose text) :
    InStep (Prod.map id SetNode.spell) (·.2.hasProperty) (reading.run verbose text)
      (reading.spell.run verbose (BytePattern.spell text)) := by
  induction hlength : text.length using Nat.strongRecOn generalizing reading text with
  | ind length ih =>
      cases hspace : skipSpace verbose text with
      | nil =>
          have hspelling := skipSpace_spell verbose text
          rw [hspace] at hspelling
          rw [run_of_nil hspace, run_of_nil hspelling]
          exact inStep_error _ _
      | cons c rest =>
          have hclass (hitem : IsItem c rest) : isClassRange verbose c rest = false :=
            Bool.eq_false_iff.mpr fun hclass =>
              hrange ⟨reading, text, c, rest, .here, hspace, hitem, hclass⟩
          have hnext (next : BracketReading) (after : List Char)
              (hstep : reading.step verbose c rest = .ok (.more next, after)) :
              InStep (Prod.map id SetNode.spell) (·.2.hasProperty) (next.run verbose after)
                (next.spell.run verbose (BytePattern.spell after)) := by
            have hshorter := length_behind_lt hspace hstep
            exact ih after.length (hlength ▸ hshorter) (mt (.of_behind hspace hstep) hrange) rfl
          rcases aligned_or_abbreviated c rest with ⟨more, hspell, haligned⟩ |
            ⟨kind, named, negated, spelling, hspell, habbreviated⟩
          · exact run_spell_of_aligned hspace hclass hnext hspell haligned
          · exact run_spell_of_abbreviated hspace hclass hnext hspell habbreviated

end Run

end BracketReading

/-- A bracket expression that cannot be read because a range in it has a class for an end. -/
def BracketStopsAtRange (verbose : Bool) (text : List Char) : Prop :=
  ∃ level after, readBracketStart verbose text = .ok (level, after) ∧
    BracketReading.StopsAtRange ⟨level, []⟩ verbose after

theorem exists_readBracket_of_stopsAtRange {verbose : Bool} {text : List Char}
    (hstop : BracketStopsAtRange verbose text) :
    ∃ fault, readBracket verbose text = .error fault := by
  obtain ⟨level, after, hstart, hrange⟩ := hstop
  obtain ⟨fault, hrun⟩ := BracketReading.exists_run_of_stopsAtRange hrange
  rw [readBracket, hstart]
  exact ⟨fault, hrun⟩

theorem readBracket_spell {verbose : Bool} {text : List Char}
    (hrange : ¬BracketStopsAtRange verbose text) :
    InStep (Prod.map id SetNode.spell) (·.2.hasProperty) (readBracket verbose text)
      (readBracket verbose (spell text)) := by
  rw [readBracket, readBracket, readBracketStart_spell]
  cases hstart : readBracketStart verbose text with
  | error fault => exact inStep_error _ _
  | ok start =>
      obtain ⟨level, after⟩ := start
      have hlevel := BracketReading.spell_of_readBracketStart hstart
      have hrun := BracketReading.run_spell
        fun hstop : BracketReading.StopsAtRange ⟨level, []⟩ verbose after =>
          hrange ⟨level, after, hstart, hstop⟩
      rw [BracketReading.spell, hlevel] at hrun
      exact hrun

end BytePattern
