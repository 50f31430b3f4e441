/-
Patterns with their shorthands spelled out.  Where characters are bytes, a pattern and its spelling
mean the same, unless a range has a shorthand for an end.
-/
import BytePattern.Proofs.Numbering
import BytePattern.Proofs.SpelledBrackets

namespace BytePattern

namespace Level

/-- A level with its shorthands spelled out. -/
def spell (level : Level) : Level :=
  ⟨level.branches.map Node.spell, level.items.map Node.spell⟩

/-- The marks met on a level so far. -/
def unicodeMarks (level : Level) : List UnicodeMark :=
  level.branches.reverse.flatMap Node.unicodeMarks ++ level.items.reverse.flatMap Node.unicodeMarks

theorem spell_node (level : Level) : level.spell.node = level.node.spell := by
  rw [node, node, spell, ← List.map_reverse, ← Node.spell_ofItems, ← List.map_cons,
    ← List.map_reverse, ← Node.spell_ofBranches]

theorem spell_branch (level : Level) : level.branch.spell = level.spell.branch := by
  rw [branch, branch, spell, spell, ← List.map_reverse, ← Node.spell_ofItems]
  rfl

theorem unicodeMarks_spell (level : Level) : level.spell.unicodeMarks = level.unicodeMarks := by
  rw [unicodeMarks, spell, ← List.map_reverse, ← List.map_reverse, List.flatMap_map,
    List.flatMap_map]
  simp only [Node.unicodeMarks_spell]
  rfl

theorem unicodeMarks_push (level : Level) (item : Node) :
    (level.push item).unicodeMarks = level.unicodeMarks ++ item.unicodeMarks := by
  rw [unicodeMarks, unicodeMarks, push, List.reverse_cons, List.flatMap_append,
    List.flatMap_singleton, List.append_assoc]

theorem unicodeMarks_branch (level : Level) : level.branch.unicodeMarks = level.unicodeMarks := by
  rw [unicodeMarks, branch, List.reverse_cons, List.flatMap_append, List.flatMap_singleton,
    Node.unicodeMarks_ofItems]
  exact List.append_nil _

theorem unicodeMarks_node (level : Level) : level.node.unicodeMarks = level.unicodeMarks := by
  rw [node, Node.unicodeMarks_ofBranches, List.reverse_cons, List.flatMap_append,
    List.flatMap_singleton, Node.unicodeMarks_ofItems]
  rfl

end Level

/-- A group with the shorthands around it spelled out. -/
def OpenGroup.spell (group : OpenGroup) : OpenGroup :=
  ⟨group.opening, group.around.spell, group.verbose⟩

/-- The marks met up to the inside of a group since the group around it was opened. -/
def OpenGroup.unicodeMarks (group : OpenGroup) : List UnicodeMark :=
  group.around.unicodeMarks ++ group.opening.unicodeMarks

theorem OpenGroup.unicodeMarks_spell (group : OpenGroup) :
    group.spell.unicodeMarks = group.unicodeMarks :=
  congrArg (· ++ group.opening.unicodeMarks) group.around.unicodeMarks_spell

namespace Reading

/-- A reading with its shorthands spelled out. -/
def spell (reading : Reading) : Reading :=
  { reading with level := reading.level.spell, groups := reading.groups.map OpenGroup.spell }

/-- The marks met so far. -/
def unicodeMarks (reading : Reading) : List UnicodeMark :=
  reading.groups.reverse.flatMap OpenGroup.unicodeMarks ++ reading.level.unicodeMarks

variable {reading next : Reading}

theorem unicodeMarks_spell (reading : Reading) :
    reading.spell.unicodeMarks = reading.unicodeMarks := by
  rw [unicodeMarks, spell, ← List.map_reverse, List.flatMap_map, reading.level.unicodeMarks_spell]
  simp only [OpenGroup.unicodeMarks_spell]
  rfl

theorem unicodeMarks_push (reading : Reading) (item : Node) :
    (reading.push item).unicodeMarks = reading.unicodeMarks ++ item.unicodeMarks := by
  rw [unicodeMarks, unicodeMarks, push, Level.unicodeMarks_push, List.append_assoc]

theorem unicodeMarks_enter (reading : Reading) (opening : Opening) (verbose : Bool) :
    (reading.enter opening verbose).unicodeMarks =
      reading.unicodeMarks ++ opening.unicodeMarks := by
  have hempty : Level.unicodeMarks {} = [] := rfl
  rw [unicodeMarks, unicodeMarks, enter, hempty, List.append_nil, List.reverse_cons,
    List.flatMap_append, List.flatMap_singleton, OpenGroup.unicodeMarks, List.append_assoc]

/-- A step only adds marks. -/
theorem Step.marks_grow (hstep : Step reading next) :
    reading.unicodeMarks <+: next.unicodeMarks := by
  cases hstep with
  | push item verbose _ =>
      change _ <+: (reading.push item).unicodeMarks
      rw [unicodeMarks_push]
      exact List.prefix_append _ _
  | enter settings verbose =>
      rw [unicodeMarks_enter]
      exact List.prefix_append _ _
  | capture names =>
      rw [unicodeMarks_enter]
      exact List.prefix_append _ _
  | close group groups hgroups =>
      rw [unicodeMarks, unicodeMarks, hgroups, Level.unicodeMarks_push, List.reverse_cons,
        List.flatMap_append, List.flatMap_singleton, OpenGroup.unicodeMarks, Node.unicodeMarks,
        Level.unicodeMarks_node]
      simp only [List.append_assoc]
      exact List.prefix_rfl
  | branch =>
      have hsame : Reading.unicodeMarks { reading with level := reading.level.branch } =
          reading.unicodeMarks :=
        congrArg (_ ++ ·) reading.level.unicodeMarks_branch
      exact hsame ▸ List.prefix_rfl
  | again repetition item items hitems =>
      rw [unicodeMarks, unicodeMarks, Level.unicodeMarks, Level.unicodeMarks, hitems]
      simp only [List.reverse_cons, List.flatMap_append, List.flatMap_singleton]
      exact List.prefix_rfl

/-- What a pattern comes to, part by part. -/
inductive ComesTo (last : Reading) (left : List Char) : Reading → List Char → Prop where
  | here : ComesTo last left last left
  | step {reading next : Reading} {c : Char} {text rest after : List Char}
      (hspace : skipSpace reading.verbose text = c :: rest)
      (hstep : reading.step c rest = .ok (next, after))
      (hmore : ComesTo last left next after) : ComesTo last left reading text

/-- The pattern cannot be read because a range has a class for an end. -/
def StopsAtRange (reading : Reading) (text : List Char) : Prop :=
  ∃ last left rest, ComesTo last left reading text ∧
    skipSpace last.verbose left = '[' :: rest ∧ BracketStopsAtRange last.verbose rest

/-- Inline flags turn Unicode mode on somewhere in the pattern. -/
def TurnsUnicodeOn (reading : Reading) (text : List Char) : Prop :=
  ∃ last left, ComesTo last left reading text ∧ .turnedOn ∈ last.unicodeMarks

section Parts

theorem spell_openGroup (head : GroupHead) :
    reading.spell.openGroup head = (reading.openGroup head).map spell := by
  cases head with
  | settings settings => rfl
  | plain settings => rfl
  | capture name =>
      rw [openGroup, openGroup]
      change (if name.any reading.names.contains = true then _ else _) = _
      split <;> rfl

theorem spell_closeGroup : reading.spell.closeGroup = reading.closeGroup.map spell := by
  obtain ⟨level, groups, verbose, captures, names⟩ := reading
  cases groups with
  | nil => rfl
  | cons group groups =>
      have hlevel := congrArg (fun node => group.around.spell.push (.group group.opening node))
        level.spell_node
      exact congrArg (fun level => Except.ok
        (⟨level, groups.map OpenGroup.spell, group.verbose, captures, names⟩ : Reading)) hlevel

theorem spell_repeatLast (repetition : Repetition) :
    reading.spell.repeatLast repetition = (reading.repeatLast repetition).map spell := by
  obtain ⟨⟨branches, items⟩, groups, verbose, captures, names⟩ := reading
  cases items with
  | nil => rfl
  | cons item items =>
    cases item with
    | letterClass kind negated => cases kind <;> rfl
    | _ => rfl

variable {c : Char} {rest more : List Char}

theorem spell_itemOf {verbose : Bool} {primitive : Primitive} {after : List Char}
    (haligned : Aligned c rest more)
    (hread : readSetPrimitive verbose c rest = .ok (primitive, after)) :
    (itemOf primitive).spell = itemOf primitive := by
  cases primitive with
  | literal l => rfl
  | assertion a => rfl
  | property name negated => rfl
  | letterClass kind negated => rw [itemOf, Node.spell, named?_of_aligned haligned hread]

/-- What is blocked: a property is asked for next. -/
def AsksNext (reading next : Reading) : Prop :=
  next.unicodeMarks = reading.unicodeMarks ++ [.asked]

theorem inStep_map {blocked : Reading → Prop} {native spelled : Except SyntaxFault Reading}
    (rest : List Char) (hsame : spelled = native.map spell) :
    InStep spell blocked (native.map (·, rest)) (spelled.map (·, BytePattern.spell rest)) := by
  rw [hsame]
  cases native <;> exact .inl rfl

theorem step_spell_not_sign (hc : c ∉ signs) :
    InStep spell reading.AsksNext (reading.step c rest)
      (reading.spell.step c (BytePattern.spell rest)) := by
  have hverbose : reading.spell.verbose = reading.verbose := rfl
  rw [step_of_not_sign hc, step_of_not_sign hc, hverbose, readRepetition?_spell]
  cases readRepetition? reading.verbose c rest with
  | none => exact .inl rfl
  | some result =>
      cases result with
      | error fault => exact inStep_error _ _
      | ok found => exact inStep_map found.2 (spell_repeatLast found.1)

theorem asksNext_push (reading : Reading) {item : Node} (hitem : item.unicodeMarks = [.asked]) :
    reading.AsksNext (reading.push item) := by
  rw [AsksNext, unicodeMarks_push, hitem]

theorem AsksNext.of_spell (hasks : reading.spell.AsksNext next) : reading.AsksNext next := by
  rw [AsksNext, unicodeMarks_spell] at hasks
  exact hasks

theorem step_spell_bracket (hrange : ¬BracketStopsAtRange reading.verbose rest) :
    InStep spell reading.AsksNext (reading.step '[' rest)
      (reading.spell.step '[' (BytePattern.spell rest)) := by
  have hasks (reading : Reading) (negated : Bool) {inside : SetNode}
      (hproperty : inside.hasProperty = true) :
      reading.AsksNext (reading.push (.bracket negated inside)) :=
    asksNext_push reading (if_pos hproperty)
  rw [step_bracket, step_bracket]
  apply (readBracket_spell hrange).map
  · exact fun found after hread => rfl
  · exact fun found hproperty => hasks reading found.1 hproperty
  · exact fun found hproperty => (hasks reading.spell found.1 hproperty).of_spell

theorem step_spell_backslash (haligned : Aligned '\\' rest more) :
    InStep spell reading.AsksNext (reading.step '\\' rest) (reading.spell.step '\\' more) := by
  have hasks (reading : Reading) {primitive : Primitive}
      (hproperty : primitive.isProperty = true) :
      reading.AsksNext (reading.push (itemOf primitive)) := by
    cases primitive with
    | property name negated => exact asksNext_push reading rfl
    | _ => contradiction
  rw [step_backslash, step_backslash]
  apply (readSetPrimitive_spell reading.verbose haligned).map
  · exact fun primitive after hread =>
      congrArg reading.spell.push (spell_itemOf haligned hread).symm
  · exact fun primitive hproperty => hasks reading hproperty
  · exact fun primitive hproperty => (hasks reading.spell hproperty).of_spell

theorem step_spell_aligned (haligned : Aligned c rest more)
    (hrange : c = '[' → ¬BracketStopsAtRange reading.verbose rest) :
    InStep spell reading.AsksNext (reading.step c rest) (reading.spell.step c more) := by
  by_cases hbackslash : c = '\\'
  · subst hbackslash
    exact step_spell_backslash haligned
  · obtain rfl := haligned.eq_spell hbackslash
    by_cases hc : c ∈ signs
    · simp only [signs, List.mem_cons, List.not_mem_nil, or_false] at hc
      rcases hc with rfl | rfl | rfl | rfl | rfl | rfl | rfl | rfl
      · rw [step_parenthesis, step_parenthesis]
        change InStep _ _ _ ((readGroupHead reading.verbose (BytePattern.spell rest)).bind _)
        rw [readGroupHead_spell]
        cases readGroupHead reading.verbose rest with
        | error fault => exact inStep_error _ _
        | ok found => exact inStep_map found.2 (spell_openGroup found.1)
      · exact inStep_map rest spell_closeGroup
      · exact .inl (congrArg (fun level => Except.ok
          (({ reading.spell with level := level } : Reading), BytePattern.spell rest))
          reading.level.spell_branch.symm)
      · exact step_spell_bracket (hrange rfl)
      · contradiction
      · exact .inl rfl
      · exact .inl rfl
      · exact .inl rfl
    · exact step_spell_not_sign hc

/-- Each part is read in step with its spelling. -/
theorem exists_step_spell (reading : Reading) (c : Char) (rest : List Char)
    (hrange : c = '[' → ¬BracketStopsAtRange reading.verbose rest) :
    ∃ d more, BytePattern.spell (c :: rest) = d :: more ∧
      InStep spell reading.AsksNext (reading.step c rest) (reading.spell.step d more) := by
  rcases aligned_or_abbreviated c rest with ⟨more, hspell, haligned⟩ |
    ⟨kind, named, negated, spelling, hspell, habbreviated⟩
  · exact ⟨c, more, hspell, step_spell_aligned haligned hrange⟩
  · cases habbreviated with
    | intro letter bracket rest hspells =>
        obtain ⟨inner, rfl, hread⟩ := BracketReading.readBracket_spells reading.verbose
          (BytePattern.spell rest) hspells
        have hnative : reading.step '\\' (letter :: rest) =
            .ok (reading.push (.letterClass kind negated), rest) := by
          have hread : readSetPrimitive reading.verbose '\\' (letter :: rest) = _ :=
            hspells.readEscape_eq reading.verbose rest
          rw [step_backslash, hread]
          rfl
        have hspelled : reading.spell.step '[' (inner ++ BytePattern.spell rest) =
            .ok (reading.spell.push (.bracket negated (.namedClass named false)),
              BytePattern.spell rest) := by
          have hread' : readBracket reading.spell.verbose (inner ++ BytePattern.spell rest) = _ :=
            hread
          rw [step_bracket, hread']
          rfl
        have hitem : (Node.letterClass kind negated).spell =
            .bracket negated (.namedClass named false) := by
          rw [Node.spell, hspells.named?]
        refine ⟨'[', inner ++ BytePattern.spell rest, hspell, .inl ?_⟩
        rw [hnative, hspelled, ← hitem]
        rfl

end Parts

section Run

variable {c : Char} {text rest : List Char}

/-- Whatever the pattern is, it asks for a property before Unicode mode is turned on. -/
def Asked (result : Except SyntaxFault Node) : Prop :=
  ∀ node, result = .ok node → node.unicodeMarks.head? = some .asked

theorem asked_error (fault : SyntaxFault) : Asked (.error fault) := by
  intro _ hresult
  contradiction

theorem run_of_nil (hspace : skipSpace reading.verbose text = []) :
    reading.run text =
      if reading.groups.isEmpty then .ok reading.level.node else .error .groupUnclosed := by
  rw [run]
  split
  · rfl
  · next hcons =>
    rw [hspace] at hcons
    contradiction

theorem run_of_error {fault : SyntaxFault} (hspace : skipSpace reading.verbose text = c :: rest)
    (hstep : reading.step c rest = .error fault) : reading.run text = .error fault := by
  rw [run]
  split
  · next hnil =>
    rw [hspace] at hnil
    contradiction
  · next hcons =>
    obtain ⟨rfl, rfl⟩ := List.cons.inj (hspace.symm.trans hcons)
    split
    · next herror =>
      rw [hstep] at herror
      rw [Except.error.inj herror]
    · next hok =>
      rw [hstep] at hok
      contradiction

theorem unicodeMarks_of_groups (hgroups : reading.groups.isEmpty = true) :
    reading.level.node.unicodeMarks = reading.unicodeMarks := by
  rw [unicodeMarks, List.isEmpty_iff.mp hgroups, Level.unicodeMarks_node]
  rfl

/-- The marks of what is read are those of the reading at the end. -/
theorem exists_comesTo_of_run {node : Node} (hrun : reading.run text = .ok node) :
    ∃ last left, ComesTo last left reading text ∧ node.unicodeMarks = last.unicodeMarks := by
  fun_induction run reading text with
  | case1 reading text _ hgroups =>
      obtain rfl := Except.ok.inj hrun
      exact ⟨reading, text, .here, unicodeMarks_of_groups hgroups⟩
  | case2 => contradiction
  | case3 => contradiction
  | case4 reading text c rest hspace next after hstep ih =>
      obtain ⟨last, left, hcomes, hmarks⟩ := ih hrun
      exact ⟨last, left, .step hspace hstep hcomes, hmarks⟩

theorem ComesTo.marks_grow {last : Reading} {left : List Char}
    (hcomes : ComesTo last left reading text) : reading.unicodeMarks <+: last.unicodeMarks := by
  induction hcomes with
  | here => exact List.prefix_rfl
  | step _ hstep _ ih => exact (step_of_eq_ok hstep).marks_grow.trans ih

theorem ComesTo.run_eq {last : Reading} {left : List Char}
    (hcomes : ComesTo last left reading text) : reading.run text = last.run left := by
  induction hcomes with
  | here => rfl
  | step hspace hstep _ ih => exact (run_of_step hspace hstep).trans ih

/-- Nothing comes of a pattern behind a part that cannot be read. -/
theorem ComesTo.eq_of_error {last : Reading} {left : List Char} {fault : SyntaxFault}
    (hcomes : ComesTo last left reading text) (hspace : skipSpace reading.verbose text = c :: rest)
    (hstep : reading.step c rest = .error fault) : last = reading := by
  cases hcomes with
  | here => rfl
  | step hspace' hstep' _ =>
      obtain ⟨rfl, rfl⟩ := List.cons.inj (hspace.symm.trans hspace')
      rw [hstep] at hstep'
      contradiction

theorem marks_of_run {node : Node} (hrun : reading.run text = .ok node) :
    reading.unicodeMarks <+: node.unicodeMarks := by
  obtain ⟨last, left, hcomes, hmarks⟩ := exists_comesTo_of_run hrun
  rw [hmarks]
  exact hcomes.marks_grow

theorem asked_run (hmarks : reading.unicodeMarks.head? = some .asked) :
    Asked (reading.run text) := by
  intro node hrun
  obtain ⟨more, hmore⟩ := marks_of_run hrun
  rw [← hmore, List.head?_append, hmarks]
  rfl

/-- What can be read turns Unicode mode on if it is marked so. -/
theorem turnsUnicodeOn_iff_of_run {node : Node} (hrun : reading.run text = .ok node) :
    reading.TurnsUnicodeOn text ↔ .turnedOn ∈ node.unicodeMarks := by
  constructor
  · rintro ⟨last, left, hcomes, hmem⟩
    exact (marks_of_run (hcomes.run_eq.symm.trans hrun)).subset hmem
  · intro hmem
    obtain ⟨last, left, hcomes, hmarks⟩ := exists_comesTo_of_run hrun
    exact ⟨last, left, hcomes, hmarks ▸ hmem⟩

theorem exists_run_of_stopsAtRange (hstop : reading.StopsAtRange text) :
    ∃ fault, reading.run text = .error fault := by
  obtain ⟨last, left, rest, hcomes, hspace, hrange⟩ := hstop
  obtain ⟨fault, hread⟩ := exists_readBracket_of_stopsAtRange hrange
  refine ⟨fault, hcomes.run_eq.trans (run_of_error hspace ?_)⟩
  rw [step_bracket, hread]
  rfl

/-- A property that is met where Unicode mode has not been turned on is asked for first. -/
theorem AsksNext.head? (hasks : reading.AsksNext next)
    (hmarks : .turnedOn ∉ reading.unicodeMarks) : next.unicodeMarks.head? = some .asked := by
  rw [hasks]
  cases hreading : reading.unicodeMarks with
  | nil => rfl
  | cons mark marks =>
      rw [hreading] at hmarks
      cases mark with
      | asked => rfl
      | turnedOn => exact absurd (List.mem_cons_self ..) hmarks

theorem asked_run_of_step (hspace : skipSpace reading.verbose text = c :: rest)
    (hmarks : .turnedOn ∉ reading.unicodeMarks)
    (hstep : Only reading.AsksNext (reading.step c rest)) : Asked (reading.run text) := by
  cases hresult : reading.step c rest with
  | error fault =>
      rw [run_of_error hspace hresult]
      exact asked_error _
  | ok found =>
      rw [run_of_step hspace hresult]
      exact asked_run ((hstep _ _ hresult).head? hmarks)

section Behind

variable {after : List Char} (hspace : skipSpace reading.verbose text = c :: rest)
  (hstep : reading.step c rest = .ok (next, after))

include hspace hstep

theorem length_behind_lt : after.length < text.length := by
  have hskip := length_skipSpace_le reading.verbose text
  have hshorter := length_step_le hstep
  rw [hspace, List.length_cons] at hskip
  omega

theorem TurnsUnicodeOn.of_behind (hunicode : next.TurnsUnicodeOn after) :
    reading.TurnsUnicodeOn text := by
  obtain ⟨last, left, hcomes, hmem⟩ := hunicode
  exact ⟨last, left, .step hspace hstep hcomes, hmem⟩

theorem StopsAtRange.of_behind (hrange : next.StopsAtRange after) :
    reading.StopsAtRange text := by
  obtain ⟨last, left, rest, hcomes, hstop⟩ := hrange
  exact ⟨last, left, rest, .step hspace hstep hcomes, hstop⟩

end Behind

theorem run_spell_of_nil (hspace : skipSpace reading.verbose text = []) :
    reading.spell.run (BytePattern.spell text) = (reading.run text).map Node.spell := by
  have hspelling : skipSpace reading.spell.verbose (BytePattern.spell text) = [] := by
    have hspell := skipSpace_spell reading.verbose text
    rw [hspace] at hspell
    exact hspell
  have hgroups : reading.spell.groups.isEmpty = reading.groups.isEmpty := List.isEmpty_map
  have hlevel : reading.spell.level.node = reading.level.node.spell := reading.level.spell_node
  rw [run_of_nil hspace, run_of_nil hspelling, hgroups, hlevel]
  cases reading.groups.isEmpty <;> rfl

/-- A pattern and its spelling are read alike, or ask for a property outside Unicode mode. -/
theorem run_spell (hunicode : ¬reading.TurnsUnicodeOn text) (hrange : ¬reading.StopsAtRange text) :
    reading.spell.run (BytePattern.spell text) = (reading.run text).map Node.spell ∨
      Asked (reading.run text) ∧ Asked (reading.spell.run (BytePattern.spell text)) := by
  induction hlength : text.length using Nat.strongRecOn generalizing reading text with
  | ind length ih =>
      cases hspace : skipSpace reading.verbose text with
      | nil => exact .inl (run_spell_of_nil hspace)
      | cons c rest =>
          have hmarks : .turnedOn ∉ reading.unicodeMarks :=
            fun hmem => hunicode ⟨reading, text, .here, hmem⟩
          have hmarks' : .turnedOn ∉ reading.spell.unicodeMarks := by
            rw [unicodeMarks_spell]
            exact hmarks
          obtain ⟨d, more, hspell, hstep⟩ := exists_step_spell reading c rest (by
            rintro rfl hstop
            exact hrange ⟨reading, text, rest, .here, hspace, hstop⟩)
          have hspelling :
              skipSpace reading.spell.verbose (BytePattern.spell text) = d :: more := by
            rw [← hspell, ← hspace]
            exact skipSpace_spell reading.verbose text
          -- Marks only grow, so that a property asked for before Unicode mode is turned on stays
          -- the first of them, on both sides.
          rcases hstep with hsame | ⟨hnative, hspelled⟩
          · cases hresult : reading.step c rest with
            | error fault =>
                rw [hresult] at hsame
                left
                rw [run_of_error hspace hresult, run_of_error hspelling hsame]
                rfl
            | ok found =>
                rw [hresult] at hsame
                rw [run_of_step hspace hresult, run_of_step hspelling hsame]
                obtain ⟨next, after⟩ := found
                have hshorter := length_behind_lt hspace hresult
                exact ih after.length (hlength ▸ hshorter) (mt (.of_behind hspace hresult) hunicode)
                  (mt (.of_behind hspace hresult) hrange) rfl
          · right
            refine ⟨asked_run_of_step hspace hmarks hnative, asked_run_of_step hspelling hmarks' ?_⟩
            intro next after hnext
            rw [AsksNext, unicodeMarks_spell]
            exact hspelled next after hnext

end Run

end Reading

end BytePattern
