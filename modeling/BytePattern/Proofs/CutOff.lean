/-
What a failing search leaves undone.  A pattern whose program may give up a search does with the
first matches all that it would do with them otherwise, leaves what follows them as it is, and warns
once.
-/
import BytePattern.Proofs.Lockstep
import BytePattern.Proofs.Lossless
import BytePattern.Proofs.Searching
import BytePattern.Proofs.Suffix

namespace BytePattern

/-- Where the last of the spans ends, or `last` if there is none. -/
def Span.lastStop : Nat → List Span → Nat
  | last, [] => last
  | _, span :: spans => lastStop span.stop spans

namespace Bytes

/-- What `splice` makes of the haystack from position `last` up to the end of the last span. -/
def spliceFront (haystack : Bytes) : Nat → List (Span × Bytes) → Bytes
  | _, [] => []
  | last, (span, text) :: rest =>
    haystack.slice ⟨last, span.start⟩ ++ (text ++ spliceFront haystack span.stop rest)

theorem splice_append (haystack : Bytes) (last : Nat) (first rest : List (Span × Bytes)) :
    haystack.splice last (first ++ rest) =
      haystack.spliceFront last first ++
        haystack.splice (Span.lastStop last (first.map Prod.fst)) rest := by
  induction first generalizing last with
  | nil => rfl
  | cons edit first ih =>
      simp only [List.cons_append, splice, spliceFront, ih, List.append_assoc, List.map_cons,
        Span.lastStop]

/-- Behind the last of the spans nothing is exchanged. -/
theorem splice_eq_spliceFront_append_drop (haystack : Bytes) (last : Nat)
    (edits : List (Span × Bytes)) :
    haystack.splice last edits =
      haystack.spliceFront last edits ++
        haystack.drop (Span.lastStop last (edits.map Prod.fst)) := by
  simpa [splice] using haystack.splice_append last edits []

/-- What the first exchanges make of the front is not changed by those behind them. -/
theorem spliceFront_take_prefix (haystack : Bytes) (last count : Nat)
    (edits : List (Span × Bytes)) :
    haystack.spliceFront last (edits.take count) <+: haystack.splice last edits := by
  have hsplice := haystack.splice_append last (edits.take count) (edits.drop count)
  rw [List.take_append_drop] at hsplice
  exact ⟨_, hsplice.symm⟩

theorem gaps_append (haystack : Bytes) (last : Nat) (first rest : List Span) :
    haystack.gaps last (first ++ rest) =
      (haystack.gaps last first).take first.length ++
        haystack.gaps (Span.lastStop last first) rest := by
  induction first generalizing last with
  | nil => rfl
  | cons span first ih => simp [gaps, ih, Span.lastStop]

/-- The gaps of the first spans are the first gaps, and all the rest behind them. -/
theorem gaps_eq_take_append_drop (haystack : Bytes) (last : Nat) (first rest : List Span) :
    haystack.gaps last first =
      (haystack.gaps last (first ++ rest)).take first.length ++
        [haystack.drop (Span.lastStop last first)] := by
  have hfirst := haystack.gaps_append last first []
  rw [List.append_nil, gaps] at hfirst
  have hlength : ((haystack.gaps last first).take first.length).length = first.length := by
    rw [List.length_take, length_gaps]
    omega
  rw [gaps_append, List.take_append_of_le_length (Nat.le_of_eq hlength.symm), List.take_take,
    Nat.min_self]
  exact hfirst

end Bytes

namespace Program

/-- The program answers every search. -/
def Unfailing (program : Program) : Prop :=
  ∀ subject want, ∃ found, program.execute subject want = .ok found

/-- The program answers as another one does, or gives up. -/
def Falters (program whole : Program) : Prop :=
  ∀ subject want, program.execute subject want = whole.execute subject want ∨
    ∃ error, program.execute subject want = .error error

theorem Falters.sound {program whole : Program} (hfalters : program.Falters whole)
    (hsound : whole.Sound) : program.Sound := by
  intro subject want caps hexecute
  rcases hfalters subject want with hsame | ⟨error, herror⟩
  · exact hsound subject want caps (hsame ▸ hexecute)
  · rw [hexecute] at herror
    contradiction

end Program

namespace Search

variable {search : Search}

theorem exists_warning (text : String) (hfailed : search.failed = true) :
    ∃ message, search.warning? text = some message := by
  cases houtcome : search.outcome with
  | ok caps => simp [failed, houtcome] at hfailed
  | error error => exact ⟨_, by rw [warning?, houtcome]⟩

theorem warning?_eq_none {text : String} (hfailed : ¬ search.failed = true) :
    search.warning? text = none := by
  cases houtcome : search.outcome with
  | ok caps => rw [warning?, houtcome]
  | error error => simp [failed, houtcome] at hfailed

end Search

namespace Pattern

/-- Searches that do not fail give rise to no warning. -/
theorem warnings_eq_nil (pattern : Pattern) {searches : List Search}
    (hsearches : ∀ search ∈ searches, ¬ search.failed = true) :
    pattern.warnings searches = [] :=
  List.filterMap_eq_nil_iff.mpr fun search hmem => Search.warning?_eq_none (hsearches search hmem)

/-- The last of the searches, and it alone, failed, and the only warning is about it. -/
def WarnsOfLast (pattern : Pattern) (searches : List Search) : Prop :=
  ∃ made last message, searches = made ++ [last] ∧ (∀ search ∈ made, ¬ search.failed = true) ∧
    last.failed = true ∧ last.warning? pattern.text = some message ∧
    pattern.warnings searches = [message]

end Pattern

namespace Matches

/-- Only the last search of a walk may find nothing. -/
theorem Yields.searches_found {walk : Matches} {run : Traced (List Captures)}
    (hyields : walk.Yields run) (hrange : walk.InRange) :
    ∃ made last, run.searches = made ++ last ∧ last.length ≤ 1 ∧
      ∀ search ∈ made, ∃ caps, search.found = some caps := by
  induction hyields with
  | ended walk hnone =>
      refine ⟨[], walk.next.1.searches, rfl, ?_, by simp⟩
      have hstep := next_step hrange
      generalize walk.next.1 = step, walk.next.2 = rest at hstep
      cases hstep <;> simp
  | matched walk caps run hsome hrest ih =>
      obtain ⟨made, last, hsearches, hlast, hmade⟩ := ih (next_inRange hrange)
      obtain ⟨compiled, found, _, _, houtcome, _, hnext⟩ := exists_of_next_eq_some hrange hsome
      refine ⟨walk.search compiled :: made, last, ?_, hlast, ?_⟩
      · rw [hsearches, hnext]
        rfl
      · exact List.forall_mem_cons.mpr
          ⟨⟨found, Search.found_eq_some_iff.mpr houtcome⟩, hmade⟩

theorem Yields.warnsOfLast {walk : Matches} {run : Traced (List Captures)}
    (hyields : walk.Yields run) (hrange : walk.InRange) (pattern : Pattern)
    (hfailed : ∃ search ∈ run.searches, search.failed = true) :
    pattern.WarnsOfLast run.searches := by
  obtain ⟨made, last, hsearches, hlength, hmade⟩ := hyields.searches_found hrange
  have hunfailed : ∀ search ∈ made, ¬ search.failed = true := by
    intro search hmem hfailed
    obtain ⟨caps, hfound⟩ := hmade search hmem
    rw [Search.found_of_failed hfailed] at hfound
    contradiction
  obtain ⟨search, hmem, hsearch⟩ := hfailed
  rw [hsearches] at hmem
  -- The searches before the last found a match, so that the failing one is not among them.
  have hlast : last = [search] := by
    rcases List.mem_append.mp hmem with hmem | hmem
    · exact absurd hsearch (hunfailed search hmem)
    · obtain ⟨single, rfl⟩ := List.length_eq_one_iff.mp
        (Nat.le_antisymm hlength (List.length_pos_of_mem hmem))
      rw [List.mem_singleton.mp hmem]
  obtain ⟨message, hmessage⟩ := Search.exists_warning pattern.text hsearch
  refine ⟨made, search, message, hlast ▸ hsearches, hunfailed, hsearch, hmessage, ?_⟩
  have hnone := pattern.warnings_eq_nil hunfailed
  rw [Pattern.warnings] at hnone ⊢
  rw [hsearches, hlast, List.filterMap_append, hnone, List.filterMap_cons_some hmessage]
  rfl

/-- A walk beside a whole one, which goes on where this one may give up. -/
structure CutShort (pattern : Pattern) (cut whole : Traced (List Captures)) : Prop where
  /-- It meets the first matches. -/
  initial : cut.value <+: whole.value
  /-- If no search fails it meets all of them, and there is no warning. -/
  unfailed : (∀ search ∈ cut.searches, ¬ search.failed = true) →
    cut.value = whole.value ∧ pattern.warnings cut.searches = []
  /-- Otherwise the last search is the one that failed, and the one that is warned about. -/
  failed : (∃ search ∈ cut.searches, search.failed = true) → pattern.WarnsOfLast cut.searches

end Matches

namespace Pattern

/-- The pattern with another program in the place of its own. -/
def withProgram (pattern : Pattern) (program : Program) : Pattern :=
  { pattern with compiled := pattern.compiled.map ({ · with program := program }) }

/-- The number of groups that `matchOuter` asks for. -/
def outerWant (pattern : Pattern) : Nat :=
  match pattern.outerGroups with
  | [] => 1
  | first :: others => others.foldl max first + 1

/-- The program answers as the pattern's own does, or gives up. -/
def Falters (pattern : Pattern) (program : Program) : Prop :=
  ∀ compiled, pattern.compiled = some compiled → program.Falters compiled.program

theorem Falters.sound {pattern : Pattern} {program : Program} (hfalters : pattern.Falters program)
    (hsound : pattern.Sound) : (pattern.withProgram program).Sound := by
  intro compiled' hcompiled'
  obtain ⟨compiled, hcompiled, rfl⟩ := Option.map_eq_some_iff.mp hcompiled'
  exact (hfalters compiled hcompiled).sound (hsound compiled hcompiled)

end Pattern

theorem Captures.eq_placing : Placing (· = ·) where
  range := fun heq => heq ▸ rfl
  wrap := fun _ _ heq => heq ▸ rfl

namespace Matches

section WithProgram

variable {pattern : Pattern} {program : Program}

/-- The walks with the pattern's own program and with one that falters. -/
theorem beside_withProgram (hfalters : pattern.Falters program) (haystack : Bytes) (want : Nat) :
    Beside (· = ·) (fun search => search.failed = true) (start pattern haystack want)
      (start (pattern.withProgram program) haystack want) := by
  refine ⟨rfl, rfl, ?_, ?_⟩
  · simp [start, Pattern.isCompiled, Pattern.withProgram]
  · simp only [start, Pattern.withProgram]
    cases hcompiled : pattern.compiled with
    | none => exact .none
    | some compiled =>
        refine .some fun subject => ?_
        rcases hfalters compiled hcompiled subject want with hsame | ⟨error, herror⟩
        · have hsearch : Search.ofProgram program subject want =
              .ofProgram compiled.program subject want := by
            rw [Search.ofProgram, Search.ofProgram, hsame]
          dsimp only
          rw [hsearch]
          refine Or.inr ?_
          cases Search.found _ with
          | none => exact .none
          | some caps => exact .some rfl
        · exact Or.inl (by simp [Search.ofProgram, Search.failed, herror])

/-- A walk with a program that falters is the walk with the pattern's own program, cut short. -/
theorem cutShort_withProgram (hsound : pattern.Sound) (hfalters : pattern.Falters program)
    (haystack : Bytes) (want : Nat) :
    CutShort (pattern.withProgram program) (start (pattern.withProgram program) haystack want).all
      (start pattern haystack want).all := by
  have hsound' := hfalters.sound hsound
  have hrange' := start_inRange (pattern.withProgram program) haystack want
  obtain ⟨hrelated, hlength⟩ := (beside_withProgram hfalters haystack want).start_forall₂
    Captures.eq_placing (fun _ hfailed => Search.found_of_failed hfailed) hsound hsound'
  have htake := List.forall₂_eq_eq_eq ▸ hrelated
  refine ⟨htake ▸ List.take_prefix _ _, ?_,
    (start_yields hsound' haystack want).warnsOfLast hrange' _⟩
  intro hunfailed
  refine ⟨?_, Pattern.warnings_eq_nil _ hunfailed⟩
  rw [← htake, hlength hunfailed, List.take_length]

end WithProgram

/-- An operation makes the searches of the walk and no others, and gives `result` of the number of
matches met and of the place where the last of them ends. -/
def Handled {α : Type} (walk : Matches) (traced : Traced α) (result : Nat → Nat → α) : Prop :=
  traced.searches = walk.all.searches ∧
    traced.value =
      result walk.all.value.length (Span.lastStop 0 (walk.all.value.map Captures.range))

/-- What is drawn from each match on its own is drawn from the first matches. -/
theorem handled_of_map {α : Type} {walk whole : Matches} (draw : Captures → α)
    (hinitial : walk.all.value <+: whole.all.value) :
    walk.Handled (walk.all.map (List.map draw)) fun count _ =>
      (whole.all.map (List.map draw)).value.take count := by
  refine ⟨rfl, ?_⟩
  dsimp only [Traced.value_map]
  rw [← List.map_take, ← List.prefix_iff_eq_take.mp hinitial]

/-- An operation makes as many of the edits as matches are met, and none behind them.  What comes of
them is how the result of all the edits begins. -/
def Edited (walk : Matches) (traced whole : Traced Bytes) (edits : List (Span × Bytes)) : Prop :=
  walk.Handled traced
      (fun count stop =>
        walk.haystack.spliceFront 0 (edits.take count) ++ walk.haystack.drop stop) ∧
    ∀ count, walk.haystack.spliceFront 0 (edits.take count) <+: whole.value

theorem edited_of_initial {walk : Matches} {traced whole : Traced Bytes}
    {edits made : List (Span × Bytes)} (hsearches : traced.searches = walk.all.searches)
    (htraced : traced.value = walk.haystack.splice 0 made)
    (hwhole : whole.value = walk.haystack.splice 0 edits)
    (hspans : made.map Prod.fst = walk.all.value.map Captures.range) (hinitial : made <+: edits) :
    walk.Edited traced whole edits := by
  have hlength : made.length = walk.all.value.length := by
    simpa using congrArg List.length hspans
  refine ⟨⟨hsearches, ?_⟩, fun count => ?_⟩
  · dsimp only
    rw [htraced, Bytes.splice_eq_spliceFront_append_drop, hspans, ← hlength,
      ← List.prefix_iff_eq_take.mp hinitial]
  · rw [hwhole]
    exact Bytes.spliceFront_take_prefix walk.haystack 0 count edits

end Matches

namespace Pattern

/-- The operations on a haystack with a pattern whose walks are cut short.  Each handles the matches
that its walk meets as the whole pattern does, and leaves the haystack behind the last of them. -/
structure CutOff (whole cut : Pattern) (haystack : Bytes) : Prop where
  walks : ∀ want, Matches.CutShort cut (Matches.start cut haystack want).all
    (Matches.start whole haystack want).all
  split : (Matches.start cut haystack 1).Handled (cut.split haystack) fun count stop =>
    (whole.split haystack).value.take count ++ [haystack.drop stop]
  matchAll : (Matches.start cut haystack 1).Handled (cut.matchAll haystack) fun count _ =>
    (whole.matchAll haystack).value.take count
  matchOuter : (Matches.start cut haystack whole.outerWant).Handled (cut.matchOuter haystack)
    fun count _ => (whole.matchOuter haystack).value.take (count * max 1 whole.outerGroups.length)
  parseAll : (Matches.start cut haystack everyGroup).Handled (cut.parseAll haystack)
    fun count _ => (whole.parseAll haystack).value.take count
  replaceWith : ∀ replace, (Matches.start cut haystack everyGroup).Edited
    (cut.replaceWith haystack replace) (whole.replaceWith haystack replace)
    ((whole.capturesIter haystack).value.mapIdx fun i caps =>
      (caps.range, replace i (caps.texts haystack)))
  exec : ∀ template : Template, (Matches.start cut haystack template.wantGroups).Edited
    (Substitution.exec ⟨cut, template⟩ haystack) (Substitution.exec ⟨whole, template⟩ haystack)
    (template.edits haystack (Matches.start whole haystack template.wantGroups).all.value)

section Operations

variable {whole cut : Pattern} {haystack : Bytes}

theorem split_handled (hinitial : (Matches.start cut haystack 1).all.value <+:
    (Matches.start whole haystack 1).all.value) :
    (Matches.start cut haystack 1).Handled (cut.split haystack) fun count stop =>
      (whole.split haystack).value.take count ++ [haystack.drop stop] := by
  obtain ⟨rest, hrest⟩ := hinitial
  have hgaps := haystack.gaps_eq_take_append_drop 0
    ((Matches.start cut haystack 1).all.value.map Captures.range) (rest.map Captures.range)
  rw [← List.map_append, hrest, List.length_map] at hgaps
  exact ⟨rfl, hgaps⟩

theorem take_flatMap_of_length_eq {α β : Type} {f : α → List β} {width : Nat}
    (hwidth : ∀ a, (f a).length = width) (count : Nat) (as : List α) :
    (as.flatMap f).take (count * width) = (as.take count).flatMap f := by
  induction as generalizing count with
  | nil => simp
  | cons a as ih =>
      cases count with
      | zero => simp
      | succ count =>
          rw [List.flatMap_cons, List.take_succ_cons, List.flatMap_cons, ← ih, Nat.succ_mul,
            Nat.add_comm, ← hwidth a, List.take_length_add_append]

theorem matchOuter_handled (houter : cut.outerGroups = whole.outerGroups)
    (hinitial : (Matches.start cut haystack whole.outerWant).all.value <+:
      (Matches.start whole haystack whole.outerWant).all.value) :
    (Matches.start cut haystack whole.outerWant).Handled (cut.matchOuter haystack)
      fun count _ =>
        (whole.matchOuter haystack).value.take (count * max 1 whole.outerGroups.length) := by
  unfold matchOuter outerWant at *
  rw [houter]
  cases hgroups : whole.outerGroups with
  | nil =>
      rw [hgroups] at hinitial
      obtain ⟨hsearches, hvalue⟩ := Matches.handled_of_map
        (fun caps => haystack.slice caps.range) hinitial
      refine ⟨hsearches, ?_⟩
      dsimp only [matchAll, Traced.value_map] at hvalue ⊢
      rw [hvalue, List.map_take, List.length_nil, Nat.max_zero, Nat.mul_one]
  | cons first others =>
      rw [hgroups] at hinitial
      refine ⟨rfl, ?_⟩
      have hwidth (caps : Captures) :
          ((first :: others).map (caps.text? haystack)).length =
            max 1 (first :: others).length := by
        simp
      dsimp only [Traced.value_map]
      rw [take_flatMap_of_length_eq hwidth, ← List.prefix_iff_eq_take.mp hinitial]

theorem replaceWith_edited (replace : Nat → List (Option Bytes) → Bytes)
    (hinitial : (Matches.start cut haystack everyGroup).all.value <+:
      (Matches.start whole haystack everyGroup).all.value) :
    (Matches.start cut haystack everyGroup).Edited (cut.replaceWith haystack replace)
      (whole.replaceWith haystack replace)
      ((whole.capturesIter haystack).value.mapIdx fun i caps =>
        (caps.range, replace i (caps.texts haystack))) := by
  obtain ⟨rest, hrest⟩ := hinitial
  have hedits := congrArg
    (List.mapIdx fun i caps => (caps.range, replace i (caps.texts haystack))) hrest
  rw [List.mapIdx_append] at hedits
  exact Matches.edited_of_initial rfl rfl rfl (map_fst_mapIdx_range _ _) ⟨_, hedits⟩

theorem exec_edited (template : Template)
    (hinitial : (Matches.start cut haystack template.wantGroups).all.value <+:
      (Matches.start whole haystack template.wantGroups).all.value) :
    (Matches.start cut haystack template.wantGroups).Edited
      (Substitution.exec ⟨cut, template⟩ haystack) (Substitution.exec ⟨whole, template⟩ haystack)
      (template.edits haystack (Matches.start whole haystack template.wantGroups).all.value) := by
  have hspans : (template.edits haystack
      (Matches.start cut haystack template.wantGroups).all.value).map Prod.fst =
        (Matches.start cut haystack template.wantGroups).all.value.map Captures.range :=
    List.map_map
  exact Matches.edited_of_initial rfl rfl rfl hspans (hinitial.map _)

end Operations

/-- A program that falters cuts the operations on a haystack off. -/
theorem cutOff_withProgram {pattern : Pattern} {program : Program} (hsound : pattern.Sound)
    (hfalters : pattern.Falters program) (haystack : Bytes) :
    pattern.CutOff (pattern.withProgram program) haystack := by
  have hwalks := Matches.cutShort_withProgram hsound hfalters haystack
  have houter : (pattern.withProgram program).outerGroups = pattern.outerGroups := by
    unfold outerGroups withProgram
    cases pattern.compiled <;> rfl
  exact ⟨hwalks, split_handled (hwalks 1).initial, Matches.handled_of_map _ (hwalks 1).initial,
    matchOuter_handled houter (hwalks _).initial, Matches.handled_of_map _ (hwalks _).initial,
    fun replace => replaceWith_edited replace (hwalks _).initial,
    fun template => exec_edited template (hwalks _).initial⟩

end Pattern

end BytePattern
