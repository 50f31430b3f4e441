/-
Walks with a limit on the number of matches.  They meet the first matches that there are and make
no search beyond those that the limit leaves room for, so that nothing a program would do in a later
search shows.
-/
import BytePattern.Proofs.Refusal

namespace BytePattern

/-- A program answers as the search was answered. -/
def Search.AnsweredBy (search : Search) (program : Program) (haystack : Bytes) : Prop :=
  program.execute (haystack.drop (haystack.length - search.length)) search.want = search.outcome

namespace Matches

/-- No call of `next` makes more than one search. -/
theorem length_searches_next_le_one {walk : Matches} (hrange : walk.InRange) :
    walk.next.1.searches.length ≤ 1 := by
  have hstep := next_step hrange
  generalize walk.next.1 = step, walk.next.2 = rest at hstep ⊢
  cases hstep <;> simp

/-- A bound on the number of matches bounds the number of searches. -/
theorem Yields.searches_take {walk : Matches} {run : Traced (List Captures)}
    (hyields : walk.Yields run) (hrange : walk.InRange) (n : Nat) :
    (walk.take n).searches = run.searches.take n := by
  induction hyields generalizing n with
  | ended walk hnone =>
      cases n with
      | zero => rfl
      | succ n =>
          have hone := length_searches_next_le_one hrange
          have hall : walk.next.1.searches.length ≤ n + 1 := Nat.le_add_left_of_le hone
          rw [take_succ, hnone]
          exact (List.take_of_length_le hall).symm
  | matched walk caps run hsome hrest ih =>
      cases n with
      | zero => rfl
      | succ n =>
          obtain ⟨compiled, _, _, _, _, _, hnext⟩ := exists_of_next_eq_some hrange hsome
          have htail := ih (next_inRange hrange) n
          rw [hnext] at htail
          rw [take_succ, hsome, hnext]
          exact congrArg (List.cons _) htail

/-- The first matches of a haystack are met in the first searches. -/
theorem start_take {pattern : Pattern} (hsound : pattern.Sound) (haystack : Bytes)
    (want n : Nat) :
    (start pattern haystack want).take n =
      ⟨(start pattern haystack want).all.value.take n,
        (start pattern haystack want).all.searches.take n⟩ := by
  have hyields := start_yields hsound haystack want
  have hsearches := hyields.searches_take (start_inRange pattern haystack want) n
  rw [← hyields.value_take n, ← hsearches]

section WithProgram

variable {walk : Matches} {program : Program}

/-- The walk with another program in the place of its own. -/
def withProgram (walk : Matches) (program : Program) : Matches :=
  { walk with pattern := walk.pattern.withProgram program }

theorem start_withProgram (pattern : Pattern) (program : Program) (haystack : Bytes)
    (want : Nat) :
    start (pattern.withProgram program) haystack want =
      (start pattern haystack want).withProgram program := by
  simp [start, withProgram, Pattern.isCompiled, Pattern.withProgram]

/-- A call goes on alike if the search in it is answered alike. -/
theorem next_withProgram (hrange : walk.InRange)
    (hanswers : ∀ search ∈ walk.next.1.searches, search.AnsweredBy program walk.haystack) :
    (walk.withProgram program).next = (walk.next.1, walk.next.2.withProgram program) := by
  cases hdone : walk.done with
  | true =>
      have hdone' : (walk.withProgram program).done = true := hdone
      rw [next_of_done hdone, next_of_done hdone']
  | false =>
      have hdone' : (walk.withProgram program).done = false := hdone
      cases hcompiled : walk.pattern.compiled with
      | none =>
          have hcompiled' : (walk.withProgram program).pattern.compiled = none := by
            simp [withProgram, Pattern.withProgram, hcompiled]
          rw [next_of_absent hdone hcompiled, next_of_absent hdone' hcompiled']
          rfl
      | some compiled =>
          have hcompiled' : (walk.withProgram program).pattern.compiled =
              some { compiled with program := program } := by
            simp [withProgram, Pattern.withProgram, hcompiled]
          have hrange' : (walk.withProgram program).InRange := hrange
          rw [next_of_compiled hrange hdone hcompiled] at hanswers ⊢
          rw [next_of_compiled hrange' hdone' hcompiled']
          have hmade : (walk.search compiled).AnsweredBy program walk.haystack := by
            apply hanswers
            cases (walk.search compiled).found <;> exact List.mem_singleton_self _
          have hsearch : (walk.withProgram program).search { compiled with program := program } =
              walk.search compiled := by
            rw [Search.AnsweredBy, search, Nat.sub_sub_self (hrange hdone)] at hmade
            simp only [search, withProgram, hmade]
          rw [hsearch]
          cases (walk.search compiled).found <;> rfl

/-- A walk to the first matches tells programs apart only by their answers to the searches it
makes. -/
theorem take_withProgram (hrange : walk.InRange) (n : Nat)
    (hanswers : ∀ search ∈ (walk.take n).searches, search.AnsweredBy program walk.haystack) :
    (walk.withProgram program).take n = walk.take n := by
  induction n generalizing walk with
  | zero => rfl
  | succ n ih =>
      rw [take_succ] at hanswers
      cases hvalue : walk.next.1.value with
      | none =>
          rw [hvalue] at hanswers
          rw [take_succ, take_succ, next_withProgram hrange hanswers, hvalue]
      | some caps =>
          rw [hvalue] at hanswers
          have hfirst := next_withProgram hrange fun search hmem =>
            hanswers search (List.mem_append_left _ hmem)
          have hrest := ih (next_inRange hrange) fun search hmem =>
            (next_haystack hrange).symm ▸ hanswers search (List.mem_append_right _ hmem)
          rw [take_succ, take_succ, hfirst, hvalue, hrest]

end WithProgram

end Matches

namespace Pattern

/-- What `findAll` makes of a haystack, beside the walk over all matches. -/
structure Limited (pattern : Pattern) (haystack : Bytes) (limit : Nat) : Prop where
  found : (pattern.findAll haystack limit).value =
    (pattern.capturesIter haystack).value.take limit
  searches : (pattern.findAll haystack limit).searches =
    (pattern.capturesIter haystack).searches.take limit
  /-- There are fewer searches than the limit allows only if the whole walk makes no more. -/
  count : (pattern.findAll haystack limit).searches.length =
    min limit (pattern.capturesIter haystack).searches.length
  /-- Another program, whatever it does in later searches, comes to the same matches by the same
  searches. -/
  blind : ∀ program, (∀ search ∈ (pattern.capturesIter haystack).searches.take limit,
      search.AnsweredBy program haystack) →
    (pattern.withProgram program).findAll haystack limit = pattern.findAll haystack limit

variable {pattern : Pattern}

theorem findAll_limited (hsound : pattern.Sound) (haystack : Bytes) (limit : Nat) :
    pattern.Limited haystack limit := by
  have hfirst := Matches.start_take hsound haystack everyGroup limit
  refine ⟨congrArg Traced.value hfirst, congrArg Traced.searches hfirst, ?_, ?_⟩
  · rw [findAll, hfirst, List.length_take]
    rfl
  · intro program hanswers
    rw [findAll, findAll, Matches.start_withProgram]
    apply Matches.take_withProgram (Matches.start_inRange pattern haystack everyGroup)
    rw [hfirst]
    exact hanswers

end Pattern

namespace Substitution

/-- The spans of matches beside the expanded replacements, as long as there are both. -/
def eachEdits (haystack : Bytes) (replacements : List Bytes) (found : List Captures) :
    List (Span × Bytes) :=
  List.zipWith (fun text caps => (caps.range, (Template.parse text).expansion haystack caps))
    replacements found

/-- Takes the replacements in turn and looks for a match for each.  What stands before the match and
the expanded replacement is appended to a buffer, and at the end what follows the last match. -/
def expandEach (haystack : Bytes) : List Bytes → Matches → Nat → Bytes → Traced Bytes
  | [], _, last, buffer => ⟨buffer ++ haystack.drop last, []⟩
  | text :: texts, walk, last, buffer =>
    let (step, rest) := walk.next
    match step.value with
    | none => ⟨buffer ++ haystack.drop last, step.searches⟩
    | some caps =>
      let gap := haystack.slice ⟨last, caps.range.start⟩
      let more := expandEach haystack texts rest caps.range.stop
        ((Template.parse text).expand haystack caps (buffer ++ gap))
      ⟨more.value, step.searches ++ more.searches⟩

theorem expandEach_cons (haystack text : Bytes) (texts : List Bytes) (walk : Matches) (last : Nat)
    (buffer : Bytes) :
    expandEach haystack (text :: texts) walk last buffer =
      match walk.next.1.value with
      | none => ⟨buffer ++ haystack.drop last, walk.next.1.searches⟩
      | some caps =>
        let gap := haystack.slice ⟨last, caps.range.start⟩
        let more := expandEach haystack texts walk.next.2 caps.range.stop
          ((Template.parse text).expand haystack caps (buffer ++ gap))
        ⟨more.value, walk.next.1.searches ++ more.searches⟩ := rfl

theorem expandEach_eq (haystack : Bytes) (texts : List Bytes) (walk : Matches) (last : Nat)
    (buffer : Bytes) :
    expandEach haystack texts walk last buffer =
      ⟨buffer ++ haystack.splice last (eachEdits haystack texts (walk.take texts.length).value),
        (walk.take texts.length).searches⟩ := by
  induction texts generalizing walk last buffer with
  | nil => rfl
  | cons text texts ih =>
      rw [expandEach_cons, List.length_cons, Matches.take_succ]
      cases walk.next.1.value with
      | none => rfl
      | some caps =>
          simp only [ih, eachEdits, List.zipWith_cons_cons, Bytes.splice, Template.expand,
            List.append_assoc]

theorem execEach_eq_expandEach (substitution : Substitution) (haystack : Bytes)
    (replacements : List Bytes) :
    substitution.execEach haystack replacements =
      expandEach haystack replacements (Matches.start substitution.pattern haystack everyGroup) 0
        [] := by
  rw [expandEach_eq]
  rfl

/-- There is an edit for each of the first matches that has a replacement. -/
theorem map_fst_eachEdits (haystack : Bytes) (replacements : List Bytes)
    (found : List Captures) :
    (eachEdits haystack replacements found).map Prod.fst =
      (found.take replacements.length).map Captures.range := by
  induction replacements generalizing found with
  | nil => rfl
  | cons text replacements ih =>
      cases found with
      | nil => rfl
      | cons caps found => exact congrArg (List.cons caps.range) (ih found)

/-- Matches without a replacement have no edit. -/
theorem eachEdits_take (haystack : Bytes) (replacements : List Bytes) (found : List Captures) :
    eachEdits haystack replacements (found.take replacements.length) =
      eachEdits haystack replacements found := by
  induction replacements generalizing found with
  | nil => rfl
  | cons text replacements ih =>
      cases found with
      | nil => rfl
      | cons caps found => exact congrArg (List.cons _) (ih found)

/-- What `execEach` makes of a haystack, beside the walk over all matches. -/
structure LimitedEach (substitution : Substitution) (haystack : Bytes) (replacements : List Bytes)
    (whole : Traced (List Captures)) : Prop where
  searches : (substitution.execEach haystack replacements).searches =
    whole.searches.take replacements.length
  count : (substitution.execEach haystack replacements).searches.length =
    min replacements.length whole.searches.length
  /-- The first matches are exchanged, as many as there are replacements. -/
  edits : (eachEdits haystack replacements whole.value).length =
    min replacements.length whole.value.length
  /-- Each of them is exchanged for its own replacement, expanded against it. -/
  each : ∀ (i : Nat) text caps, replacements[i]? = some text → whole.value[i]? = some caps →
    (eachEdits haystack replacements whole.value)[i]? =
      some (caps.range, (Template.parse text).expansion haystack caps)
  /-- The haystack behind the last of them is left as it is. -/
  value : (substitution.execEach haystack replacements).value =
    haystack.spliceFront 0 (eachEdits haystack replacements whole.value) ++
      haystack.drop
        (Span.lastStop 0 ((whole.value.take replacements.length).map Captures.range))
  /-- A replacement is there before a match is looked for. -/
  stepwise : substitution.execEach haystack replacements =
    expandEach haystack replacements (Matches.start substitution.pattern haystack everyGroup) 0 []
  /-- Another program, whatever it does in later searches, comes to the same result by the same
  searches. -/
  blind : ∀ program, (∀ search ∈ whole.searches.take replacements.length,
      search.AnsweredBy program haystack) →
    execEach ⟨substitution.pattern.withProgram program, substitution.template⟩ haystack
      replacements = substitution.execEach haystack replacements

variable {substitution : Substitution}

theorem execEach_limited (hsound : substitution.pattern.Sound) (haystack : Bytes)
    (replacements : List Bytes) :
    substitution.LimitedEach haystack replacements
      (substitution.pattern.capturesIter haystack) := by
  have hfirst := Matches.start_take hsound haystack everyGroup replacements.length
  have hsearches : (substitution.execEach haystack replacements).searches =
      (substitution.pattern.capturesIter haystack).searches.take replacements.length :=
    congrArg Traced.searches hfirst
  refine ⟨hsearches, ?_, List.length_zipWith, ?_, ?_, execEach_eq_expandEach _ _ _, ?_⟩
  · rw [hsearches, List.length_take]
  · intro i text caps htext hcaps
    rw [eachEdits, List.getElem?_zipWith, htext, hcaps]
  · have hvalue : (substitution.execEach haystack replacements).value =
        haystack.splice 0 (eachEdits haystack replacements
          ((Matches.start substitution.pattern haystack everyGroup).take
            replacements.length).value) := rfl
    rw [hvalue, hfirst, eachEdits_take, Bytes.splice_eq_spliceFront_append_drop,
      map_fst_eachEdits]
    rfl
  · intro program hanswers
    have hrange := Matches.start_inRange substitution.pattern haystack everyGroup
    rw [← hsearches] at hanswers
    have hsame := Matches.take_withProgram hrange replacements.length hanswers
    rw [execEach, execEach, Matches.start_withProgram, hsame]

end Substitution

namespace Pattern

/-- On any haystack a sound pattern finds the first matches, or exchanges them, as if there were no
search behind theirs. -/
theorem limited_of_sound {pattern : Pattern} (hsound : pattern.Sound) (haystack : Bytes) :
    (∀ limit, pattern.Limited haystack limit) ∧
      ∀ template replacements, Substitution.LimitedEach ⟨pattern, template⟩ haystack replacements
        (pattern.capturesIter haystack) := by
  constructor
  · intro limit
    exact findAll_limited hsound haystack limit
  · intro template replacements
    have hpattern : (Substitution.mk pattern template).pattern.Sound := hsound
    exact Substitution.execEach_limited hpattern haystack replacements

/-- A reference, and a search behind it that fails. -/
theorem limited_of_sound_tired :
    (Reference.pattern.withProgram tired).Sound ∧
      (Reference.pattern.withProgram tired).Limited (Bytes.ofString "$1\\$") 1 ∧
      Substitution.LimitedEach ⟨Reference.pattern.withProgram tired, .parse (.ofString "")⟩
        (Bytes.ofString "$1\\$") [Bytes.ofString "<$0>"]
        ((Reference.pattern.withProgram tired).capturesIter (Bytes.ofString "$1\\$")) := by
  have hsound : (Reference.pattern.withProgram tired).Sound :=
    tired_falters.sound Reference.pattern_sound
  obtain ⟨hlimited, heach⟩ := limited_of_sound hsound (Bytes.ofString "$1\\$")
  exact ⟨hsound, hlimited 1, heach (.parse (.ofString "")) [Bytes.ofString "<$0>"]⟩

example :
    let pattern := Reference.pattern.withProgram tired
    let haystack := Bytes.ofString "$1\\$"
    (pattern.capturesIter haystack).searches.map Search.failed = [false, true] ∧
      (pattern.findAll haystack 1).searches.map Search.failed = [false] := by
  decide

end Pattern

end BytePattern
