/-
Two walks over one haystack whose searches go together.  Their matches go together too, one by one,
until a search of the second walk gives up.
-/
import BytePattern.Proofs.Walk
import Mathlib.Data.List.Forall2

namespace BytePattern

/-- A relation between captures that holds wherever positions are counted from, and only of captures
that place the whole match alike. -/
structure Captures.Placing (related : Captures → Captures → Prop) : Prop where
  range : ∀ {caps caps' : Captures}, related caps caps' → caps.range = caps'.range
  wrap : ∀ {caps caps' : Captures} (count offset : Nat), related caps caps' →
    related (caps.wrap count offset) (caps'.wrap count offset)

namespace Search

/-- A program searches a whole subject. -/
def ofProgram (program : Program) (subject : Bytes) (want : Nat) : Search :=
  ⟨subject.length, want, program.execute subject want⟩

/-- Whether the engine gave the search up. -/
def failed (search : Search) : Bool :=
  match search.outcome with
  | .ok _ => false
  | .error _ => true

theorem found_of_failed {search : Search} (hfailed : search.failed = true) :
    search.found = none := by
  cases houtcome : search.outcome with
  | ok caps => simp [failed, houtcome] at hfailed
  | error error => rw [found, houtcome]

end Search

namespace Matches

variable {related : Captures → Captures → Prop} {stops : Search → Prop}

/-- Two walks stand at the same place, and wherever both search, the second stops or finds what is
related to what the first finds. -/
structure Beside (related : Captures → Captures → Prop) (stops : Search → Prop)
    (walk walk' : Matches) : Prop where
  haystack : walk'.haystack = walk.haystack
  pos : walk'.pos = walk.pos
  done : walk'.done = walk.done
  searches : Option.Rel
    (fun compiled compiled' : Compiled => ∀ subject,
      let search' := Search.ofProgram compiled'.program subject walk'.want
      stops search' ∨ Option.Rel related
        (Search.ofProgram compiled.program subject walk.want).found search'.found)
    walk.pattern.compiled walk'.pattern.compiled

section Next

variable {walk walk' : Matches}

theorem search_eq_ofProgram (walk : Matches) (compiled : Compiled) :
    walk.search compiled =
      .ofProgram compiled.program (walk.haystack.drop walk.pos) walk.want := by
  rw [search, Search.ofProgram, List.length_drop]

/-- The second walk is over, as the first is unless a search was stopped, or both meet related
matches and go on together. -/
theorem Beside.next_cases (hplacing : Captures.Placing related)
    (hstops : ∀ search, stops search → search.found = none)
    (hbeside : Beside related stops walk walk') (hrange : walk.InRange) (hrange' : walk'.InRange) :
    (walk'.next.1.value = none ∧
      (walk.next.1.value = none ∨ ∃ search ∈ walk'.next.1.searches, stops search)) ∨
      ∃ caps caps', walk.next.1.value = some caps ∧ walk'.next.1.value = some caps' ∧
        related caps caps' ∧ Beside related stops walk.next.2 walk'.next.2 := by
  obtain ⟨hhaystack, hpos, hdone, hsearches⟩ := hbeside
  cases hover : walk.done with
  | true =>
      rw [next_of_done hover, next_of_done (hdone.trans hover)]
      exact Or.inl ⟨rfl, Or.inl rfl⟩
  | false =>
      have hover' : walk'.done = false := hdone.trans hover
      generalize hcompiled : walk.pattern.compiled = program,
        hcompiled' : walk'.pattern.compiled = program' at hsearches
      cases hsearches with
      | none =>
          rw [next_of_absent hover hcompiled, next_of_absent hover' hcompiled']
          exact Or.inl ⟨rfl, Or.inl rfl⟩
      | @some compiled compiled' hanswers =>
          have hanswer := hanswers (walk.haystack.drop walk.pos)
          rw [← search_eq_ofProgram, ← hpos, ← hhaystack, ← search_eq_ofProgram] at hanswer
          rw [next_of_compiled hrange hover hcompiled, next_of_compiled hrange' hover' hcompiled']
          rcases hanswer with hstop | hfound
          · rw [hstops _ hstop]
            exact Or.inl ⟨rfl, Or.inr ⟨_, List.mem_singleton_self _, hstop⟩⟩
          · generalize (walk.search compiled).found = found,
              (walk'.search compiled').found = found' at hfound
            cases hfound with
            | none => exact Or.inl ⟨rfl, Or.inl rfl⟩
            | @some caps caps' hrelated =>
                have hplaced : related (walk.place caps) (walk'.place caps') := by
                  rw [place, place, hhaystack, hpos]
                  exact hplacing.wrap _ _ hrelated
                refine Or.inr ⟨_, _, rfl, rfl, hplaced, ?_⟩
                have hresume := congrArg resume (hplacing.range hplaced)
                refine ⟨hhaystack, ?_, ?_, ?_⟩
                · simp only [advance, hresume]
                · simp only [advance, hresume, hhaystack]
                · simp only [advance, hcompiled, hcompiled']
                  exact .some hanswers

end Next

/-- The matches of the second walk are related to the first matches of the first walk, and to all of
them unless a search was stopped. -/
theorem Beside.forall₂ {walk walk' : Matches} {run run' : Traced (List Captures)}
    (hplacing : Captures.Placing related) (hstops : ∀ search, stops search → search.found = none)
    (hbeside : Beside related stops walk walk') (hyields : walk.Yields run)
    (hyields' : walk'.Yields run') (hrange : walk.InRange) (hrange' : walk'.InRange) :
    List.Forall₂ related (run.value.take run'.value.length) run'.value ∧
      ((∀ search ∈ run'.searches, ¬ stops search) → run'.value.length = run.value.length) := by
  -- The second walk may end early, so that the first is followed for as long as the second goes on.
  induction hyields' generalizing walk run with
  | ended walk' hnone' =>
      refine ⟨.nil, fun hsearches => ?_⟩
      rcases hbeside.next_cases hplacing hstops hrange hrange' with
        ⟨_, hnone | ⟨search, hmem, hstop⟩⟩ | ⟨caps, caps', _, hsome', _⟩
      · cases hyields with
        | ended => rfl
        | matched _ caps run hsome => simp [hnone] at hsome
      · exact absurd hstop (hsearches search hmem)
      · simp [hnone'] at hsome'
  | matched walk' caps' run' hsome' hrest' ih =>
      rcases hbeside.next_cases hplacing hstops hrange hrange' with
        ⟨hnone', _⟩ | ⟨caps, _, hsome, heq', hrelated, hnext⟩
      · simp [hsome'] at hnone'
      · obtain rfl := Option.some.inj (hsome'.symm.trans heq')
        cases hyields with
        | ended _ hnone => simp [hsome] at hnone
        | matched _ found run heq hrest =>
            obtain rfl := Option.some.inj (hsome.symm.trans heq)
            obtain ⟨htail, hlength⟩ :=
              ih hnext hrest (next_inRange hrange) (next_inRange hrange')
            refine ⟨.cons hrelated htail, fun hsearches => ?_⟩
            rw [List.length_cons, List.length_cons, hlength fun search hmem =>
              hsearches search (List.mem_append_right _ hmem)]

/-- From the front of a haystack the matches of sound patterns go together until a search of the
second walk is stopped. -/
theorem Beside.start_forall₂ {pattern pattern' : Pattern} {haystack : Bytes} {want want' : Nat}
    (hplacing : Captures.Placing related) (hstops : ∀ search, stops search → search.found = none)
    (hbeside : Beside related stops (start pattern haystack want) (start pattern' haystack want'))
    (hsound : pattern.Sound) (hsound' : pattern'.Sound) :
    List.Forall₂ related
        ((start pattern haystack want).all.value.take
          (start pattern' haystack want').all.value.length)
        (start pattern' haystack want').all.value ∧
      ((∀ search ∈ (start pattern' haystack want').all.searches, ¬ stops search) →
        (start pattern' haystack want').all.value.length =
          (start pattern haystack want).all.value.length) :=
  hbeside.forall₂ hplacing hstops (start_yields hsound haystack want)
    (start_yields hsound' haystack want') (start_inRange pattern haystack want)
    (start_inRange pattern' haystack want')

end Matches

end BytePattern
