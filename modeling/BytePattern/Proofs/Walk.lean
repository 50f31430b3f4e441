/-
The walk over the matches of a pattern.  It makes at most one search for each position of the
haystack, its spans ascend, and whatever is cut at them lies inside the haystack.
-/
import BytePattern.Proofs.Cuts
import BytePattern.Proofs.Soundness
import BytePattern.Substitution
import Mathlib.Logic.Function.Iterate

namespace BytePattern

theorem Search.found_eq_some_iff {search : Search} {caps : Captures} :
    search.found = some caps ↔ search.outcome = .ok (some caps) := by
  unfold found
  split <;> simp_all

namespace Pattern

/-- A search that starts inside the haystack is a search of what is left of it. -/
theorem execute_eq_of_compiled {pattern : Pattern} {compiled : Compiled} {haystack : Bytes}
    {offset : Nat} (want : Nat) (hcompiled : pattern.compiled = some compiled)
    (hoffset : offset ≤ haystack.length) :
    pattern.execute haystack offset want =
      let search : Search := ⟨haystack.length - offset, want,
        compiled.program.execute (haystack.drop offset) want⟩
      ⟨search.found.map (·.wrap haystack.positions offset), [search]⟩ := by
  simp [execute, hcompiled, hoffset]

end Pattern

namespace Matches

/-- A walk that is not over stands inside its haystack. -/
def InRange (walk : Matches) : Prop :=
  walk.done = false → walk.pos ≤ walk.haystack.length

/-- The number of positions that are left for searches to start at. -/
def room (walk : Matches) : Nat :=
  if walk.done then 0 else walk.haystack.length + 1 - walk.pos

/-- The search that a walk makes next. -/
def search (walk : Matches) (compiled : Compiled) : Search :=
  ⟨walk.haystack.length - walk.pos, walk.want,
    compiled.program.execute (walk.haystack.drop walk.pos) walk.want⟩

/-- What is found where the walk stands, counted from the start of its haystack. -/
def place (walk : Matches) (caps : Captures) : Captures :=
  caps.wrap walk.haystack.positions walk.pos

/-- All that a call of `next` can do: what it gives, and the walk after it. -/
inductive Step (walk : Matches) : Traced (Option Captures) → Matches → Prop where
  /-- The walk was over before. -/
  | stopped (hdone : walk.done = true) : Step walk ⟨none, []⟩ walk
  /-- There is no program to search with. -/
  | absent (hdone : walk.done = false) (hcompiled : walk.pattern.compiled = none) :
      Step walk ⟨none, []⟩ { walk with done := true }
  /-- The search found nothing, or failed. -/
  | missed (compiled : Compiled) (hdone : walk.done = false)
      (hcompiled : walk.pattern.compiled = some compiled)
      (hfound : (walk.search compiled).found = none) :
      Step walk ⟨none, [walk.search compiled]⟩ { walk with done := true }
  /-- The search found a match. -/
  | matched (compiled : Compiled) (caps : Captures) (hdone : walk.done = false)
      (hcompiled : walk.pattern.compiled = some compiled)
      (hfound : (walk.search compiled).found = some caps) :
      Step walk ⟨some (walk.place caps), [walk.search compiled]⟩ (walk.advance (walk.place caps))

theorem next_of_done {walk : Matches} (hdone : walk.done = true) :
    walk.next = (⟨none, []⟩, walk) := by
  simp [next, hdone]

theorem next_of_absent {walk : Matches} (hdone : walk.done = false)
    (hcompiled : walk.pattern.compiled = none) :
    walk.next = (⟨none, []⟩, { walk with done := true }) := by
  simp [next, hdone, Pattern.execute, hcompiled]

/-- A walk that is not over makes one search and goes on behind what it finds. -/
theorem next_of_compiled {walk : Matches} {compiled : Compiled} (hrange : walk.InRange)
    (hdone : walk.done = false) (hcompiled : walk.pattern.compiled = some compiled) :
    walk.next =
      match (walk.search compiled).found with
      | none => (⟨none, [walk.search compiled]⟩, { walk with done := true })
      | some caps =>
        (⟨some (walk.place caps), [walk.search compiled]⟩, walk.advance (walk.place caps)) := by
  have hpos : walk.pos ≤ walk.haystack.length := hrange hdone
  simp only [next, hdone, Pattern.execute_eq_of_compiled walk.want hcompiled hpos]
  rw [search]
  cases Search.found _ <;> rfl

theorem next_step {walk : Matches} (hrange : walk.InRange) :
    walk.Step walk.next.1 walk.next.2 := by
  cases hdone : walk.done with
  | true =>
      rw [next_of_done hdone]
      exact .stopped hdone
  | false =>
      cases hcompiled : walk.pattern.compiled with
      | none =>
          rw [next_of_absent hdone hcompiled]
          exact .absent hdone hcompiled
      | some compiled =>
          rw [next_of_compiled hrange hdone hcompiled]
          cases hfound : (walk.search compiled).found with
          | none => exact .missed compiled hdone hcompiled hfound
          | some caps => exact .matched compiled caps hdone hcompiled hfound

theorem start_inRange (pattern : Pattern) (haystack : Bytes) (want : Nat) :
    (start pattern haystack want).InRange :=
  fun _ => Nat.zero_le _

theorem advance_inRange (walk : Matches) (caps : Captures) : (walk.advance caps).InRange := by
  intro hdone
  simpa [advance] using hdone

theorem next_inRange {walk : Matches} (hrange : walk.InRange) : walk.next.2.InRange := by
  have hstep := next_step hrange
  generalize walk.next.1 = step, walk.next.2 = rest at hstep ⊢
  cases hstep with
  | stopped => exact hrange
  | absent | missed => simp [InRange]
  | matched => exact advance_inRange walk _

theorem next_pattern {walk : Matches} (hrange : walk.InRange) :
    walk.next.2.pattern = walk.pattern := by
  have hstep := next_step hrange
  generalize walk.next.1 = step, walk.next.2 = rest at hstep ⊢
  cases hstep <;> rfl

theorem next_haystack {walk : Matches} (hrange : walk.InRange) :
    walk.next.2.haystack = walk.haystack := by
  have hstep := next_step hrange
  generalize walk.next.1 = step, walk.next.2 = rest at hstep ⊢
  cases hstep <;> rfl

theorem next_want {walk : Matches} (hrange : walk.InRange) :
    walk.next.2.want = walk.want ∧ ∀ search ∈ walk.next.1.searches, search.want = walk.want := by
  have hstep := next_step hrange
  generalize walk.next.1 = step, walk.next.2 = rest at hstep ⊢
  cases hstep <;> simp [advance, search]

/-- Once a call gives nothing the walk is over. -/
theorem done_of_next_eq_none {walk : Matches} (hrange : walk.InRange)
    (hnone : walk.next.1.value = none) : walk.next.2.done = true := by
  have hstep := next_step hrange
  generalize walk.next.1 = step, walk.next.2 = rest at hstep hnone ⊢
  cases hstep with
  | stopped hdone => exact hdone
  | absent | missed => rfl
  | matched => simp at hnone

/-- A call that gives a match made one search, and the walk goes on after the match. -/
theorem exists_of_next_eq_some {walk : Matches} {caps : Captures} (hrange : walk.InRange)
    (hsome : walk.next.1.value = some caps) :
    ∃ compiled found, walk.done = false ∧ walk.pattern.compiled = some compiled ∧
      (walk.search compiled).outcome = .ok (some found) ∧ caps = walk.place found ∧
      walk.next = (⟨some caps, [walk.search compiled]⟩, walk.advance caps) := by
  have hstep := next_step hrange
  have heta : walk.next = (walk.next.1, walk.next.2) := rfl
  generalize walk.next.1 = step, walk.next.2 = rest at hstep hsome heta
  cases hstep with
  | stopped | absent | missed => simp at hsome
  | matched compiled found hdone hcompiled hfound =>
      obtain rfl := Option.some.inj hsome
      exact ⟨compiled, found, hdone, hcompiled, Search.found_eq_some_iff.mp hfound, rfl, heta⟩

theorem room_le (walk : Matches) : walk.room ≤ walk.haystack.length + 1 := by
  unfold room
  split <;> omega

theorem room_pos {walk : Matches} (hrange : walk.InRange) (hdone : walk.done = false) :
    0 < walk.room := by
  have hpos := hrange hdone
  simp only [room, hdone, Bool.false_eq_true, ↓reduceIte]
  omega

/-- No call makes more searches than there is room for. -/
theorem length_searches_next_le {walk : Matches} (hrange : walk.InRange) :
    walk.next.1.searches.length ≤ walk.room := by
  have hstep := next_step hrange
  generalize walk.next.1 = step, walk.next.2 = rest at hstep ⊢
  cases hstep with
  | stopped | absent => exact Nat.zero_le _
  | missed compiled hdone => exact room_pos hrange hdone
  | matched compiled caps hdone => exact room_pos hrange hdone

/-- A match lies in what is left of the haystack, and takes room away. -/
theorem next_bounds {walk : Matches} {caps : Captures} (hsound : walk.pattern.Sound)
    (hrange : walk.InRange) (hsome : walk.next.1.value = some caps) :
    ∃ span, caps.group 0 = some span ∧ walk.pos ≤ span.start ∧
      span.Within walk.haystack.length ∧ walk.next.2.room < walk.room := by
  obtain ⟨compiled, found, hdone, hcompiled, houtcome, rfl, hnext⟩ :=
    exists_of_next_eq_some hrange hsome
  have hpos := hrange hdone
  obtain ⟨span, hspan, hforward, hwithin⟩ := hsound compiled hcompiled _ _ _ houtcome
  rw [List.length_drop] at hwithin
  have hplaced : (walk.place found).group 0 = some (span.shift walk.pos) :=
    Captures.group_wrap_of_fits hspan (Span.fits_of_within hpos ⟨hforward, hwithin⟩)
  have hresume := start_lt_resume (show (span.shift walk.pos).start ≤ (span.shift walk.pos).stop by
    simpa using hforward)
  refine ⟨_, hplaced, by simp, ⟨by simpa using hforward, ?_⟩, ?_⟩
  · rw [Span.shift_stop]
    omega
  · rw [Span.shift_start] at hresume
    simp only [hnext, advance, room, hdone, Captures.range_eq_of_group hplaced,
      decide_eq_true_eq, Bool.false_eq_true, ↓reduceIte]
    split <;> omega

/-- What a walk yields until a call gives nothing, with all the searches made for it. -/
inductive Yields : Matches → Traced (List Captures) → Prop where
  | ended (walk : Matches) (hnone : walk.next.1.value = none) :
      Yields walk ⟨[], walk.next.1.searches⟩
  | matched (walk : Matches) (caps : Captures) (run : Traced (List Captures))
      (hsome : walk.next.1.value = some caps) (hrest : Yields walk.next.2 run) :
      Yields walk ⟨caps :: run.value, walk.next.1.searches ++ run.searches⟩

/-- The walk over the matches of a sound pattern ends. -/
theorem exists_yields {walk : Matches} (hsound : walk.pattern.Sound) (hrange : walk.InRange) :
    ∃ run, walk.Yields run := by
  induction hroom : walk.room using Nat.strong_induction_on generalizing walk with
  | h room ih =>
      cases hvalue : walk.next.1.value with
      | none => exact ⟨_, .ended walk hvalue⟩
      | some caps =>
          obtain ⟨span, _, _, _, hlt⟩ := next_bounds hsound hrange hvalue
          obtain ⟨run, hrun⟩ := ih walk.next.2.room (hroom ▸ hlt)
            ((next_pattern hrange).symm ▸ hsound) (next_inRange hrange) rfl
          exact ⟨_, .matched walk caps run hvalue hrun⟩

/-- Every search takes up room of its own. -/
theorem Yields.length_searches_le {walk : Matches} {run : Traced (List Captures)}
    (hyields : walk.Yields run) (hsound : walk.pattern.Sound) (hrange : walk.InRange) :
    run.searches.length ≤ walk.room := by
  induction hyields with
  | ended walk hnone => exact length_searches_next_le hrange
  | matched walk caps run hsome hrest ih =>
      obtain ⟨span, _, _, _, hlt⟩ := next_bounds hsound hrange hsome
      have hle := ih ((next_pattern hrange).symm ▸ hsound) (next_inRange hrange)
      obtain ⟨compiled, found, _, _, _, _, hnext⟩ := exists_of_next_eq_some hrange hsome
      rw [hnext] at hle hlt ⊢
      simp only [List.length_append, List.length_singleton]
      omega

theorem take_succ (n : Nat) (walk : Matches) :
    walk.take (n + 1) =
      match walk.next.1.value with
      | none => ⟨[], walk.next.1.searches⟩
      | some caps =>
        ⟨caps :: (walk.next.2.take n).value,
          walk.next.1.searches ++ (walk.next.2.take n).searches⟩ := rfl

theorem take_of_done {walk : Matches} (hdone : walk.done = true) (n : Nat) :
    walk.take n = ⟨[], []⟩ := by
  cases n with
  | zero => rfl
  | succ n => rw [take_succ, next_of_done hdone]

/-- A bound that leaves no room cuts nothing off. -/
theorem Yields.take_eq {walk : Matches} {run : Traced (List Captures)}
    (hyields : walk.Yields run) (hsound : walk.pattern.Sound) (hrange : walk.InRange) {n : Nat}
    (hn : walk.room ≤ n) : walk.take n = run := by
  induction hyields generalizing n with
  | ended walk hnone =>
      cases n with
      | zero =>
          have hle := length_searches_next_le hrange
          rw [List.length_eq_zero_iff.mp (Nat.le_zero.mp (Nat.le_trans hle hn))]
          rfl
      | succ n => rw [take_succ, hnone]
  | matched walk caps run hsome hrest ih =>
      obtain ⟨span, _, _, _, hlt⟩ := next_bounds hsound hrange hsome
      cases n with
      | zero => omega
      | succ n =>
          rw [take_succ, hsome, ih ((next_pattern hrange).symm ▸ hsound) (next_inRange hrange)
            (by omega)]

/-- The bound on all matches cuts nothing off. -/
theorem Yields.all_eq {walk : Matches} {run : Traced (List Captures)}
    (hyields : walk.Yields run) (hsound : walk.pattern.Sound) (hrange : walk.InRange) :
    walk.all = run :=
  hyields.take_eq hsound hrange walk.room_le

theorem yields_all {walk : Matches} (hsound : walk.pattern.Sound) (hrange : walk.InRange) :
    walk.Yields walk.all := by
  obtain ⟨run, hrun⟩ := exists_yields hsound hrange
  rwa [hrun.all_eq hsound hrange]

theorem start_yields {pattern : Pattern} (hsound : pattern.Sound) (haystack : Bytes) (want : Nat) :
    (start pattern haystack want).Yields (start pattern haystack want).all :=
  yields_all hsound (start_inRange pattern haystack want)

/-- A bound on the number of matches keeps the first of them. -/
theorem Yields.value_take {walk : Matches} {run : Traced (List Captures)}
    (hyields : walk.Yields run) (n : Nat) : (walk.take n).value = run.value.take n := by
  induction hyields generalizing n with
  | ended walk hnone =>
      cases n with
      | zero => rfl
      | succ n => rw [take_succ, hnone, List.take_nil]
  | matched walk caps run hsome hrest ih =>
      cases n with
      | zero => rfl
      | succ n => rw [take_succ, hsome, List.take_succ_cons, ← ih]

/-- The spans of a walk ascend from where it stands. -/
theorem Yields.ascending {walk : Matches} {run : Traced (List Captures)}
    (hyields : walk.Yields run) (hsound : walk.pattern.Sound) (hrange : walk.InRange) :
    Span.Ascending walk.haystack.length walk.pos (run.value.map Captures.range) := by
  induction hyields with
  | ended walk hnone => exact .nil _
  | matched walk caps run hsome hrest ih =>
      obtain ⟨span, hspan, hstart, hwithin, _⟩ := next_bounds hsound hrange hsome
      obtain ⟨compiled, found, _, _, _, _, hnext⟩ := exists_of_next_eq_some hrange hsome
      have htail := ih ((next_pattern hrange).symm ▸ hsound) (next_inRange hrange)
      have hcaps := Captures.range_eq_of_group hspan
      rw [hnext] at htail
      rw [List.map_cons]
      exact .cons (hcaps ▸ hstart) (hcaps ▸ hwithin) htail

/-- Every match of a walk has a whole match. -/
theorem Yields.group_zero {walk : Matches} {run : Traced (List Captures)}
    (hyields : walk.Yields run) (hsound : walk.pattern.Sound) (hrange : walk.InRange) :
    ∀ caps ∈ run.value, caps.group 0 = some caps.range := by
  induction hyields with
  | ended walk hnone => simp
  | matched walk first run hsome hrest ih =>
      intro caps hmem
      rcases List.mem_cons.mp hmem with rfl | hmem
      · obtain ⟨span, hspan, _⟩ := next_bounds hsound hrange hsome
        rw [Captures.range_eq_of_group hspan, hspan]
      · exact ih ((next_pattern hrange).symm ▸ hsound) (next_inRange hrange) caps hmem

/-- The spans of the first matches of a haystack ascend. -/
theorem start_take_ascending {pattern : Pattern} (hsound : pattern.Sound) (haystack : Bytes)
    (want n : Nat) :
    Span.Ascending haystack.length 0
      (((start pattern haystack want).take n).value.map Captures.range) := by
  have hrange := start_inRange pattern haystack want
  obtain ⟨run, hyields⟩ := exists_yields (by exact hsound) hrange
  rw [hyields.value_take]
  apply (hyields.ascending hsound hrange).of_initial
  rw [List.map_take]
  exact List.take_prefix n _

theorem start_take_group_zero {pattern : Pattern} (hsound : pattern.Sound) {haystack : Bytes}
    {want n : Nat} {caps : Captures}
    (hmem : caps ∈ ((start pattern haystack want).take n).value) :
    caps.group 0 = some caps.range := by
  have hrange := start_inRange pattern haystack want
  obtain ⟨run, hyields⟩ := exists_yields (by exact hsound) hrange
  rw [hyields.value_take] at hmem
  exact hyields.group_zero hsound hrange caps (List.mem_of_mem_take hmem)

/-- The text of the whole match is a slice in bounds. -/
theorem start_take_text {pattern : Pattern} (hsound : pattern.Sound) {haystack : Bytes}
    {want n : Nat} {caps : Captures}
    (hmem : caps ∈ ((start pattern haystack want).take n).value) :
    caps.text? haystack 0 = some (haystack.slice caps.range) := by
  have hwithin := (start_take_ascending hsound haystack want n).within _
    (List.mem_map_of_mem hmem)
  rw [Captures.text?, start_take_group_zero hsound hmem]
  exact Bytes.text?_of_within hwithin

/-- What a call of `next` gives after `n` calls before it. -/
def call (walk : Matches) (n : Nat) : Traced (Option Captures) :=
  ((fun walk => walk.next.2)^[n] walk).next.1

theorem call_succ (walk : Matches) (n : Nat) : walk.call (n + 1) = walk.next.2.call n := by
  rw [call, Function.iterate_succ_apply, call]

theorem call_of_done {walk : Matches} (hdone : walk.done = true) (n : Nat) :
    walk.call n = ⟨none, []⟩ := by
  induction n with
  | zero => simp [call, next_of_done hdone]
  | succ n ih => rw [call_succ, next_of_done hdone, ih]

/-- The calls give the matches in turn, then nothing for ever. -/
theorem Yields.value_call {walk : Matches} {run : Traced (List Captures)}
    (hyields : walk.Yields run) (hrange : walk.InRange) (n : Nat) :
    (walk.call n).value = run.value[n]? := by
  induction hyields generalizing n with
  | ended walk hnone =>
      cases n with
      | zero => exact hnone
      | succ n => rw [call_succ, call_of_done (done_of_next_eq_none hrange hnone)]; rfl
  | matched walk caps run hsome hrest ih =>
      cases n with
      | zero => exact hsome
      | succ n => rw [call_succ, ih (next_inRange hrange), List.getElem?_cons_succ]

/-- Calls after the first that gave nothing make no search. -/
theorem Yields.searches_call {walk : Matches} {run : Traced (List Captures)}
    (hyields : walk.Yields run) (hrange : walk.InRange) {n : Nat} (hn : run.value.length < n) :
    (walk.call n).searches = [] := by
  induction hyields generalizing n with
  | ended walk hnone =>
      cases n with
      | zero => simp at hn
      | succ n => rw [call_succ, call_of_done (done_of_next_eq_none hrange hnone)]
  | matched walk caps run hsome hrest ih =>
      cases n with
      | zero => simp at hn
      | succ n => exact call_succ walk n ▸ ih (next_inRange hrange) (Nat.lt_of_succ_lt_succ hn)

end Matches

end BytePattern
