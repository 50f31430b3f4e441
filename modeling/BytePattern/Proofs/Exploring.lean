/-
A search that meets each pair of an instruction and a position once finds what it would find if it
noted nothing.  This is shown of code with a rank that every move lowers, which no way through it
can go round in without getting on.
-/
import BytePattern.Proofs.Searching
import Mathlib.Data.Finset.Prod

namespace BytePattern

namespace Visited

/-- There are bits for so many positions and instructions. -/
structure Fits (positions places : Nat) (visited : Visited) : Prop where
  width_eq : visited.width = places / wordSize + 1
  size_eq : visited.words.size = positions * visited.width

section Fits

variable {positions places : Nat} {visited : Visited}

theorem none_fits (positions places : Nat) : (none positions places).Fits positions places where
  width_eq := rfl
  size_eq := Array.size_replicate

theorem Fits.insert (hfits : visited.Fits positions places) (pos place : Nat) :
    (visited.insert pos place).Fits positions places where
  width_eq := hfits.width_eq
  size_eq := Array.size_modify.trans hfits.size_eq

theorem contains_none (positions places pos place : Nat) :
    (none positions places).contains pos place = false := by
  have hword (index : Nat) :
      (Array.replicate (positions * (places / wordSize + 1)) 0).getD index 0 = 0 := by
    rw [Array.getD_eq_getD_getElem?, Array.getElem?_replicate]
    split <;> rfl
  rw [contains, none]
  simp only [hword, Nat.zero_testBit]

theorem Fits.div_lt (hfits : visited.Fits positions places) {place : Nat}
    (hplace : place < places) :
    place / wordSize < visited.width := by
  rw [hfits.width_eq]
  exact Nat.lt_succ_of_le (Nat.div_le_div_right (Nat.le_of_lt hplace))

theorem Fits.wordOf_lt (hfits : visited.Fits positions places) {pos place : Nat}
    (hpos : pos < positions) (hplace : place < places) :
    visited.wordOf pos place < visited.words.size := by
  have hdiv := hfits.div_lt hplace
  have hrow : (pos + 1) * visited.width ≤ positions * visited.width :=
    Nat.mul_le_mul_right _ hpos
  rw [hfits.size_eq, wordOf]
  rw [Nat.add_mul, Nat.one_mul] at hrow
  omega

/-- Each pair has a bit of its own. -/
theorem Fits.wordOf_inj (hfits : visited.Fits positions places) {pos place pos' place' : Nat}
    (hplace : place < places) (hplace' : place' < places)
    (hword : visited.wordOf pos place = visited.wordOf pos' place')
    (hbit : place % wordSize = place' % wordSize) : pos = pos' ∧ place = place' := by
  have hdiv := hfits.div_lt hplace
  have hdiv' := hfits.div_lt hplace'
  have hrow : pos = pos' := by
    have hwidth : 0 < visited.width := Nat.zero_lt_of_lt hdiv
    have h := congrArg (· / visited.width) hword
    simp only [wordOf, Nat.mul_comm _ visited.width] at h
    rwa [Nat.mul_add_div hwidth, Nat.mul_add_div hwidth, Nat.div_eq_of_lt hdiv,
      Nat.div_eq_of_lt hdiv', Nat.add_zero, Nat.add_zero] at h
  subst hrow
  have hcolumn : place / wordSize = place' / wordSize := Nat.add_left_cancel hword
  refine ⟨rfl, ?_⟩
  rw [← Nat.div_add_mod place wordSize, ← Nat.div_add_mod place' wordSize, hcolumn, hbit]

/-- A pair is noted if it was noted before or is the one inserted. -/
theorem Fits.contains_insert (hfits : visited.Fits positions places) {pos place pos' place' : Nat}
    (hpos : pos < positions) (hplace : place < places) (hplace' : place' < places) :
    (visited.insert pos place).contains pos' place' = true ↔
      visited.contains pos' place' = true ∨ pos' = pos ∧ place' = place := by
  have hwordOf : (visited.insert pos place).wordOf pos' place' = visited.wordOf pos' place' := rfl
  have hwords : (visited.insert pos place).words =
      visited.words.modify (visited.wordOf pos place) (· ||| 1 <<< (place % wordSize)) := rfl
  have hlt := hfits.wordOf_lt hpos hplace
  simp only [contains, hwordOf, hwords, Array.getD_eq_getD_getElem?, Array.getElem?_modify]
  by_cases hword : visited.wordOf pos place = visited.wordOf pos' place'
  · have hbit : place % wordSize = place' % wordSize ↔ pos' = pos ∧ place' = place := by
      constructor
      · intro hbit
        obtain ⟨rfl, rfl⟩ := hfits.wordOf_inj hplace hplace' hword hbit
        exact ⟨rfl, rfl⟩
      · rintro ⟨_, rfl⟩
        rfl
    rw [if_pos hword, ← hword, Array.getElem?_eq_getElem hlt, Option.map_some, Option.getD_some,
      Option.getD_some, Nat.testBit_or, Nat.one_shiftLeft, Nat.testBit_two_pow, Bool.or_eq_true,
      decide_eq_true_iff, hbit]
  · rw [if_neg hword]
    constructor
    · exact Or.inl
    · rintro (hbit | ⟨rfl, rfl⟩)
      · exact hbit
      · exact absurd rfl hword

/-- The pairs that are not noted yet. -/
def unmet (positions places : Nat) (visited : Visited) : Finset (Nat × Nat) :=
  (Finset.range positions ×ˢ Finset.range places).filter fun spot =>
    visited.contains spot.1 spot.2 = false

theorem mem_unmet {pos place : Nat} : (pos, place) ∈ visited.unmet positions places ↔
    (pos < positions ∧ place < places) ∧ visited.contains pos place = false := by
  rw [unmet, Finset.mem_filter, Finset.mem_product, Finset.mem_range, Finset.mem_range]

theorem card_unmet_none (positions places : Nat) :
    ((none positions places).unmet positions places).card = positions * places := by
  rw [unmet, Finset.filter_true_of_mem (fun spot _ => contains_none positions places _ _),
    Finset.card_product, Finset.card_range, Finset.card_range]

/-- Noting a pair leaves fewer. -/
theorem Fits.card_unmet_insert (hfits : visited.Fits positions places) {pos place : Nat}
    (hpos : pos < positions) (hplace : place < places)
    (hunmet : visited.contains pos place = false) :
    ((visited.insert pos place).unmet positions places).card <
      (visited.unmet positions places).card := by
  apply Finset.card_lt_card
  refine Finset.ssubset_iff_of_subset ?_ |>.mpr ⟨(pos, place), ?_, ?_⟩
  · rintro ⟨pos', place'⟩ hmem
    obtain ⟨hspot, hnot⟩ := mem_unmet.mp hmem
    refine mem_unmet.mpr ⟨hspot, ?_⟩
    rw [Bool.eq_false_iff] at hnot ⊢
    exact fun hmet => hnot ((hfits.contains_insert hpos hplace hspot.2).mpr (Or.inl hmet))
  · exact mem_unmet.mpr ⟨⟨hpos, hplace⟩, hunmet⟩
  · intro hmem
    have hnot := (mem_unmet.mp hmem).2
    rw [Bool.eq_false_iff] at hnot
    exact hnot ((hfits.contains_insert hpos hplace hplace).mpr (Or.inr ⟨rfl, rfl⟩))

end Fits

end Visited

/-- Threads before the same instruction at the same position. -/
def Thread.SameSpot (thread thread' : Thread) : Prop :=
  thread.place = thread'.place ∧ thread.pos = thread'.pos

theorem findSome?_congr {α β : Type} {f g : α → Option β} {items : List α}
    (hsame : ∀ item ∈ items, f item = g item) : items.findSome? f = items.findSome? g := by
  induction items with
  | nil => rfl
  | cons item rest ih =>
      obtain ⟨hitem, hrest⟩ := List.forall_mem_cons.mp hsame
      rw [List.findSome?_cons, List.findSome?_cons, hitem, ih hrest]

namespace Move

/-- The threads that a move goes on with, in order. -/
def threads : Move → List Thread
  | .go next => [next]
  | .split first second => [first, second]
  | .stop | .accept _ => []

/-- What a move reports, or what comes of the first of its threads of which something comes. -/
def outcome (resultOf : Thread → Option (List (Option Nat))) : Move → Option (List (Option Nat))
  | .accept slots => some slots
  | move => move.threads.findSome? resultOf

/-- Two moves of one kind, to the same spots. -/
inductive Alike : Move → Move → Prop where
  | stop : Alike .stop .stop
  | go {next next' : Thread} (hnext : next.SameSpot next') : Alike (.go next) (.go next')
  | split {first first' second second' : Thread} (hfirst : first.SameSpot first')
      (hsecond : second.SameSpot second') : Alike (.split first second) (.split first' second')
  | accept (slots slots' : List (Option Nat)) : Alike (.accept slots) (.accept slots')

theorem outcome_congr {move : Move} {f g : Thread → Option (List (Option Nat))}
    (hsame : ∀ next ∈ move.threads, f next = g next) : move.outcome f = move.outcome g := by
  cases move with
  | accept slots => rfl
  | stop | go | split => exact findSome?_congr hsame

theorem outcome_split (resultOf : Thread → Option (List (Option Nat))) (first second : Thread) :
    (Move.split first second).outcome resultOf = (resultOf first).or (resultOf second) := by
  simp only [outcome, threads, List.findSome?_cons, List.findSome?_nil]
  cases resultOf first <;> cases resultOf second <;> rfl

theorem Alike.isSome_outcome {move move' : Move} (halike : move.Alike move')
    {resultOf : Thread → Option (List (Option Nat))}
    (hspot : ∀ thread thread', thread.SameSpot thread' →
      (resultOf thread).isSome = (resultOf thread').isSome) :
    (move.outcome resultOf).isSome = (move'.outcome resultOf).isSome := by
  cases halike with
  | stop | accept => rfl
  | go hnext => simpa [outcome, threads] using hspot _ _ hnext
  | split hfirst hsecond =>
      rw [outcome_split, outcome_split, Option.isSome_or, Option.isSome_or, hspot _ _ hfirst,
        hspot _ _ hsecond]

end Move

/-- Where a thread goes depends on its spot alone. -/
theorem Thread.SameSpot.step {thread thread' : Thread} (hspot : thread.SameSpot thread')
    (subject : Array UInt8) (inst : Inst) :
    (thread.step subject inst).Alike (thread'.step subject inst) := by
  obtain ⟨hplace, hpos⟩ := hspot
  have htake (count : Nat) : (thread.take count).SameSpot (thread'.take count) :=
    ⟨congrArg (· + 1) hplace, congrArg (· + count) hpos⟩
  have hgoTo (distance : Int) : (thread.goTo distance).SameSpot (thread'.goTo distance) :=
    ⟨congrArg (fun place : Nat => (place + distance).toNat) hplace, hpos⟩
  have hmark (slot : Nat) : (thread.mark slot).SameSpot (thread'.mark slot) :=
    ⟨congrArg (· + 1) hplace, hpos⟩
  cases inst with
  | byte byte =>
      rw [Thread.step, Thread.step, hpos]
      split
      · exact .go (htake 1)
      · exact .stop
  | charClass charClass =>
      rw [Thread.step, Thread.step, hpos]
      split
      · exact .go (htake _)
      · exact .stop
  | look look =>
      rw [Thread.step, Thread.step, hpos]
      split
      · exact .go (htake 0)
      · exact .stop
  | fork first second => exact .split (hgoTo first) (hgoTo second)
  | jump distance => exact .go (hgoTo distance)
  | enter group => exact .go (hmark _)
  | leave group => exact .go (hmark _)
  | accept => exact .accept _ _

namespace Code

/-- What comes of a thread in so many steps if nothing is noted. -/
def attempt (code : Array Inst) (subject : Array UInt8) :
    Nat → Thread → Option (List (Option Nat))
  | 0, _ => none
  | steps + 1, thread =>
    (code[thread.place]?).bind fun inst =>
      (thread.step subject inst).outcome (attempt code subject steps)

/-- Whether something comes of a thread depends on its spot alone. -/
theorem isSome_attempt (code : Array Inst) (subject : Array UInt8) (steps : Nat)
    {thread thread' : Thread} (hspot : thread.SameSpot thread') :
    (attempt code subject steps thread).isSome = (attempt code subject steps thread').isSome := by
  induction steps generalizing thread thread' with
  | zero => rfl
  | succ steps ih =>
      rw [attempt, attempt, hspot.1]
      cases code[thread'.place]? with
      | none => rfl
      | some inst => exact (hspot.step subject inst).isSome_outcome fun _ _ => ih

/-- Threads stay in the code and in the subject, and every move lowers their rank. -/
def Ranked (code : Array Inst) (subject : Array UInt8) (rank : Nat → Nat → Nat) : Prop :=
  ∀ (thread : Thread) (inst : Inst), thread.pos ≤ subject.size →
    code[thread.place]? = some inst → ∀ next ∈ (thread.step subject inst).threads,
      next.place < code.size ∧ next.pos ≤ subject.size ∧
        rank next.place next.pos < rank thread.place thread.pos

/-- What comes of a thread if nothing is noted. -/
def resultOf (code : Array Inst) (subject : Array UInt8) (rank : Nat → Nat → Nat)
    (thread : Thread) : Option (List (Option Nat)) :=
  attempt code subject (rank thread.place thread.pos + 1) thread

section Ranked

variable {code : Array Inst} {subject : Array UInt8} {rank : Nat → Nat → Nat} {thread : Thread}

theorem isSome_resultOf {thread' : Thread} (hspot : thread.SameSpot thread') :
    (resultOf code subject rank thread).isSome = (resultOf code subject rank thread').isSome := by
  rw [resultOf, resultOf, hspot.1, hspot.2]
  exact isSome_attempt code subject _ hspot

/-- A thread makes no more steps than its rank. -/
theorem Ranked.attempt_eq (hranked : Ranked code subject rank) (hpos : thread.pos ≤ subject.size)
    {steps steps' : Nat} (hsteps : rank thread.place thread.pos < steps)
    (hsteps' : rank thread.place thread.pos < steps') :
    attempt code subject steps thread = attempt code subject steps' thread := by
  induction steps generalizing steps' thread with
  | zero => contradiction
  | succ steps ih =>
      cases steps' with
      | zero => contradiction
      | succ steps' =>
          rw [attempt, attempt]
          cases hinst : code[thread.place]? with
          | none => rfl
          | some inst =>
              apply Move.outcome_congr
              intro next hnext
              obtain ⟨_, hinside, hlower⟩ := hranked thread inst hpos hinst next hnext
              exact ih hinside (by omega) (by omega)

/-- What comes of a thread is what comes of its move. -/
theorem Ranked.resultOf_eq (hranked : Ranked code subject rank) (hpos : thread.pos ≤ subject.size)
    {inst : Inst} (hinst : code[thread.place]? = some inst) :
    resultOf code subject rank thread =
      (thread.step subject inst).outcome (resultOf code subject rank) := by
  rw [resultOf, attempt, hinst, Option.bind_some]
  apply Move.outcome_congr
  intro next hnext
  obtain ⟨_, hinside, hlower⟩ := hranked thread inst hpos hinst next hnext
  exact hranked.attempt_eq hinside hlower (Nat.lt_succ_self _)

section Instructions

variable (hranked : Ranked code subject rank) (hpos : thread.pos ≤ subject.size)
include hranked hpos

theorem Ranked.resultOf_byte {byte : UInt8} (hinst : code[thread.place]? = some (.byte byte)) :
    resultOf code subject rank thread =
      if subject[thread.pos]? = some byte then resultOf code subject rank (thread.take 1)
      else none := by
  rw [hranked.resultOf_eq hpos hinst, Thread.step]
  split
  · exact List.findSome?_singleton
  · rfl

theorem Ranked.resultOf_charClass {charClass : CharClass}
    (hinst : code[thread.place]? = some (.charClass charClass)) :
    resultOf code subject rank thread =
      (Thread.classLength? subject thread.pos charClass).bind fun length =>
        resultOf code subject rank (thread.take length) := by
  rw [hranked.resultOf_eq hpos hinst, Thread.step]
  cases Thread.classLength? subject thread.pos charClass with
  | none => rfl
  | some length => exact List.findSome?_singleton

theorem Ranked.resultOf_look {look : Look} (hinst : code[thread.place]? = some (.look look)) :
    resultOf code subject rank thread =
      if look.holds subject thread.pos then resultOf code subject rank (thread.take 0)
      else none := by
  rw [hranked.resultOf_eq hpos hinst, Thread.step]
  split
  · exact List.findSome?_singleton
  · rfl

theorem Ranked.resultOf_enter {group : Nat}
    (hinst : code[thread.place]? = some (.enter group)) :
    resultOf code subject rank thread =
      resultOf code subject rank (thread.mark (2 * group)) := by
  rw [hranked.resultOf_eq hpos hinst, Thread.step]
  exact List.findSome?_singleton

theorem Ranked.resultOf_leave {group : Nat}
    (hinst : code[thread.place]? = some (.leave group)) :
    resultOf code subject rank thread =
      resultOf code subject rank (thread.mark (2 * group + 1)) := by
  rw [hranked.resultOf_eq hpos hinst, Thread.step]
  exact List.findSome?_singleton

theorem Ranked.resultOf_fork {first second : Int}
    (hinst : code[thread.place]? = some (.fork first second)) :
    resultOf code subject rank thread =
      (resultOf code subject rank (thread.goTo first)).or
        (resultOf code subject rank (thread.goTo second)) := by
  rw [hranked.resultOf_eq hpos hinst, Thread.step, Move.outcome_split]

theorem Ranked.resultOf_jump {distance : Int}
    (hinst : code[thread.place]? = some (.jump distance)) :
    resultOf code subject rank thread = resultOf code subject rank (thread.goTo distance) := by
  rw [hranked.resultOf_eq hpos hinst, Thread.step]
  exact List.findSome?_singleton

theorem Ranked.resultOf_accept (hinst : code[thread.place]? = some .accept) :
    resultOf code subject rank thread = some thread.result := by
  rw [hranked.resultOf_eq hpos hinst]
  rfl

end Instructions

section Text

variable {text rest : Bytes} {byte : UInt8}

/-- What is left of a text at a position inside. -/
theorem drop_cons {pos : Nat} (hdrop : text.drop pos = byte :: rest) :
    pos + 1 ≤ text.length ∧ text.drop (pos + 1) = rest := by
  have hlength := congrArg List.length hdrop
  rw [List.length_drop, List.length_cons] at hlength
  have htail := congrArg List.tail hdrop
  rw [List.tail_drop] at htail
  exact ⟨by omega, htail⟩

variable (hranked : Ranked code text.toArray rank)
include hranked

theorem Ranked.resultOf_bytes {set : IntervalSet}
    (hinst : code[thread.place]? = some (.charClass (.bytes set)))
    (hpos : thread.pos ≤ text.length) :
    resultOf code text.toArray rank thread =
      if (text.drop thread.pos).head?.any (fun byte => set.contains byte.toNat) then
        resultOf code text.toArray rank (thread.take 1)
      else none := by
  rw [hranked.resultOf_charClass hpos hinst, Thread.classLength?, List.getElem?_toArray,
    ← List.head?_drop]
  cases (text.drop thread.pos).head? with
  | none => rfl
  | some byte =>
      rw [Option.bind_some, Option.any_some]
      cases set.contains byte.toNat <;> rfl

variable (hinst : code[thread.place]? = some (.byte byte))
include hinst

theorem Ranked.resultOf_of_byte (hdrop : text.drop thread.pos = byte :: rest) :
    resultOf code text.toArray rank thread =
      resultOf code text.toArray rank (thread.take 1) := by
  have hpos := Nat.le_of_succ_le (drop_cons hdrop).1
  rw [hranked.resultOf_byte hpos hinst, List.getElem?_toArray, ← List.head?_drop, hdrop]
  exact if_pos rfl

theorem Ranked.resultOf_of_other_byte (hpos : thread.pos ≤ text.length)
    (hother : (text.drop thread.pos).head? ≠ some byte) :
    resultOf code text.toArray rank thread = none := by
  rw [hranked.resultOf_byte hpos hinst, List.getElem?_toArray, ← List.head?_drop, if_neg hother]

end Text

/-- Something comes of the threads, and none that is tried before has a rank of `bound` or more. -/
def Leads (code : Array Inst) (subject : Array UInt8) (rank : Nat → Nat → Nat) (bound : Nat) :
    List Thread → Prop
  | [] => False
  | thread :: rest =>
    rank thread.place thread.pos < bound ∧
      ((resultOf code subject rank thread).isSome = true ∨ Leads code subject rank bound rest)

theorem leads_append {bound : Nat} {nexts rest : List Thread}
    (hlower : ∀ next ∈ nexts, rank next.place next.pos < bound)
    (hleads : (nexts.findSome? (resultOf code subject rank)).isSome = true ∨
      Leads code subject rank bound rest) :
    Leads code subject rank bound (nexts ++ rest) := by
  induction nexts with
  | nil => simpa using hleads
  | cons next nexts ih =>
      obtain ⟨hnext, hnexts⟩ := List.forall_mem_cons.mp hlower
      refine ⟨hnext, ?_⟩
      rw [List.findSome?_cons] at hleads
      cases hresult : resultOf code subject rank next with
      | some slots => exact Or.inl rfl
      | none =>
          rw [hresult] at hleads
          exact Or.inr (ih hnexts hleads)

/-- An exploration that is under way.  Of a spot that has been met nothing comes, or its other ways
are still to be tried, before any that might lead to it again. -/
structure UnderWay (code : Array Inst) (subject : Array UInt8) (rank : Nat → Nat → Nat)
    (budget : Nat) (visited : Visited) (threads : List Thread) : Prop where
  fits : visited.Fits (subject.size + 1) code.size
  room : (visited.unmet (subject.size + 1) code.size).card ≤ budget
  inside : ∀ thread ∈ threads, thread.place < code.size ∧ thread.pos ≤ subject.size
  tried : ∀ thread : Thread, thread.place < code.size → thread.pos ≤ subject.size →
    visited.contains thread.pos thread.place = true →
    resultOf code subject rank thread = none ∨
      Leads code subject rank (rank thread.place thread.pos) threads

variable {budget : Nat} {visited : Visited} {rest : List Thread}

/-- Nothing comes of a thread at a spot that has been met, so that it may be passed over. -/
theorem UnderWay.of_met (hunder : UnderWay code subject rank budget visited (thread :: rest))
    (hmet : visited.contains thread.pos thread.place = true) :
    resultOf code subject rank thread = none ∧
      UnderWay code subject rank budget visited rest := by
  obtain ⟨⟨hplace, hpos⟩, hrest⟩ := List.forall_mem_cons.mp hunder.inside
  have hnone : resultOf code subject rank thread = none := by
    rcases hunder.tried thread hplace hpos hmet with hnone | hleads
    · exact hnone
    · exact absurd hleads.1 (Nat.lt_irrefl _)
  refine ⟨hnone, hunder.fits, hunder.room, hrest, ?_⟩
  intro other hplace' hpos' hmet'
  rcases hunder.tried other hplace' hpos' hmet' with hother | ⟨_, hsome | hleads⟩
  · exact Or.inl hother
  · rw [hnone] at hsome
    contradiction
  · exact Or.inr hleads

/-- A thread at a spot that is met for the first time gives way to those it moves to. -/
theorem UnderWay.of_unmet
    (hunder : UnderWay code subject rank (budget + 1) visited (thread :: rest))
    (hunmet : visited.contains thread.pos thread.place = false) {nexts : List Thread}
    (hnexts : ∀ next ∈ nexts, next.place < code.size ∧ next.pos ≤ subject.size ∧
      rank next.place next.pos < rank thread.place thread.pos)
    (hresult : resultOf code subject rank thread = nexts.findSome? (resultOf code subject rank)) :
    UnderWay code subject rank budget (visited.insert thread.pos thread.place) (nexts ++ rest) := by
  obtain ⟨⟨hplace, hpos⟩, hrest⟩ := List.forall_mem_cons.mp hunder.inside
  have hpositions : thread.pos < subject.size + 1 := Nat.lt_succ_of_le hpos
  constructor
  · exact hunder.fits.insert _ _
  · have hless := hunder.fits.card_unmet_insert hpositions hplace hunmet
    have hroom := hunder.room
    omega
  · refine List.forall_mem_append.mpr ⟨?_, hrest⟩
    intro next hnext
    exact ⟨(hnexts next hnext).1, (hnexts next hnext).2.1⟩
  · intro other hplace' hpos' hmet
    rcases (hunder.fits.contains_insert hpositions hplace hplace').mp hmet with hbefore | hnow
    · rcases hunder.tried other hplace' hpos' hbefore with hnone | ⟨hlower, hleads⟩
      · exact Or.inl hnone
      · refine Or.inr (leads_append ?_ ?_)
        · intro next hnext
          exact Nat.lt_trans (hnexts next hnext).2.2 hlower
        · rwa [hresult] at hleads
    · have hspot : other.SameSpot thread := ⟨hnow.2, hnow.1⟩
      cases hother : resultOf code subject rank other with
      | none => exact Or.inl rfl
      | some slots =>
          have hsome : (resultOf code subject rank thread).isSome = true := by
            rw [← isSome_resultOf hspot, hother]
            rfl
          rw [hspot.1, hspot.2]
          refine Or.inr (leads_append ?_ (Or.inl (hresult ▸ hsome)))
          intro next hnext
          exact (hnexts next hnext).2.2

/-- A move that reports nothing at once leaves its threads to be tried in its place. -/
theorem UnderWay.step (hranked : Ranked code subject rank)
    (hunder : UnderWay code subject rank (budget + 1) visited (thread :: rest))
    (hunmet : visited.contains thread.pos thread.place = false) {inst : Inst}
    (hinst : code[thread.place]? = some inst) {move : Move}
    (hmove : thread.step subject inst = move)
    (houtcome : move.outcome (resultOf code subject rank) =
      move.threads.findSome? (resultOf code subject rank)) :
    UnderWay code subject rank budget (visited.insert thread.pos thread.place)
        (move.threads ++ rest) ∧
      (thread :: rest).findSome? (resultOf code subject rank) =
        (move.threads ++ rest).findSome? (resultOf code subject rank) := by
  subst hmove
  have hpos := (hunder.inside thread List.mem_cons_self).2
  have hresult := hranked.resultOf_eq hpos hinst
  rw [houtcome] at hresult
  constructor
  · exact hunder.of_unmet hunmet (hranked thread inst hpos hinst) hresult
  · rw [List.findSome?_append, ← hresult, List.findSome?_cons]
    cases resultOf code subject rank thread <;> rfl

/-- An exploration finds what comes of the first thread of which something comes.  If it finds
nothing, nothing comes of any spot it has met. -/
theorem Ranked.explore_eq (hranked : Ranked code subject rank) (budget : Nat) (visited : Visited)
    (threads : List Thread) (hunder : UnderWay code subject rank budget visited threads) :
    (explore code subject budget visited threads).found =
        threads.findSome? (resultOf code subject rank) ∧
      ((explore code subject budget visited threads).found = none →
        UnderWay code subject rank (explore code subject budget visited threads).budget
          (explore code subject budget visited threads).visited []) := by
  induction budget, visited, threads using explore.induct code subject with
  | case1 =>
      rw [explore]
      exact ⟨rfl, fun _ => hunder⟩
  | case2 budget visited thread rest hmet ih =>
      obtain ⟨hnone, hrest⟩ := hunder.of_met hmet
      rw [explore.eq_def]
      simp only [hmet, ↓reduceIte, List.findSome?_cons, hnone]
      exact ih hrest
  | case3 visited thread rest hunmet =>
      -- There is a spot left to be met, and so the budget is not used up.
      rw [Bool.not_eq_true] at hunmet
      obtain ⟨⟨hplace, hpos⟩, _⟩ := List.forall_mem_cons.mp hunder.inside
      have hmem : (thread.pos, thread.place) ∈ visited.unmet (subject.size + 1) code.size :=
        Visited.mem_unmet.mpr ⟨⟨Nat.lt_succ_of_le hpos, hplace⟩, hunmet⟩
      have hcard := Finset.card_pos.mpr ⟨_, hmem⟩
      have hroom := hunder.room
      omega
  | case4 visited thread rest hunmet budget visited' hplace ih =>
      have hinside := (hunder.inside thread List.mem_cons_self).1
      rw [Array.getElem?_eq_getElem hinside] at hplace
      contradiction
  | case5 visited thread rest hunmet budget visited' inst hinst hmove ih =>
      obtain ⟨hnext, hresults⟩ :=
        hunder.step hranked (Bool.not_eq_true _ ▸ hunmet) hinst hmove rfl
      rw [hresults]
      simp only [explore, hunmet, hinst, hmove]
      exact ih hnext
  | case6 visited thread rest hunmet budget visited' inst hinst next hmove ih =>
      obtain ⟨hnext, hresults⟩ :=
        hunder.step hranked (Bool.not_eq_true _ ▸ hunmet) hinst hmove rfl
      rw [hresults]
      simp only [explore, hunmet, hinst, hmove]
      exact ih hnext
  | case7 visited thread rest hunmet budget visited' inst hinst first second hmove ih =>
      obtain ⟨hnext, hresults⟩ :=
        hunder.step hranked (Bool.not_eq_true _ ▸ hunmet) hinst hmove rfl
      rw [hresults]
      simp only [explore, hunmet, hinst, hmove]
      exact ih hnext
  | case8 visited thread rest hunmet budget inst hinst slots hmove =>
      have hpos := (hunder.inside thread List.mem_cons_self).2
      have hresult := hranked.resultOf_eq hpos hinst
      rw [hmove] at hresult
      simp only [explore, hunmet, hinst, hmove, List.findSome?_cons, hresult]
      refine ⟨rfl, ?_⟩
      intro hnone
      contradiction

/-- What comes of the starting positions from one on, the first of them of which something comes. -/
theorem Ranked.exploreFrom_eq (hranked : Ranked code subject rank) (hcode : 0 < code.size)
    (slotCount : Nat) {tries start budget : Nat} {visited : Visited}
    (htries : start + tries ≤ subject.size + 1)
    (hunder : UnderWay code subject rank budget visited []) :
    exploreFrom code subject slotCount tries start budget visited =
      (List.range' start tries).findSome? fun start =>
        resultOf code subject rank (.initial slotCount start) := by
  induction tries generalizing start budget visited with
  | zero => rfl
  | succ tries ih =>
      have hfirst : UnderWay code subject rank budget visited [.initial slotCount start] := by
        refine ⟨hunder.fits, hunder.room, ?_, ?_⟩
        · have hstart : start ≤ subject.size := by omega
          exact List.forall_mem_singleton.mpr ⟨hcode, hstart⟩
        · intro thread hplace hpos hmet
          exact (hunder.tried thread hplace hpos hmet).imp_right False.elim
      obtain ⟨hfound, hafter⟩ := hranked.explore_eq budget visited _ hfirst
      rw [exploreFrom, List.range'_succ, List.findSome?_cons]
      rw [List.findSome?_singleton] at hfound
      rw [← hfound]
      cases hresult : (explore code subject budget visited [.initial slotCount start]).found with
      | some slots => rfl
      | none => exact ih (by omega) (hafter hresult)

/-- A search finds what comes of the first starting position of which something comes. -/
theorem search_eq {text : Bytes} (hranked : Ranked code text.toArray rank)
    (hcode : 0 < code.size) (slotCount : Nat) :
    search code slotCount text =
      (List.range (text.length + 1)).findSome? fun start =>
        resultOf code text.toArray rank (.initial slotCount start) := by
  have hunder : UnderWay code text.toArray rank (code.size * (text.toArray.size + 1))
      (.none (text.toArray.size + 1) code.size) [] := by
    refine ⟨Visited.none_fits _ _, ?_, by simp, ?_⟩
    · rw [Visited.card_unmet_none, Nat.mul_comm]
    · intro thread _ _ hmet
      rw [Visited.contains_none] at hmet
      contradiction
  rw [search, hranked.exploreFrom_eq hcode slotCount (by omega) hunder, List.range_eq_range']
  rfl

end Ranked

end Code

theorem Utf8.pos_of_decode {subject : Array UInt8} {pos limit codePoint length : Nat}
    (hdecode : decode subject pos limit = some (codePoint, length)) : 0 < length := by
  unfold decode at hdecode
  obtain ⟨first, _, hdecode⟩ := Option.bind_eq_some_iff.mp hdecode
  obtain ⟨length', hlength, hdecode⟩ := Option.bind_eq_some_iff.mp hdecode
  dsimp only at hdecode
  split at hdecode
  · next hcount =>
    obtain ⟨codePoint', _, hpair⟩ := Option.bind_eq_some_iff.mp hdecode
    obtain ⟨_, rfl⟩ := Prod.mk.inj (Option.some.inj hpair)
    exact hcount ▸ Nat.succ_pos _
  · contradiction

theorem Thread.classLength?_pos {subject : Array UInt8} {charClass : CharClass} {pos length : Nat}
    (hlength : classLength? subject pos charClass = some length) : 0 < length := by
  cases charClass with
  | bytes set =>
      obtain ⟨byte, _, hmember⟩ := Option.bind_eq_some_iff.mp hlength
      obtain ⟨_, hone⟩ := Option.ite_none_right_eq_some.mp hmember
      exact Option.some.inj hone ▸ Nat.one_pos
  | chars set =>
      obtain ⟨⟨codePoint, length'⟩, hdecode, hmember⟩ := Option.bind_eq_some_iff.mp hlength
      obtain ⟨_, heq⟩ := Option.ite_none_right_eq_some.mp hmember
      exact Option.some.inj heq ▸ Utf8.pos_of_decode hdecode

/-- Whether a jump goes to a lower place of the code. -/
def Inst.lowers (heights : Nat → Nat) (length place : Nat) (distance : Int) : Bool :=
  let target := (place + distance).toNat
  target < length && heights target < heights place

/-- Whether an instruction goes on in the code, and to a lower place if it takes nothing. -/
def Inst.descends (heights : Nat → Nat) (length place : Nat) : Inst → Bool
  | .byte _ | .charClass _ => place + 1 < length
  | .look _ | .enter _ | .leave _ => lowers heights length place 1
  | .fork first second => lowers heights length place first && lowers heights length place second
  | .jump distance => lowers heights length place distance
  | .accept => true

/-- Code is ranked by how much of the subject is left, and then by the heights of its places. -/
theorem Code.ranked_of_descends {code : Array Inst} {heights : Nat → Nat} {limit : Nat}
    (hheights : ∀ place, heights place ≤ limit)
    (hdescends : ∀ (place : Nat) (inst : Inst), code[place]? = some inst →
      inst.descends heights code.size place = true) (subject : Array UInt8) :
    Ranked code subject fun place pos => (subject.size - pos) * (limit + 1) + heights place := by
  intro thread inst hpos hinst
  have hdescend := hdescends thread.place inst hinst
  -- A byte that is taken counts for more than any height.
  have htaken (count : Nat) (hcount : 0 < count) (hroom : thread.pos + count ≤ subject.size) :
      (subject.size - (thread.pos + count)) * (limit + 1) + heights (thread.place + 1) <
        (subject.size - thread.pos) * (limit + 1) + heights thread.place := by
    have hless : subject.size - (thread.pos + count) + 1 ≤ subject.size - thread.pos := by omega
    have hrow := Nat.mul_le_mul_right (limit + 1) hless
    have hheight := hheights (thread.place + 1)
    rw [Nat.add_mul, Nat.one_mul] at hrow
    omega
  have hlower (distance : Int)
      (hlowers : Inst.lowers heights code.size thread.place distance = true) :
      (thread.place + distance).toNat < code.size ∧
        heights (thread.place + distance).toNat < heights thread.place := by
    simpa [Inst.lowers] using hlowers
  cases inst with
  | byte byte =>
      simp only [Inst.descends, decide_eq_true_eq] at hdescend
      rw [Thread.step]
      split
      · next hbyte =>
        have hroom := (Array.getElem?_eq_some_iff.mp hbyte).1
        exact List.forall_mem_singleton.mpr ⟨hdescend, hroom, htaken 1 Nat.one_pos hroom⟩
      · exact List.forall_mem_nil _
  | charClass charClass =>
      simp only [Inst.descends, decide_eq_true_eq] at hdescend
      rw [Thread.step]
      split
      · next length hlength =>
        have hroom := Thread.classLength?_le hlength
        have hcount := Thread.classLength?_pos hlength
        exact List.forall_mem_singleton.mpr ⟨hdescend, hroom, htaken length hcount hroom⟩
      · exact List.forall_mem_nil _
  | look look =>
      obtain ⟨hplace, hheight⟩ := hlower 1 hdescend
      rw [Thread.step]
      split
      · exact List.forall_mem_singleton.mpr ⟨hplace, hpos, Nat.add_lt_add_left hheight _⟩
      · exact List.forall_mem_nil _
  | fork first second =>
      simp only [Inst.descends, Bool.and_eq_true] at hdescend
      obtain ⟨hplace, hheight⟩ := hlower first hdescend.1
      obtain ⟨hplace', hheight'⟩ := hlower second hdescend.2
      refine List.forall_mem_cons.mpr ⟨⟨hplace, hpos, Nat.add_lt_add_left hheight _⟩, ?_⟩
      exact List.forall_mem_singleton.mpr ⟨hplace', hpos, Nat.add_lt_add_left hheight' _⟩
  | jump distance =>
      obtain ⟨hplace, hheight⟩ := hlower distance hdescend
      exact List.forall_mem_singleton.mpr ⟨hplace, hpos, Nat.add_lt_add_left hheight _⟩
  | enter group | leave group =>
      obtain ⟨hplace, hheight⟩ := hlower 1 hdescend
      exact List.forall_mem_singleton.mpr ⟨hplace, hpos, Nat.add_lt_add_left hheight _⟩
  | accept => exact List.forall_mem_nil _

namespace Code

/-- The heights of the first places, with no height behind them. -/
def heightIn (heights : List Nat) (place : Nat) : Nat :=
  heights.getD place 0

theorem heightIn_le {heights : List Nat} {limit : Nat} (hheights : heights.all (· ≤ limit) = true)
    (place : Nat) : heightIn heights place ≤ limit := by
  rw [heightIn, List.getD_eq_getElem?_getD]
  cases hplace : heights[place]? with
  | none => exact Nat.zero_le limit
  | some height =>
      exact of_decide_eq_true (List.all_eq_true.mp hheights height (List.mem_of_getElem? hplace))

/-- The rank of a place and a position, where heights up to a limit are listed. -/
def listedRank (heights : List Nat) (limit : Nat) (text : Bytes) (place pos : Nat) : Nat :=
  (text.toArray.size - pos) * (limit + 1) + heightIn heights place

/-- Code is ranked if a list of heights passes each of its instructions. -/
theorem ranked_of_heights {code : Array Inst} {heights : List Nat} {limit : Nat}
    (hheights : heights.all (· ≤ limit) = true)
    (hdescends : (List.range code.size).all (fun place =>
      (code[place]?).all (·.descends (heightIn heights) code.size place)) = true) (text : Bytes) :
    Ranked code text.toArray (listedRank heights limit text) := by
  refine ranked_of_descends (heightIn_le hheights) ?_ text.toArray
  intro place inst hinst
  have hplace := List.mem_range.mpr (Array.getElem?_eq_some_iff.mp hinst).1
  have hpasses := List.all_eq_true.mp hdescends place hplace
  rw [hinst] at hpasses
  exact hpasses

end Code

end BytePattern
