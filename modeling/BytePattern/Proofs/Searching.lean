/-
The default engine reports, with every match, where in the subject it lies and where its groups lie
in it.  Every way that a search explores begins and stays inside, and the slots it carries are those
of groups it has been through.  How many slots it carries changes nothing else.
-/
import BytePattern.Proofs.Nesting
import BytePattern.Proofs.Soundness
import BytePattern.Regex.Engine

namespace BytePattern

theorem Utf8.add_le_of_decode {subject : Array UInt8} {pos limit codePoint length : Nat}
    (hdecode : decode subject pos limit = some (codePoint, length)) :
    pos + length ≤ subject.size := by
  unfold decode at hdecode
  obtain ⟨first, hfirst, hdecode⟩ := Option.bind_eq_some_iff.mp hdecode
  obtain ⟨length', _, hdecode⟩ := Option.bind_eq_some_iff.mp hdecode
  have hpos := (Array.getElem?_eq_some_iff.mp hfirst).1
  dsimp only at hdecode
  split at hdecode
  · next hlength =>
    obtain ⟨codePoint', _, hpair⟩ := Option.bind_eq_some_iff.mp hdecode
    obtain ⟨_, rfl⟩ := Prod.mk.inj (Option.some.inj hpair)
    rw [Array.length_toList, Array.size_extract] at hlength
    omega
  · contradiction

section Exploring

variable {code : Array Inst} {subject : Array UInt8}

/-- What a move leads to has one property, and what it reports another. -/
def Move.Keeps (holds : Thread → Prop) (accepted : List (Option Nat) → Prop) : Move → Prop
  | .stop => True
  | .go next => holds next
  | .split first second => holds first ∧ holds second
  | .accept slots => accepted slots

/-- What every instruction keeps is kept by an exploration. -/
theorem explore_keeps {holds : Thread → Prop} {accepted : List (Option Nat) → Prop}
    (hstep : ∀ thread inst, holds thread → code[thread.place]? = some inst →
      (thread.step subject inst).Keeps holds accepted)
    (budget : Nat) (visited : Visited) (threads : List Thread)
    (hthreads : ∀ thread ∈ threads, holds thread) {slots : List (Option Nat)}
    (hfound : (explore code subject budget visited threads).found = some slots) :
    accepted slots := by
  induction budget, visited, threads using explore.induct code subject with
  | case1 => simp [explore] at hfound
  | case2 budget visited thread rest hmet ih =>
      rw [explore.eq_def] at hfound
      simp only [hmet, ↓reduceIte] at hfound
      exact ih (List.forall_mem_cons.mp hthreads).2 hfound
  | case3 visited thread rest hmet => simp [explore, hmet] at hfound
  | case4 visited thread rest hmet budget visited' hplace ih =>
      simp only [explore, hmet, hplace] at hfound
      exact ih (List.forall_mem_cons.mp hthreads).2 hfound
  | case5 visited thread rest hmet budget visited' inst hplace hmove ih =>
      simp only [explore, hmet, hplace, hmove] at hfound
      exact ih (List.forall_mem_cons.mp hthreads).2 hfound
  | case6 visited thread rest hmet budget visited' inst hplace next hmove ih =>
      simp only [explore, hmet, hplace, hmove] at hfound
      obtain ⟨hthread, hrest⟩ := List.forall_mem_cons.mp hthreads
      have hnext := hstep thread inst hthread hplace
      rw [hmove] at hnext
      exact ih (List.forall_mem_cons.mpr ⟨hnext, hrest⟩) hfound
  | case7 visited thread rest hmet budget visited' inst hplace first second hmove ih =>
      simp only [explore, hmet, hplace, hmove] at hfound
      obtain ⟨hthread, hrest⟩ := List.forall_mem_cons.mp hthreads
      have hnext := hstep thread inst hthread hplace
      rw [hmove] at hnext
      exact ih (List.forall_mem_cons.mpr ⟨hnext.1, List.forall_mem_cons.mpr ⟨hnext.2, hrest⟩⟩)
        hfound
  | case8 visited thread rest hmet budget inst hplace reported hmove =>
      simp only [explore, hmet, hplace, hmove] at hfound
      have hthread := (List.forall_mem_cons.mp hthreads).1
      have hnext := hstep thread inst hthread hplace
      rw [hmove] at hnext
      exact Option.some.inj hfound ▸ hnext

/-- So is it from one starting position after the other. -/
theorem exploreFrom_keeps {holds : Thread → Prop} {accepted : List (Option Nat) → Prop}
    {slotCount : Nat}
    (hinitial : ∀ start ≤ subject.size, holds (.initial slotCount start))
    (hstep : ∀ thread inst, holds thread → code[thread.place]? = some inst →
      (thread.step subject inst).Keeps holds accepted)
    {tries start budget : Nat} {visited : Visited} (htries : start + tries ≤ subject.size + 1)
    {slots : List (Option Nat)}
    (hfound : exploreFrom code subject slotCount tries start budget visited = some slots) :
    accepted slots := by
  induction tries generalizing start budget visited with
  | zero => contradiction
  | succ tries ih =>
      have hfirst : ∀ thread ∈ [Thread.initial slotCount start], holds thread :=
        List.forall_mem_singleton.mpr (hinitial start (by omega))
      rw [exploreFrom] at hfound
      split at hfound
      · next found hexplore =>
        obtain rfl := Option.some.inj hfound
        exact explore_keeps hstep budget visited _ hfirst hexplore
      · exact ih (by omega) hfound

end Exploring

section Narrowing

variable {code : Array Inst} {subject : Array UInt8}

/-- The thread with fewer slots. -/
def Thread.narrow (count : Nat) (thread : Thread) : Thread :=
  { thread with slots := thread.slots.take count }

/-- The move of a thread with fewer slots. -/
def Move.narrow (count : Nat) : Move → Move
  | .stop => .stop
  | .go next => .go (next.narrow count)
  | .split first second => .split (first.narrow count) (second.narrow count)
  | .accept slots => .accept (slots.take count)

theorem Thread.initial_narrow {count slotCount : Nat} (hcount : count ≤ slotCount) (start : Nat) :
    (initial slotCount start).narrow count = initial count start := by
  rw [narrow, initial, List.take_replicate, Nat.min_eq_left hcount]
  rfl

theorem Thread.mark_narrow (count : Nat) (thread : Thread) (slot : Nat) :
    (thread.narrow count).mark slot = (thread.mark slot).narrow count := by
  simp only [narrow, mark, List.take_set]

theorem Thread.result_narrow (count : Nat) (thread : Thread) :
    (thread.narrow count).result = thread.result.take count := by
  simp only [narrow, result, List.take_set]

/-- An instruction acts alike however many slots there are. -/
theorem Thread.step_narrow (count : Nat) (thread : Thread) (inst : Inst) :
    (thread.narrow count).step subject inst = (thread.step subject inst).narrow count := by
  have hpos : (thread.narrow count).pos = thread.pos := rfl
  cases inst with
  | byte byte =>
      rw [step, step, hpos]
      split <;> rfl
  | charClass charClass =>
      rw [step, step, hpos]
      split <;> rfl
  | look look =>
      rw [step, step, hpos]
      split <;> rfl
  | fork first second => rfl
  | jump distance => rfl
  | enter group => simp only [step, mark_narrow, Move.narrow]
  | leave group => simp only [step, mark_narrow, Move.narrow]
  | accept => simp only [step, result_narrow, Move.narrow]

/-- The exploration that carries fewer slots. -/
def Exploration.narrow (count : Nat) (exploration : Exploration) : Exploration :=
  { exploration with found := exploration.found.map (·.take count) }

/-- An exploration goes on alike however many slots there are. -/
theorem explore_narrow (code : Array Inst) (subject : Array UInt8) (count budget : Nat)
    (visited : Visited) (threads : List Thread) :
    explore code subject budget visited (threads.map (·.narrow count)) =
      (explore code subject budget visited threads).narrow count := by
  have hplace (thread : Thread) : (thread.narrow count).place = thread.place := rfl
  have hpos (thread : Thread) : (thread.narrow count).pos = thread.pos := rfl
  induction budget, visited, threads using explore.induct code subject with
  | case1 => simp [explore, Exploration.narrow]
  | case2 budget visited thread rest hmet ih =>
      rw [List.map_cons, explore.eq_def, explore.eq_def _ _ _ _ (thread :: rest)]
      simp only [hplace, hpos, hmet, ↓reduceIte]
      exact ih
  | case3 visited thread rest hmet =>
      simp [explore, hplace, hpos, hmet, Exploration.narrow]
  | case4 visited thread rest hmet budget visited' hinst ih =>
      simp only [List.map_cons, explore, hplace, hpos, hmet, hinst]
      exact ih
  | case5 visited thread rest hmet budget visited' inst hinst hmove ih =>
      simp only [List.map_cons, explore, hplace, hpos, hmet, hinst, Thread.step_narrow, hmove,
        Move.narrow]
      exact ih
  | case6 visited thread rest hmet budget visited' inst hinst next hmove ih =>
      simp only [List.map_cons, explore, hplace, hpos, hmet, hinst, Thread.step_narrow, hmove,
        Move.narrow]
      exact ih
  | case7 visited thread rest hmet budget visited' inst hinst first second hmove ih =>
      simp only [List.map_cons, explore, hplace, hpos, hmet, hinst, Thread.step_narrow, hmove,
        Move.narrow]
      exact ih
  | case8 visited thread rest hmet budget inst hinst reported hmove =>
      simp [explore, hplace, hpos, hmet, hinst, Thread.step_narrow, hmove, Move.narrow,
        Exploration.narrow]

theorem exploreFrom_narrow {count slotCount : Nat} (hcount : count ≤ slotCount)
    (tries start budget : Nat) (visited : Visited) :
    exploreFrom code subject count tries start budget visited =
      (exploreFrom code subject slotCount tries start budget visited).map (·.take count) := by
  induction tries generalizing start budget visited with
  | zero => rfl
  | succ tries ih =>
      have hexplore := explore_narrow code subject count budget visited [.initial slotCount start]
      rw [List.map_singleton, Thread.initial_narrow hcount] at hexplore
      rw [exploreFrom, exploreFrom, hexplore, Exploration.narrow]
      cases (explore code subject budget visited [.initial slotCount start]).found with
      | none => exact ih _ _ _
      | some slots => rfl

/-- A search with fewer slots finds the same match, with the others left out. -/
theorem Code.search_narrow (code : Array Inst) {count slotCount : Nat} (hcount : count ≤ slotCount)
    (subject : Bytes) :
    search code count subject = (search code slotCount subject).map (·.take count) :=
  exploreFrom_narrow hcount _ _ _ _

end Narrowing

namespace Thread

/-- A way that lies in the subject, with every slot noted on it.  A group that is not open was
entered before it was left. -/
structure Tidy (openAt : Nat → List Nat) (size slotCount : Nat) (thread : Thread) : Prop where
  start_le : thread.start ≤ thread.pos
  pos_le : thread.pos ≤ size
  slots_length : thread.slots.length = slotCount
  inside : ∀ slot pos : Nat, thread.slots[slot]? = some (some pos) →
    thread.start ≤ pos ∧ pos ≤ thread.pos
  ordered : ∀ group ∉ openAt thread.place, ∀ first last : Nat,
    thread.slots[2 * group]? = some (some first) →
    thread.slots[2 * group + 1]? = some (some last) → first ≤ last

variable {subject : Array UInt8} {openAt : Nat → List Nat} {size slotCount : Nat} {thread : Thread}

theorem initial_tidy {start : Nat} (hstart : start ≤ size) :
    (initial slotCount start).Tidy openAt size slotCount where
  start_le := Nat.le_refl start
  pos_le := hstart
  slots_length := List.length_replicate
  inside slot pos hslot := by
    have hmem := List.mem_of_getElem? hslot
    have hnone := List.eq_of_mem_replicate hmem
    contradiction
  ordered group _ first last hfirst _ := by
    have hmem := List.mem_of_getElem? hfirst
    have hnone := List.eq_of_mem_replicate hmem
    contradiction

theorem Tidy.take (htidy : thread.Tidy openAt size slotCount) {count : Nat}
    (hcount : thread.pos + count ≤ size) (hopen : openAt (thread.place + 1) = openAt thread.place) :
    (thread.take count).Tidy openAt size slotCount where
  start_le := Nat.le_trans htidy.start_le (Nat.le_add_right _ _)
  pos_le := hcount
  slots_length := htidy.slots_length
  inside slot pos hslot := by
    have hpos := htidy.inside slot pos hslot
    exact ⟨hpos.1, Nat.le_trans hpos.2 (Nat.le_add_right _ _)⟩
  ordered group hgroup := htidy.ordered group (hopen ▸ hgroup)

theorem Tidy.goTo (htidy : thread.Tidy openAt size slotCount) {length : Nat} {distance : Int}
    (hlands : Inst.Lands openAt length thread.place distance) :
    (thread.goTo distance).Tidy openAt size slotCount := by
  obtain ⟨target, _, htarget, hopen⟩ := hlands
  have hplace : (thread.goTo distance).place = target := by
    rw [Thread.goTo, htarget, Int.toNat_natCast]
  constructor
  · exact htidy.start_le
  · exact htidy.pos_le
  · exact htidy.slots_length
  · exact htidy.inside
  · rw [hplace, hopen]
    exact htidy.ordered

/-- Noting the position in a slot keeps all slots on the way. -/
theorem Tidy.inside_mark (htidy : thread.Tidy openAt size slotCount) (marked : Nat) (slot pos : Nat)
    (hslot : (thread.mark marked).slots[slot]? = some (some pos)) :
    thread.start ≤ pos ∧ pos ≤ thread.pos := by
  rw [mark, List.getElem?_set] at hslot
  split at hslot
  · split at hslot
    · obtain rfl := Option.some.inj (Option.some.inj hslot)
      exact ⟨htidy.start_le, Nat.le_refl _⟩
    · contradiction
  · exact htidy.inside slot pos hslot

theorem Tidy.enter (htidy : thread.Tidy openAt size slotCount) {group : Nat}
    (hopen : openAt (thread.place + 1) = group :: openAt thread.place) :
    (thread.mark (2 * group)).Tidy openAt size slotCount where
  start_le := htidy.start_le
  pos_le := htidy.pos_le
  slots_length := List.length_set.trans htidy.slots_length
  inside := htidy.inside_mark _
  ordered other hother first last hfirst hlast := by
    have hboth : other ≠ group ∧ other ∉ openAt thread.place := by
      change other ∉ openAt (thread.place + 1) at hother
      rwa [hopen, List.mem_cons, not_or] at hother
    obtain ⟨hne, hclosed⟩ := hboth
    rw [mark, List.getElem?_set_ne (by omega)] at hfirst hlast
    exact htidy.ordered other hclosed first last hfirst hlast

theorem Tidy.leave (htidy : thread.Tidy openAt size slotCount) {group : Nat}
    (hgroup : (openAt thread.place).head? = some group)
    (hopen : openAt (thread.place + 1) = (openAt thread.place).tail) :
    (thread.mark (2 * group + 1)).Tidy openAt size slotCount where
  start_le := htidy.start_le
  pos_le := htidy.pos_le
  slots_length := List.length_set.trans htidy.slots_length
  inside := htidy.inside_mark _
  ordered other hother first last hfirst hlast := by
    rw [mark, List.getElem?_set_ne (by omega)] at hfirst
    by_cases hsame : other = group
    · subst hsame
      -- The group ends here, and whatever was noted before was noted no further on.
      have hnow : last = thread.pos := by
        rw [mark, List.getElem?_set_self'] at hlast
        obtain ⟨_, _, hlast⟩ := Option.map_eq_some_iff.mp hlast
        exact (Option.some.inj hlast).symm
      rw [hnow]
      exact (htidy.inside _ first hfirst).2
    · rw [mark, List.getElem?_set_ne (by omega)] at hlast
      have hclosed : other ∉ openAt thread.place := by
        obtain ⟨others, hothers⟩ := List.head?_eq_some_iff.mp hgroup
        rw [hothers]
        change other ∉ openAt (thread.place + 1) at hother
        rw [hopen, hothers] at hother
        rw [List.mem_cons, not_or]
        exact ⟨hsame, hother⟩
      exact htidy.ordered other hclosed first last hfirst hlast

end Thread

/-- The slots of a match: it lies in the subject, and its groups lie in it. -/
def SlotsInside (size : Nat) (slots : List (Option Nat)) : Prop :=
  ∃ whole : Span, slots[0]? = some (some whole.start) ∧ slots[1]? = some (some whole.stop) ∧
    whole.Within size ∧
    ∀ group first last : Nat, slots[2 * group]? = some (some first) →
      slots[2 * group + 1]? = some (some last) →
      whole.start ≤ first ∧ first ≤ last ∧ last ≤ whole.stop

namespace Thread

variable {subject : Array UInt8} {openAt : Nat → List Nat} {size slotCount : Nat} {thread : Thread}

theorem Tidy.slotsInside (htidy : thread.Tidy openAt size slotCount) (hslots : 2 ≤ slotCount)
    (hopen : openAt thread.place = []) : SlotsInside size thread.result := by
  have hlength := htidy.slots_length
  have hfirst : thread.result[0]? = some (some thread.start) := by
    rw [result, List.getElem?_set_ne (by decide), List.getElem?_set_self (by omega)]
  have hlast : thread.result[1]? = some (some thread.pos) := by
    rw [result, List.getElem?_set_self (by rw [List.length_set]; omega)]
  have hother (slot : Nat) (hslot : 2 ≤ slot) : thread.result[slot]? = thread.slots[slot]? := by
    rw [result, List.getElem?_set_ne (by omega), List.getElem?_set_ne (by omega)]
  refine ⟨⟨thread.start, thread.pos⟩, hfirst, hlast, ⟨htidy.start_le, htidy.pos_le⟩, ?_⟩
  intro group first last hentered hleft
  cases group with
  | zero =>
      obtain rfl := Option.some.inj (Option.some.inj (hfirst.symm.trans hentered))
      obtain rfl := Option.some.inj (Option.some.inj (hlast.symm.trans hleft))
      exact ⟨Nat.le_refl _, htidy.start_le, Nat.le_refl _⟩
  | succ group =>
      rw [hother _ (by omega)] at hentered hleft
      have hclosed : group + 1 ∉ openAt thread.place := by simp [hopen]
      refine ⟨(htidy.inside _ first hentered).1, ?_, (htidy.inside _ last hleft).2⟩
      exact htidy.ordered (group + 1) hclosed first last hentered hleft

theorem classLength?_le {charClass : CharClass} {pos length : Nat}
    (hlength : classLength? subject pos charClass = some length) : pos + length ≤ subject.size := by
  cases charClass with
  | bytes set =>
      obtain ⟨byte, hbyte, hmember⟩ := Option.bind_eq_some_iff.mp hlength
      obtain ⟨_, hone⟩ := Option.ite_none_right_eq_some.mp hmember
      obtain rfl := Option.some.inj hone
      exact (Array.getElem?_eq_some_iff.mp hbyte).1
  | chars set =>
      obtain ⟨⟨codePoint, length'⟩, hdecode, hmember⟩ := Option.bind_eq_some_iff.mp hlength
      obtain ⟨_, heq⟩ := Option.ite_none_right_eq_some.mp hmember
      obtain rfl := Option.some.inj heq
      exact Utf8.add_le_of_decode hdecode

/-- No instruction leads a way out of the subject, or makes a group end before it starts. -/
theorem step_tidy {code : Code} (hslots : 2 ≤ slotCount)
    (hnests : code.NestsAt [] thread.place)
    (htidy : thread.Tidy (code.openAt []) subject.size slotCount)
    {inst : Inst} (hinst : code[thread.place]? = some inst) :
    (thread.step subject inst).Keeps (Tidy (code.openAt []) subject.size slotCount)
      (SlotsInside subject.size) := by
  have hopen := Code.openAt_succ hinst []
  have hinst := hnests inst hinst
  cases inst with
  | byte byte =>
      rw [step]
      split
      · next hbyte => exact htidy.take (Array.getElem?_eq_some_iff.mp hbyte).1 hopen
      · trivial
  | charClass charClass =>
      rw [step]
      split
      · next length hlength => exact htidy.take (classLength?_le hlength) hopen
      · trivial
  | look look =>
      rw [step]
      split
      · exact htidy.take htidy.pos_le hopen
      · trivial
  | fork first second => exact ⟨htidy.goTo hinst.1, htidy.goTo hinst.2⟩
  | jump distance => exact htidy.goTo hinst
  | enter group => exact htidy.enter hopen
  | leave group => exact htidy.leave hinst hopen
  | accept => exact htidy.slotsInside hslots hinst

end Thread

/-- What a search finds lies in the subject, and its groups lie in it. -/
theorem Code.search_slotsInside (regex : Regex) {slotCount : Nat} (hslots : 2 ≤ slotCount)
    {subject : Bytes} {slots : List (Option Nat)}
    (hfound : search (whole regex).toArray slotCount subject = some slots) :
    SlotsInside subject.length slots := by
  have hsize : subject.toArray.size = subject.length := List.size_toArray
  rw [← hsize]
  have hinitial : ∀ start ≤ subject.toArray.size,
      (Thread.initial slotCount start).Tidy ((whole regex).openAt []) subject.toArray.size
        slotCount :=
    fun start hstart => Thread.initial_tidy hstart
  refine exploreFrom_keeps hinitial ?_ (by omega) hfound
  intro thread inst htidy hinst
  rw [List.getElem?_toArray] at hinst
  exact Thread.step_tidy hslots (nestsAt_whole regex thread.place) htidy hinst

/-- The leftmost match of an expression, with all its groups. -/
def Regex.leftmost? (regex : Regex) (subject : Bytes) : Option Captures :=
  (Code.search (Code.whole regex).toArray (2 * (regex.lastCapture + 1)) subject).map
    (.ofSlots (regex.lastCapture + 1))

theorem Regex.leftmost?_inside {regex : Regex} {subject : Bytes} {caps : Captures}
    (hfound : regex.leftmost? subject = some caps) :
    caps.groupLen = regex.lastCapture + 1 ∧ caps.Inside subject.length := by
  obtain ⟨slots, hslots, rfl⟩ := Option.map_eq_some_iff.mp hfound
  obtain ⟨whole, hfirst, hlast, hwithin, hgroups⟩ :=
    Code.search_slotsInside regex (by omega) hslots
  have hzero : (Captures.ofSlots (regex.lastCapture + 1) slots).group 0 = some whole :=
    Captures.group_ofSlots.mpr ⟨Nat.succ_pos _, hfirst, hlast⟩
  refine ⟨Captures.groupLen_ofSlots _ _, ⟨whole, hzero, hwithin⟩, ?_⟩
  intro index span hspan
  obtain ⟨_, hentered, hleft⟩ := Captures.group_ofSlots.mp hspan
  rw [Captures.range, hzero]
  exact hgroups index span.start span.stop hentered hleft

namespace SearchOptions

/-- What a program answers: it refuses a subject, or reports the groups that are wanted of its
leftmost match. -/
theorem program_execute (options : SearchOptions) (regex : Regex) (subject : Bytes) (want : Nat) :
    (options.program regex).execute subject want =
      if options.refuses (stateCount (Code.whole regex).toArray) subject.length then
        .error (.tooLong subject.length)
      else .ok ((regex.leftmost? subject).map (·.truncate (max 1 want))) := by
  simp only [program]
  congr 2
  have hwanted : min (max 1 want) (regex.lastCapture + 1) ≤ regex.lastCapture + 1 :=
    Nat.min_le_right _ _
  rw [Code.search_narrow _ (Nat.mul_le_mul_left 2 hwanted), Regex.leftmost?, Option.map_map,
    Option.map_map]
  congr 1
  funext slots
  rw [Function.comp, Function.comp, Captures.ofSlots_take]
  rcases Nat.le_total (max 1 want) (regex.lastCapture + 1) with hle | hle
  · rw [Nat.min_eq_left hle]
  · rw [Nat.min_eq_right hle, Captures.truncate_of_groupLen_le, Captures.truncate_of_groupLen_le]
    · rwa [Captures.groupLen_ofSlots]
    · exact Nat.le_of_eq (Captures.groupLen_ofSlots _ _)

/-- The default engine's programs are sound, whatever the options. -/
theorem program_sound (options : SearchOptions) (regex : Regex) :
    (options.program regex).Sound := by
  intro subject want caps hexecute
  rw [program_execute] at hexecute
  split at hexecute
  · contradiction
  · obtain ⟨found, hfound, rfl⟩ := Option.map_eq_some_iff.mp (Except.ok.inj hexecute)
    exact ((Regex.leftmost?_inside hfound).2.truncate (by omega)).whole

end SearchOptions

end BytePattern
