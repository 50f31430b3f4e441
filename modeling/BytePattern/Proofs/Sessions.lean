/-
Sessions over whole runs.  The books of both stores add up at any time, and every look-up of a key
that is not kept, also one that a session makes on its own account, compiles the key once.
-/
import BytePattern.Proofs.FirstUse

namespace BytePattern

namespace Session

/-- A call that may touch the stores of a session.  Replacement texts are read also one by one, and
texts are expanded also for the patterns of other stores. -/
inductive Call where
  | lookup (place : Place) (key : Key)
  | substitution (place : Place) (text : String)
  | contains (place : Place) (key : Key)
  | invalidate (place : Place) (key : Key)
  | size (place : Place)
  | template (text : Bytes)
  | expand (text : String)

/-- A session in which nothing is done yet. -/
def fresh (engine : Engine) (capacity : Option Nat) (keepsFailures : Bool) : Session :=
  { own := .fresh engine capacity keepsFailures }

/-- The session after a call. -/
def after (session : Session) : Call → Session
  | .lookup place key => (session.lookup place key).2
  | .substitution place text =>
    match session.substitution? place text with
    | .ok (_, session) => session
    | .error _ => session
  | .contains _ _ => session
  | .invalidate place key => (session.invalidate place key).2
  | .size _ => session
  | .template text => { session with commons := (session.commons.template text).2 }
  | .expand text => { session with commons := (session.commons.expand text).2 }

/-- The session after calls, one after the other. -/
def run (session : Session) (calls : List Call) : Session :=
  calls.foldl after session

variable {session later : Session} {place : Place} {key : Key} {compilation : Compilation}

theorem withStore_self (session : Session) (place : Place) :
    session.withStore (session.storeAt place) place = session := by
  cases place <;> rfl

theorem lookup_of_kept (hsettled : (session.storeAt place).Settled)
    (hkept : (session.storeAt place).get? key = some compilation) :
    session.lookup place key = (⟨session.storeAt place, compilation, []⟩, session) := by
  obtain ⟨hslot, hcontent⟩ := Store.get?_eq_some_iff.mp hkept
  have hopen : (session.storeAt place).openSlot key =
      (session.storeAt place, compilation.serial) := by
    simp only [Store.openSlot, hslot]
  have hclose : (⟨session.storeAt place, compilation, []⟩ : Lookup).close key compilation.serial =
      ⟨session.storeAt place, compilation, []⟩ := by
    simp only [Lookup.close, hsettled.keeps_result hkept, ↓reduceIte]
  simp only [lookup, hopen, hcontent, hclose, withStore_self]

/-- A key that has no slot is compiled into a new one, once its text is expanded. -/
theorem lookup_of_no_slot (session : Session) (place : Place)
    (hslot : (session.storeAt place).shelves.slot? key = none) :
    session.lookup place key =
      let slot := (session.storeAt place).slots.length
      let opened := session.withStore ((session.storeAt place).opened key) place
      let expanded := opened.commons.expanded key
      let ready := { opened with commons := expanded.2 }
      let found := ((ready.storeAt place).fillFrom key slot expanded.1).close key slot
      (found, ready.withStore found.store place) := by
  simp only [lookup, Store.openSlot_of_no_slot hslot, Store.content?_opened]

/-- Between calls no slot of either store waits. -/
structure Idle (session : Session) : Prop where
  own : session.own.Settled
  commons : session.commons.Idle

theorem Idle.settled (hidle : session.Idle) (place : Place) : (session.storeAt place).Settled := by
  cases place with
  | own => exact hidle.own
  | common => exact hidle.commons.settled

/-- What a call leaves as it is. -/
structure Follows (session later : Session) : Prop where
  idle : later.Idle
  settings : session.own.SameSettings later.own
  /-- Rules that are made stay made. -/
  made : session.commons.rules.isSome = true → later.commons.rules.isSome = true

theorem Follows.refl (hidle : session.Idle) : session.Follows session :=
  ⟨hidle, ⟨rfl, rfl, rfl⟩, id⟩

theorem Follows.trans {last : Session} (hfirst : session.Follows later)
    (hsecond : later.Follows last) : session.Follows last :=
  ⟨hsecond.idle, hfirst.settings.trans hsecond.settings, hsecond.made ∘ hfirst.made⟩

/-- A look-up in one's own store does there what it does alone, and the common store is only asked
for what the key needs. -/
theorem lookup_own (hidle : session.Idle) (hunkept : session.own.get? key = none) :
    session.lookup .own key =
      (session.own.lookup key,
        ⟨(session.own.lookup key).store, (session.commons.expanded key).2⟩) := by
  have hslot := hidle.own.slot?_of_unkept hunkept
  have hexpanded := (hidle.commons.expanded key).value
  have hfill : session.own.lookup key =
      ((session.own.opened key).fillFrom key session.own.slots.length key.expanded).close key
        session.own.slots.length := by
    rw [Store.lookup_of_no_slot hslot, Store.fill, Store.content?_opened]
  rw [hfill, ← hexpanded]
  exact lookup_of_no_slot session .own hslot

/-- A look-up in the common store compiles the key as it is compiled alone, in the store that the
look-ups of what it needs leave. -/
theorem lookup_common (hidle : session.Idle) (hunkept : session.commons.store.get? key = none) :
    ∃ (rest : Store) (slot : Nat) (found : Lookup),
      session.commons.store.LookedUp (session.commons.needs key) rest ∧ rest.Settled ∧
      rest.shelves.slot? key = none ∧ rest.Missed key slot found ∧
      ((session.commons.opened key).expanded key).2.Ready (Store.waitingAt key slot) rest ∧
      session.lookup .common key = (found, ⟨session.own,
        { ((session.commons.opened key).expanded key).2 with store := found.store }⟩) := by
  have hslot := hidle.commons.settled.slot?_of_unkept hunkept
  have hopened := hidle.commons.opened hslot
  -- The keys of the rules are for an engine that knows shorthands, and so is none that needs them.
  have hfree : key.flags.contains .enhanced = false →
      ∀ other : Key, other.flags.contains .enhanced = true →
        Store.waitingAt key session.commons.store.slots.length other = none := by
    intro hflags other hother
    rw [Store.waitingAt, if_neg]
    rintro rfl
    rw [hflags] at hother
    contradiction
  obtain ⟨hvalue, hready⟩ := hopened.expanded key hfree
  refine ⟨_, session.commons.store.slots.length, _, ?_, hready.settled, ?_,
    hready.awaiting.missed hready.settings.capacity, hready, ?_⟩
  · exact (Store.alike_numbered _).lookedUp (hopened.settled.lookedUp _)
  · exact (hready.awaiting.unfilled key _ (if_pos rfl)).1
  · rw [← hvalue]
    exact lookup_of_no_slot session .common hslot

theorem lookup_follows (hidle : session.Idle) (place : Place) (key : Key) :
    session.Follows (session.lookup place key).2 := by
  cases hkept : (session.storeAt place).get? key with
  | some compilation =>
      rw [lookup_of_kept (hidle.settled place) hkept]
      exact .refl hidle
  | none =>
      cases place with
      | own =>
          have hchange := Store.lookup_change hidle.own key
          have hready := (hidle.commons.expanded key).ready
          rw [lookup_own hidle hkept]
          refine ⟨⟨hchange.settled hidle.own, hready.idle⟩, hchange.settings, ?_⟩
          intro hmade
          exact (congrArg (·.rules.isSome) (Commons.expanded_of_made hmade key)).trans hmade
      | common =>
          obtain ⟨rest, slot, found, _, _, hslot, hmissed, hready, hlookup⟩ :=
            lookup_common hidle hkept
          rw [hlookup]
          refine ⟨⟨hidle.own, hready.change (.missed key slot found hslot hmissed)⟩,
            ⟨rfl, rfl, rfl⟩, ?_⟩
          intro hmade
          have hopened : (session.commons.opened key).rules.isSome = true := hmade
          exact (congrArg (·.rules.isSome) (Commons.expanded_of_made hopened key)).trans hmade

theorem template_follows (hidle : session.Idle) (text : Bytes) :
    session.Follows { session with commons := (session.commons.template text).2 } := by
  have hready := (hidle.commons.template (fun _ _ => rfl) text).ready
  refine ⟨⟨hidle.own, hready.idle⟩, ⟨rfl, rfl, rfl⟩, ?_⟩
  intro hmade
  exact (congrArg Option.isSome (Commons.rules_template session.commons text)).trans hmade

theorem invalidate_follows (hidle : session.Idle) (place : Place) (key : Key) :
    session.Follows (session.invalidate place key).2 := by
  have hchange := Store.invalidate_change (session.storeAt place) key
  cases place with
  | own =>
      exact ⟨⟨hchange.settled hidle.own, hidle.commons⟩, hchange.settings, id⟩
  | common => exact ⟨⟨hidle.own, hidle.commons.change hchange⟩, ⟨rfl, rfl, rfl⟩, id⟩

theorem expand_follows (hidle : session.Idle) (text : String) :
    session.Follows { session with commons := (session.commons.expand text).2 } := by
  have hready := (hidle.commons.expand (fun _ _ => rfl) text).ready
  refine ⟨⟨hidle.own, hready.idle⟩, ⟨rfl, rfl, rfl⟩, ?_⟩
  intro hmade
  exact (congrArg (·.rules.isSome) (Commons.expand_of_made hmade text)).trans hmade

theorem after_follows (hidle : session.Idle) (call : Call) :
    session.Follows (session.after call) := by
  cases call with
  | lookup place key => exact lookup_follows hidle place key
  | substitution place text =>
      rw [after, substitution?]
      cases Expression.parse text with
      | error error => exact .refl hidle
      | ok expression =>
          have hfound := lookup_follows hidle place expression.key
          exact hfound.trans (template_follows hfound.idle _)
  | contains place key => exact .refl hidle
  | invalidate place key => exact invalidate_follows hidle place key
  | size place => exact .refl hidle
  | template text => exact template_follows hidle text
  | expand text => exact expand_follows hidle text

theorem run_follows (hidle : session.Idle) (calls : List Call) :
    session.Follows (session.run calls) := by
  induction calls generalizing session with
  | nil => exact .refl hidle
  | cons call calls ih =>
      have hafter := after_follows hidle call
      exact hafter.trans (ih hafter.idle)

/-- What a call does to one's own store. -/
def Call.operations : Call → List Store.Operation
  | .lookup .own key => [.lookup key]
  | .substitution .own text => [.substitution text]
  | .invalidate .own key => [.invalidate key]
  | _ => []

theorem own_lookup (hidle : session.Idle) (key : Key) :
    (session.lookup .own key).1 = session.own.lookup key ∧
      (session.lookup .own key).2.own = (session.own.lookup key).store := by
  cases hkept : session.own.get? key with
  | some compilation =>
      rw [lookup_of_kept (hidle.settled .own) hkept, Store.lookup_of_kept hidle.own hkept]
      exact ⟨rfl, rfl⟩
  | none =>
      rw [lookup_own hidle hkept]
      exact ⟨rfl, rfl⟩

theorem own_lookup_common (session : Session) (key : Key) :
    (session.lookup .common key).2.own = session.own := by
  unfold lookup
  dsimp only
  split
  · rfl
  · rfl

theorem own_after (hidle : session.Idle) (call : Call) :
    (session.after call).own = session.own.run call.operations := by
  cases call with
  | lookup place key =>
      cases place with
      | own => exact (own_lookup hidle key).2
      | common => exact own_lookup_common session key
  | substitution place text =>
      rw [after, substitution?]
      cases hparse : Expression.parse text with
      | error error =>
          cases place with
          | own =>
              change session.own = session.own.after (.substitution text)
              rw [Store.after, Store.substitution?, hparse]
          | common => rfl
      | ok expression =>
          cases place with
          | own =>
              change (session.lookup .own expression.key).2.own =
                session.own.after (.substitution text)
              rw [(own_lookup hidle expression.key).2, Store.after, Store.substitution?, hparse]
          | common => exact own_lookup_common session expression.key
  | contains place key => rfl
  | invalidate place key => cases place <;> rfl
  | size place => rfl
  | template text => rfl
  | expand text => rfl

/-- In a session one's own store goes through the states that it goes through alone. -/
theorem own_run (hidle : session.Idle) (calls : List Call) :
    (session.run calls).own = session.own.run (calls.flatMap Call.operations) := by
  induction calls generalizing session with
  | nil => rfl
  | cons call calls ih =>
      have hafter := (after_follows hidle call).idle
      rw [List.flatMap_cons, Store.run, List.foldl_append]
      change ((session.after call).run calls).own = _
      rw [ih hafter, own_after hidle call]
      rfl

theorem fresh_idle (engine : Engine) (capacity : Option Nat) (keepsFailures : Bool) :
    (fresh engine capacity keepsFailures).Idle :=
  ⟨Store.fresh_settled engine capacity keepsFailures, Commons.idle_new⟩

/-- Whatever was called before, a session expands texts and reads replacement texts with what it
makes as they are expanded and read with what is made, and none of that gives rise to a warning. -/
theorem reads_run (engine : Engine) (capacity : Option Nat) (keepsFailures : Bool)
    (calls : List Call) :
    (∀ text, (((fresh engine capacity keepsFailures).run calls).commons.expand text).1 =
        Shorthand.expand text) ∧
      (∀ text, (((fresh engine capacity keepsFailures).run calls).commons.template text).1 =
        Template.parse text) ∧
      ((fresh engine capacity keepsFailures).run calls).commons.warnings = [] := by
  have hidle := (run_follows (fresh_idle engine capacity keepsFailures) calls).idle.commons
  refine ⟨?_, ?_, hidle.silent⟩
  · intro text
    exact (Commons.Ready.expand hidle (fun _ _ => rfl) text).value
  · intro text
    exact (Commons.Ready.template hidle (fun _ _ => rfl) text).value

section Compiled

/-- All that a look-up of a key that is not kept does in a session.  The first that needs the rules
looks their keys up beforehand, in the common store, where each of them is found or compiled once
like any other key. -/
structure CompilesOnce (session : Session) (place : Place) (key : Key) : Prop where
  /-- One's own store compiles the key once, and the common one only what the key needs. -/
  own : place = .own →
    session.own.CompiledOnce key (session.lookup .own key).1 ∧
      session.commons.store.LookedUp (session.commons.needs key)
        (session.lookup .own key).2.commons.store
  /-- The common store compiles the key once, beside what the key needs. -/
  common : place = .common →
    (session.lookup .common key).2.own = session.own ∧
      ∃ between, session.commons.store.LookedUp (session.commons.needs key) between ∧
        between.CompiledOnce key (session.lookup .common key).1
  /-- If the key needs nothing, no other is looked up. -/
  alone : session.commons.needs key = [] →
    (session.storeAt place).CompiledOnce key (session.lookup place key).1
  /-- The session goes on with the store that the look-up leaves. -/
  left : (session.lookup place key).2.storeAt place = (session.lookup place key).1.store
  /-- What was needed once is never needed again. -/
  made : session.commons.needs key ≠ [] →
    ∀ calls other, ((session.lookup place key).2.run calls).commons.needs other = []

theorem needs_run (hidle : session.Idle) (hmade : session.commons.rules.isSome = true)
    (calls : List Call) (key : Key) : (session.run calls).commons.needs key = [] :=
  Commons.needs_of_made ((run_follows hidle calls).made hmade) key

theorem compilesOnce_common (hidle : session.Idle)
    (hunkept : session.commons.store.contains key = false) : session.CompilesOnce .common key := by
  obtain ⟨between, slot, found, hlooked, hsettled, hslot, hmissed, _, hlookup⟩ :=
    lookup_common hidle (Store.get?_eq_none_of_not_contains hunkept)
  have honce := hmissed.compiledOnce hsettled hslot
  have hidle' := (lookup_follows hidle .common key).idle
  constructor
  · intro hplace
    contradiction
  · intro _
    rw [hlookup]
    exact ⟨rfl, between, hlooked, honce⟩
  · intro hneeds
    rw [hneeds] at hlooked
    rw [hlookup]
    exact hlooked.alike_of_nil.compiledOnce honce
  · rw [hlookup]
    rfl
  · intro hneeds calls other
    refine needs_run hidle' ?_ calls other
    rw [hlookup]
    have hopened : (session.commons.opened key).needs key ≠ [] := hneeds
    exact Commons.made_of_needs hopened

/-- The first look-up that needs the rules has the common engine asked for the seven keys of the
rules and of the pattern of references, and then for its own. -/
theorem requests_lookup_fresh (engine : Engine) (capacity : Option Nat) (keepsFailures : Bool)
    (hflags : key.flags.contains .enhanced = false)
    (hbackslash : key.text.toList.contains '\\' = true) :
    ∃ text, Shorthand.expand key.text = .ok text ∧
      ((fresh engine capacity keepsFailures).lookup .common key).1.store.requests =
        ⟨text, key.flags⟩ :: ((Shorthand.keys false Shorthand.all).map fun key =>
          (⟨key.text, key.flags⟩ : Request)).reverse := by
  have honce : (fresh engine capacity keepsFailures).CompilesOnce .common key :=
    compilesOnce_common (fresh_idle engine capacity keepsFailures) rfl
  obtain ⟨_, between, hlooked, hcompiled⟩ := honce.common rfl
  obtain ⟨text, htext, hrequests, _⟩ := hcompiled.asked
  have hneeds : (fresh engine capacity keepsFailures).commons.needs key =
      Shorthand.keys false Shorthand.all := by
    rw [Commons.needs, hflags, hbackslash]
    rfl
  rw [hneeds] at hlooked
  rw [hflags] at htext
  refine ⟨text, htext, ?_⟩
  rw [hrequests, hlooked.requests_eq (by decide) (fun _ _ => rfl) (by decide)]
  rfl

end Compiled

end Session

end BytePattern
