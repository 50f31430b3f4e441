/-
A run of a store as it is seen from outside: what the engine was asked for, what was found and what
was warned of.  From what was seen of a key before it can be told when the engine is asked again.
-/
import BytePattern.Proofs.Keeping

namespace BytePattern

namespace Store

/-- What an operation lets see. -/
inductive Event where
  /-- A key was looked up: the requests made for it, what was given out, and the warnings. -/
  | lookedUp (key : Key) (requests : List Request) (compilation : Compilation)
      (warnings : List String)
  /-- A key was to be forgotten, and a failure was dropped or there was none. -/
  | forgotten (key : Key) (dropped : Bool)
  /-- Nothing was looked up or forgotten. -/
  | quiet

namespace Event

/-- What was found under a key, if this is a look-up of it. -/
def found? (key : Key) : Event → Option Compilation
  | lookedUp other _ compilation _ => if other = key then some compilation else none
  | _ => none

/-- Whether a failure under the key was dropped. -/
def drops (key : Key) : Event → Bool
  | forgotten other dropped => dropped && decide (other = key)
  | _ => false

/-- The requests that the engine had, in order. -/
def requests : Event → List Request
  | lookedUp _ requests _ _ => requests
  | _ => []

/-- The warnings given, in order. -/
def warnings : Event → List String
  | lookedUp _ _ _ warnings => warnings
  | _ => []

/-- The key and the error of a request that came to nothing. -/
def failure? : Event → Option (Key × CompileError)
  | lookedUp key (_ :: _) ⟨_, .error error⟩ _ => some (key, error)
  | _ => none

end Event

/-- A look-up as it is seen from outside. -/
def lookupEvent (store : Store) (key : Key) (found : Lookup) : Event :=
  let asked := found.store.requests.length - store.requests.length
  .lookedUp key (found.store.requests.take asked) found.compilation found.warnings

/-- An operation as it is seen from outside. -/
def event (store : Store) : Operation → Event
  | .lookup key => store.lookupEvent key (store.lookup key)
  | .substitution text =>
    match Expression.parse text, store.substitution? text with
    | .ok expression, .ok (found, _) => store.lookupEvent expression.key found
    | _, _ => .quiet
  | .contains _ => .quiet
  | .invalidate key => .forgotten key (store.invalidate key).2
  | .size => .quiet

/-- The events of operations, one after the other. -/
def events (store : Store) : List Operation → List Event
  | [] => []
  | operation :: operations => store.event operation :: (store.after operation).events operations

/-- What has been found under a key last, since a failure under it was last dropped if there was
one. -/
def lastFound (past : List Event) (key : Key) : Option Compilation :=
  (past.reverse.takeWhile fun event => !event.drops key).findSome? (·.found? key)

/-- What has been found under a key and is of a kind that is kept, since a failure under it was last
dropped. -/
def lastKept (keepsFailures : Bool) (past : List Event) (key : Key) : Option Compilation :=
  (past.reverse.takeWhile fun event => !event.drops key).findSome? fun event =>
    (event.found? key).filter fun compilation => compilation.succeeded || keepsFailures

section LastKept

variable {past : List Event} {key : Key}

theorem lastKept_concat (keepsFailures : Bool) (past : List Event) (event : Event) (key : Key) :
    lastKept keepsFailures (past ++ [event]) key =
      if event.drops key then none
      else ((event.found? key).filter fun compilation =>
        compilation.succeeded || keepsFailures).or (lastKept keepsFailures past key) := by
  rw [lastKept, List.reverse_append, List.reverse_singleton, List.singleton_append,
    List.takeWhile_cons]
  cases event.drops key with
  | true => rfl
  | false =>
      simp only [Bool.not_false, ↓reduceIte, Bool.false_eq_true, List.findSome?_cons]
      cases (event.found? key).filter _ <;> rfl

/-- Where failures are kept, whatever was found is. -/
theorem lastKept_true (past : List Event) (key : Key) :
    lastKept true past key = lastFound past key := by
  have hall (found : Option Compilation) :
      found.filter (fun compilation => compilation.succeeded || true) = found := by
    cases found with
    | none => rfl
    | some compilation => exact if_pos (Bool.or_true _)
  simp only [lastKept, lastFound, hall]

/-- What is kept where failures are not was found as a success. -/
theorem exists_of_lastKept_false {compilation : Compilation}
    (hkept : lastKept false past key = some compilation) :
    ∃ event ∈ past, event.found? key = some compilation ∧ compilation.succeeded = true := by
  obtain ⟨event, hmem, hfound⟩ := List.exists_of_findSome?_eq_some hkept
  obtain ⟨hfound, hsucceeded⟩ := Option.filter_eq_some_iff.mp hfound
  refine ⟨event, ?_, hfound, ?_⟩
  · exact List.mem_reverse.mp ((List.takeWhile_prefix _).subset hmem)
  · rwa [Bool.or_false] at hsucceeded

end LastKept

/-- All that can be told of an operation by someone who saw it. -/
structure Seen (store : Store) (event : Event) (after : Store) : Prop where
  change : store.Change after
  /-- What was found is kept if it may be, and what was dropped is not. -/
  get?_eq : ∀ key, after.get? key =
    if event.drops key then none
    else ((event.found? key).filter fun compilation =>
      compilation.succeeded || store.keepsFailures).or (store.get? key)
  requests : after.requests = event.requests.reverse ++ store.requests
  warnings : event.warnings =
    event.failure?.toList.map fun failed => failed.1.warning failed.2

section Seen

variable {store : Store}

theorem seen_quiet (store : Store) : store.Seen .quiet store where
  change := .same
  get?_eq _ := rfl
  requests := rfl
  warnings := rfl

/-- A look-up of a key that is kept shows what is kept, and changes nothing. -/
theorem seen_lookup_of_kept (hsettled : store.Settled) {key : Key} {compilation : Compilation}
    (hkept : store.get? key = some compilation) :
    store.Seen (store.lookupEvent key (store.lookup key)) (store.lookup key).store := by
  rw [lookup_of_kept hsettled hkept]
  have hkeep : (compilation.succeeded || store.keepsFailures) = true := by
    cases hfailures : store.keepsFailures with
    | true => exact Bool.or_true _
    | false => rw [hsettled.succeeded hfailures key compilation hkept]; rfl
  have hnone :
      store.lookupEvent key ⟨store, compilation, []⟩ = .lookedUp key [] compilation [] := by
    simp [lookupEvent]
  rw [hnone]
  constructor
  · exact .same
  · intro other
    by_cases hother : key = other
    · subst hother
      simp [Event.drops, Event.found?, Option.filter_some, hkeep, hkept]
    · simp [Event.drops, Event.found?, hother]
  · rfl
  · rfl

/-- A look-up of a key that is not kept shows the one request that is made for it. -/
theorem seen_lookup_of_unkept (hsettled : store.Settled) (hunlimited : store.capacity = none)
    {key : Key} (hunkept : store.get? key = none) :
    store.Seen (store.lookupEvent key (store.lookup key)) (store.lookup key).store := by
  have hslot := hsettled.slot?_of_unkept hunkept
  have hmissed := lookup_missed hslot
  obtain ⟨text, hexpanded, _⟩ := key.exists_expanded
  have hrequests : (store.lookup key).store.requests = ⟨text, key.flags⟩ :: store.requests := by
    rw [hmissed.requests, compiled_eq_of_expanded hexpanded]
  have hroom := hasRoom_of_unlimited hunlimited
  have hevent : store.lookupEvent key (store.lookup key) =
      .lookedUp key [⟨text, key.flags⟩] (store.lookup key).compilation
        (store.lookup key).warnings := by
    simp [lookupEvent, hrequests]
  rw [hevent]
  constructor
  · exact lookup_change hsettled key
  · intro other
    rw [hmissed.get?_eq hsettled]
    by_cases hother : key = other
    · subst hother
      cases hkeep : (store.lookup key).compilation.succeeded || store.keepsFailures <;>
        simp [Event.drops, Event.found?, Option.filter_some, admits, hroom, hkeep]
    · simp [Event.drops, Event.found?, hother, Ne.symm hother]
  · exact hrequests
  · rw [Event.warnings, hmissed.warnings, hmissed.compilation]
    cases (store.compiled key).1 <;> rfl

theorem seen_lookup (hsettled : store.Settled) (hunlimited : store.capacity = none) (key : Key) :
    store.Seen (store.lookupEvent key (store.lookup key)) (store.lookup key).store := by
  cases hkept : store.get? key with
  | some compilation => exact seen_lookup_of_kept hsettled hkept
  | none => exact seen_lookup_of_unkept hsettled hunlimited hkept

theorem seen_invalidate (store : Store) (key : Key) :
    store.Seen (.forgotten key (store.invalidate key).2) (store.invalidate key).1 := by
  have hchange := invalidate_change store key
  cases hkept : store.get? key with
  | none =>
      rw [invalidate_of_unkept hkept]
      exact ⟨.same, fun _ => rfl, rfl, rfl⟩
  | some compilation =>
      cases hresult : compilation.succeeded with
      | true =>
          rw [invalidate_of_succeeded hkept hresult]
          exact ⟨.same, fun _ => rfl, rfl, rfl⟩
      | false =>
          rw [invalidate_of_failed hkept hresult] at hchange ⊢
          refine ⟨hchange, ?_, rfl, rfl⟩
          intro other
          rw [get?_remove]
          by_cases hother : key = other
          · simp [Event.drops, hother]
          · simp [Event.drops, Event.found?, hother, Ne.symm hother]

theorem seen_event (hsettled : store.Settled) (hunlimited : store.capacity = none)
    (operation : Operation) : store.Seen (store.event operation) (store.after operation) := by
  cases operation with
  | lookup key => exact seen_lookup hsettled hunlimited key
  | substitution text =>
      rw [event, after, substitution?]
      cases Expression.parse text with
      | error error => exact seen_quiet store
      | ok expression => exact seen_lookup hsettled hunlimited expression.key
  | contains key => exact seen_quiet store
  | invalidate key => exact seen_invalidate store key
  | size => exact seen_quiet store

end Seen

/-- What was seen of a store of unlimited capacity tells what it keeps, what its engine was asked
for, and what was warned of. -/
structure Told (past : List Event) (store : Store) : Prop where
  settled : store.Settled
  unlimited : store.capacity = none
  kept : ∀ key, store.get? key = lastKept store.keepsFailures past key
  /-- What was found as a success is kept still. -/
  lasting : ∀ event ∈ past, ∀ key compilation, event.found? key = some compilation →
    compilation.succeeded = true → store.get? key = some compilation
  requests : store.requests = (past.flatMap Event.requests).reverse
  warnings : past.flatMap Event.warnings =
    (past.filterMap Event.failure?).map fun failed => failed.1.warning failed.2

section Told

variable {past : List Event} {store after : Store} {event : Event}

theorem told_fresh (engine : Engine) (keepsFailures : Bool) :
    Told [] (fresh engine none keepsFailures) where
  settled := fresh_settled engine none keepsFailures
  unlimited := rfl
  kept _ := rfl
  lasting := by simp
  requests := rfl
  warnings := rfl

theorem Change.get?_of_succeeded (hsettled : store.Settled) (hchange : store.Change after)
    {key : Key} {compilation : Compilation} (hkept : store.get? key = some compilation)
    (hsucceeded : compilation.succeeded = true) : after.get? key = some compilation := by
  obtain ⟨serial, result⟩ := compilation
  cases result with
  | error error => contradiction
  | ok compiled => exact hchange.get?_eq hsettled hkept

theorem Seen.told (hseen : store.Seen event after) (htold : Told past store) :
    Told (past ++ [event]) after := by
  have hsettings := hseen.change.settings
  constructor
  · exact hseen.change.settled htold.settled
  · rw [hsettings.capacity, htold.unlimited]
  · intro key
    rw [hseen.get?_eq, lastKept_concat, hsettings.keepsFailures, htold.kept]
  · intro earlier hmem key compilation hfound hsucceeded
    rcases List.mem_append.mp hmem with hmem | hmem
    · have hkept := htold.lasting earlier hmem key compilation hfound hsucceeded
      exact hseen.change.get?_of_succeeded htold.settled hkept hsucceeded
    · obtain rfl := List.mem_singleton.mp hmem
      have hdrops : earlier.drops key = false := by
        cases earlier with
        | forgotten other dropped => contradiction
        | lookedUp | quiet => rfl
      rw [hseen.get?_eq, hfound, hdrops]
      simp [Option.filter_some, hsucceeded]
  · rw [hseen.requests, htold.requests, List.flatMap_append, List.reverse_append,
      List.flatMap_singleton]
  · have hfailure : [event].filterMap Event.failure? = event.failure?.toList := by
      cases hresult : event.failure? <;> simp [hresult]
    rw [List.flatMap_append, List.filterMap_append, List.map_append, htold.warnings, hfailure,
      List.flatMap_singleton, hseen.warnings]

theorem Told.run (htold : Told past store) (operations : List Operation) :
    Told (past ++ store.events operations) (store.run operations) := by
  induction operations generalizing past store with
  | nil =>
      rw [events, List.append_nil]
      exact htold
  | cons operation operations ih =>
      have hseen := seen_event htold.settled htold.unlimited operation
      have hrest := ih (hseen.told htold)
      rw [List.append_assoc] at hrest
      exact hrest

end Told

/-- Without failures that are kept, each look-up of a key asks the engine once until one succeeds,
and none does after it. -/
structure RetriesFailures (past : List Event) (store : Store) (key : Key) : Prop where
  asked : (∀ event ∈ past, ∀ compilation, event.found? key = some compilation →
    compilation.succeeded = false) → store.CompiledOnce key (store.lookup key)
  answered : ∀ event ∈ past, ∀ compilation, event.found? key = some compilation →
    compilation.succeeded = true → store.lookup key = ⟨store, compilation, []⟩
  /-- There is nothing to forget. -/
  lasting : store.invalidate key = (store, false)

/-- With failures that are kept, only the first look-up of a key asks the engine, and the first
after a failure under the key was dropped.  What it gives is given out by all others. -/
structure RemembersFailures (past : List Event) (store : Store) (key : Key) : Prop where
  asked : lastFound past key = none → store.CompiledOnce key (store.lookup key)
  answered : ∀ compilation, lastFound past key = some compilation →
    store.lookup key = ⟨store, compilation, []⟩
  /-- A failure is dropped if one was found since the last was dropped. -/
  dropped : (store.invalidate key).2 = true ↔
    ∃ compilation, lastFound past key = some compilation ∧ compilation.succeeded = false
  /-- Nothing else is dropped with it. -/
  forgotten : ∀ other, (store.invalidate key).1.get? other =
    if other = key ∧ (store.invalidate key).2 = true then none else store.get? other

/-- When the engine is asked for a key, told from what was seen of the store before. -/
structure Policy (keepsFailures : Bool) (past : List Event) (store : Store) : Prop where
  /-- Every request was made by a look-up. -/
  requests : store.requests = (past.flatMap Event.requests).reverse
  /-- There is one warning for each request that failed, about the key as it was looked up. -/
  warnings : past.flatMap Event.warnings =
    (past.filterMap Event.failure?).map fun failed => failed.1.warning failed.2
  retries : keepsFailures = false → ∀ key, RetriesFailures past store key
  remembers : keepsFailures = true → ∀ key, RemembersFailures past store key

section Policy

variable {past : List Event} {store : Store}

theorem Told.compiledOnce (htold : Told past store) {key : Key} (hunkept : store.get? key = none) :
    store.CompiledOnce key (store.lookup key) := by
  apply htold.settled.compiledOnce
  rw [contains, hunkept]
  rfl

theorem Told.retriesFailures (htold : Told past store) (hfailures : store.keepsFailures = false)
    (key : Key) : RetriesFailures past store key := by
  constructor
  · intro hfailed
    apply htold.compiledOnce
    rw [htold.kept, hfailures]
    by_contra hkept
    obtain ⟨compilation, hkept⟩ := Option.ne_none_iff_exists'.mp hkept
    obtain ⟨event, hmem, hfound, hsucceeded⟩ := exists_of_lastKept_false hkept
    rw [hfailed event hmem compilation hfound] at hsucceeded
    contradiction
  · intro event hmem compilation hfound hsucceeded
    apply lookup_of_kept htold.settled
    exact htold.lasting event hmem key compilation hfound hsucceeded
  · cases hkept : store.get? key with
    | none => exact invalidate_of_unkept hkept
    | some compilation =>
        apply invalidate_of_succeeded hkept
        exact htold.settled.succeeded hfailures key compilation hkept

theorem Told.remembersFailures (htold : Told past store) (hfailures : store.keepsFailures = true)
    (key : Key) : RemembersFailures past store key := by
  have hlast (key : Key) : store.get? key = lastFound past key := by
    rw [htold.kept, hfailures, lastKept_true]
  have hseen := seen_invalidate store key
  constructor
  · intro hunkept
    apply htold.compiledOnce
    rw [hlast, hunkept]
  · intro compilation hkept
    apply lookup_of_kept htold.settled
    rw [hlast, hkept]
  · rw [← hlast]
    cases hkept : store.get? key with
    | none => simp [invalidate_of_unkept hkept]
    | some compilation =>
        cases hresult : compilation.succeeded with
        | true => simp [invalidate_of_succeeded hkept hresult, hresult]
        | false => simp [invalidate_of_failed hkept hresult, hresult]
  · intro other
    rw [hseen.get?_eq]
    by_cases hother : key = other
    · subst hother
      simp [Event.drops, Event.found?]
    · simp [Event.drops, Event.found?, hother, Ne.symm hother]

/-- After any run of a store that has room for every key, what was seen tells when its engine is
asked again, whatever the engine answered. -/
theorem policy_run (engine : Engine) (keepsFailures : Bool) (operations : List Operation) :
    Policy keepsFailures ((fresh engine none keepsFailures).events operations)
      ((fresh engine none keepsFailures).run operations) := by
  have htold := (told_fresh engine keepsFailures).run operations
  rw [List.nil_append] at htold
  have hpolicy := (settings_run engine none keepsFailures operations).2.keepsFailures
  constructor
  · exact htold.requests
  · exact htold.warnings
  · intro hfailures
    exact htold.retriesFailures (hpolicy.trans hfailures)
  · intro hfailures
    exact htold.remembersFailures (hpolicy.trans hfailures)

end Policy

end Store

end BytePattern
