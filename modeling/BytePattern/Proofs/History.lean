/-
What a store holds after any operations on it: nothing but what its engine made of the keys.
-/
import BytePattern.Proofs.Lookups

namespace BytePattern

namespace Store

/-- An operation on a store.  A pattern is looked up like any key, and its handle made of what the
look-up gives. -/
inductive Operation where
  | lookup (key : Key)
  | substitution (text : String)
  | contains (key : Key)
  | invalidate (key : Key)
  | size

/-- A store that has not been used yet. -/
def fresh (engine : Engine) (capacity : Option Nat) (keepsFailures : Bool) : Store :=
  { engine := engine, capacity := capacity, keepsFailures := keepsFailures }

/-- The store after an operation. -/
def after (store : Store) : Operation → Store
  | .lookup key => (store.lookup key).store
  | .substitution text =>
    match store.substitution? text with
    | .ok (found, _) => found.store
    | .error _ => store
  | .contains _ => store
  | .invalidate key => (store.invalidate key).1
  | .size => store

/-- The store after operations, one after the other. -/
def run (store : Store) (operations : List Operation) : Store :=
  operations.foldl after store

/-- All that an operation can do to a store. -/
inductive Change (store : Store) : Store → Prop where
  | same : Change store store
  /-- A key that was not kept is compiled. -/
  | missed (key : Key) (slot : Nat) (found : Lookup) (hslot : store.shelves.slot? key = none)
      (hmissed : store.Missed key slot found) : Change store found.store
  /-- A failure that was kept is forgotten. -/
  | forgot (key : Key) (compilation : Compilation) (hkept : store.get? key = some compilation)
      (hfailed : compilation.succeeded = false) :
      Change store { store with shelves := store.shelves.remove key }

variable {store after : Store}

theorem lookup_change (hsettled : store.Settled) (key : Key) :
    store.Change (store.lookup key).store := by
  cases hkept : store.get? key with
  | some compilation =>
      rw [lookup_of_kept hsettled hkept]
      exact .same
  | none =>
      have hslot := hsettled.slot?_of_unkept hkept
      exact .missed key _ _ hslot (lookup_missed hslot)

theorem invalidate_change (store : Store) (key : Key) :
    store.Change (store.invalidate key).1 := by
  cases hkept : store.get? key with
  | none =>
      rw [invalidate_of_unkept hkept]
      exact .same
  | some compilation =>
      cases hresult : compilation.succeeded with
      | true =>
          rw [invalidate_of_succeeded hkept hresult]
          exact .same
      | false =>
          rw [invalidate_of_failed hkept hresult]
          exact .forgot key compilation hkept hresult

theorem after_change (hsettled : store.Settled) (operation : Operation) :
    store.Change (store.after operation) := by
  cases operation with
  | lookup key => exact lookup_change hsettled key
  | substitution text =>
      rw [after, substitution?]
      cases Expression.parse text with
      | error error => exact .same
      | ok expression => exact lookup_change hsettled expression.key
  | contains key => exact .same
  | invalidate key => exact invalidate_change store key
  | size => exact .same

theorem Change.settled (hsettled : store.Settled) (hchange : store.Change after) :
    after.Settled := by
  cases hchange with
  | same => exact hsettled
  | missed key slot found hslot hmissed => exact hmissed.settled hsettled hslot
  | forgot key => exact remove_settled hsettled key

theorem Change.settings (hchange : store.Change after) : store.SameSettings after := by
  cases hchange with
  | same => exact ⟨rfl, rfl, rfl⟩
  | missed key slot found hslot hmissed => exact hmissed.settings
  | forgot key => exact ⟨rfl, rfl, rfl⟩

/-- What every change keeps, every run keeps. -/
theorem run_preserves {Holds : Store → Prop}
    (hstep : ∀ store after : Store, store.Settled → store.Change after → Holds store → Holds after)
    (hsettled : store.Settled) (hholds : Holds store) (operations : List Operation) :
    (store.run operations).Settled ∧ Holds (store.run operations) := by
  induction operations generalizing store with
  | nil => exact ⟨hsettled, hholds⟩
  | cons operation operations ih =>
      have hchange := after_change hsettled operation
      exact ih (hchange.settled hsettled) (hstep store _ hsettled hchange hholds)

section Fresh

variable (engine : Engine) (capacity : Option Nat) (keepsFailures : Bool)

theorem fresh_settled : (fresh engine capacity keepsFailures).Settled := by
  refine ⟨?_, ?_, ?_, ?_⟩
  · intro key slot hslot
    contradiction
  · intro key other slot hslot
    contradiction
  · intro limit _
    exact Nat.zero_le limit
  · intro _ key compilation hkept
    contradiction

theorem settings_run (operations : List Operation) :
    ((fresh engine capacity keepsFailures).run operations).Settled ∧
      (fresh engine capacity keepsFailures).SameSettings
        ((fresh engine capacity keepsFailures).run operations) := by
  refine run_preserves ?_ (fresh_settled engine capacity keepsFailures) ⟨rfl, rfl, rfl⟩ operations
  intro store after _ hchange hsame
  exact hsame.trans hchange.settings

end Fresh

/-- Whatever is kept is what the engine of the store once made of its key. -/
def Genuine (store : Store) : Prop :=
  ∀ key compilation, store.get? key = some compilation → ∃ before : Store,
    before.engine = store.engine ∧ compilation.result = (before.compiled key).1

theorem Change.genuine (hsettled : store.Settled) (hchange : store.Change after)
    (hgenuine : store.Genuine) : after.Genuine := by
  intro key compilation hkept
  rw [hchange.settings.engine]
  cases hchange with
  | same => exact hgenuine key compilation hkept
  | missed key' slot found hslot hmissed =>
      rw [hmissed.get?_eq hsettled] at hkept
      split at hkept
      · next hnew =>
        obtain rfl := Option.some.inj hkept
        rw [hmissed.compilation, hnew.1]
        exact ⟨store, rfl, rfl⟩
      · exact hgenuine key compilation hkept
  | forgot key' =>
      rw [get?_remove] at hkept
      split at hkept
      · contradiction
      · exact hgenuine key compilation hkept

/-- A look-up gives what the engine of the store makes of the key. -/
theorem Genuine.lookup (hsettled : store.Settled) (hgenuine : store.Genuine) (key : Key) :
    ∃ before : Store, before.engine = store.engine ∧
      (store.lookup key).compilation.result = (before.compiled key).1 := by
  cases hkept : store.get? key with
  | none =>
      rw [(lookup_missed (hsettled.slot?_of_unkept hkept)).compilation]
      exact ⟨store, rfl, rfl⟩
  | some compilation =>
      rw [lookup_of_kept hsettled hkept]
      exact hgenuine key compilation hkept

/-- If every store of the engine compiles the key to the same, a look-up gives that, without a
warning. -/
theorem Genuine.lookup_of_compiled {key : Key} {compiled : Compiled} (hgenuine : store.Genuine)
    (hsettled : store.Settled) (hcompiled : ∀ before : Store, before.engine = store.engine →
      (before.compiled key).1 = .ok compiled) :
    (store.lookup key).compilation.result = .ok compiled ∧ (store.lookup key).warnings = [] := by
  constructor
  · obtain ⟨before, hengine, hresult⟩ := hgenuine.lookup hsettled key
    rw [hresult, hcompiled before hengine]
  · cases hkept : store.get? key with
    | some compilation => rw [lookup_of_kept hsettled hkept]
    | none =>
        have hmissed := lookup_missed (hsettled.slot?_of_unkept hkept)
        rw [hmissed.warnings, hcompiled store rfl, Key.warnings]

theorem fresh_genuine (engine : Engine) (capacity : Option Nat) (keepsFailures : Bool) :
    (fresh engine capacity keepsFailures).Genuine := by
  intro key compilation hkept
  contradiction

/-- Whatever was done to a store before, a look-up gives what its engine makes of the key. -/
theorem lookup_run (engine : Engine) (capacity : Option Nat) (keepsFailures : Bool)
    (operations : List Operation) (key : Key) :
    ∃ before : Store, before.engine = engine ∧
      (((fresh engine capacity keepsFailures).run operations).lookup key).compilation.result =
        (before.compiled key).1 := by
  have hengine := (settings_run engine capacity keepsFailures operations).2.engine
  obtain ⟨hsettled, hgenuine⟩ := run_preserves
    (fun _ _ hsettled hchange => hchange.genuine hsettled)
    (fresh_settled engine capacity keepsFailures)
    (fresh_genuine engine capacity keepsFailures) operations
  obtain ⟨before, hbefore, hresult⟩ := hgenuine.lookup hsettled key
  exact ⟨before, hbefore.trans hengine, hresult⟩

end Store

end BytePattern
