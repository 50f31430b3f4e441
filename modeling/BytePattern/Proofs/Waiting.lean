/-
A store in the midst of a look-up.  While the slot of a key waits to be filled, other keys may be
looked up, and all of them, the one that waits included, are compiled as if they had been looked up
one after the other.
-/
import BytePattern.Proofs.Keeping

namespace BytePattern

namespace Store

variable {store rest after : Store} {key : Key} {keys : List Key} {found : Lookup}
  {result : Except CompileError Compiled}

section LookedUp

/-- Two stores that keep the same compilations and have asked their engines the same. -/
structure Alike (store after : Store) : Prop where
  settings : store.SameSettings after
  requests : after.requests = store.requests
  kept : ∀ key, after.get? key = store.get? key
  size : after.size = store.size

/-- What comes of a store when keys are looked up in it, one after the other: a key that is kept
changes nothing, and another is compiled once. -/
inductive LookedUp : Store → List Key → Store → Prop where
  | done {store after : Store} (halike : store.Alike after) : LookedUp store [] after
  | kept {store after : Store} {key : Key} {keys : List Key}
      (hkept : store.contains key = true) (hrest : LookedUp store keys after) :
      LookedUp store (key :: keys) after
  | compiled {store after : Store} {key : Key} {keys : List Key} {found : Lookup}
      (hunkept : store.contains key = false) (hsettings : store.SameSettings found.store)
      (honce : store.CompiledOnce key found) (hrest : LookedUp found.store keys after) :
      LookedUp store (key :: keys) after

theorem Alike.refl (store : Store) : store.Alike store :=
  ⟨⟨rfl, rfl, rfl⟩, rfl, fun _ => rfl, rfl⟩

theorem Alike.trans {last : Store} (hfirst : store.Alike after) (hsecond : after.Alike last) :
    store.Alike last :=
  ⟨hfirst.settings.trans hsecond.settings, hsecond.requests.trans hfirst.requests,
    fun key => (hsecond.kept key).trans (hfirst.kept key), hsecond.size.trans hfirst.size⟩

theorem Alike.contains_eq (halike : store.Alike after) (key : Key) :
    after.contains key = store.contains key := by
  rw [contains, halike.kept, contains]

theorem Alike.admits_eq (halike : store.Alike after) (compilation : Compilation) :
    after.admits compilation = store.admits compilation := by
  rw [admits, admits, hasRoom, hasRoom, halike.settings.capacity, halike.size,
    halike.settings.keepsFailures]

theorem Alike.compiledOnce (halike : store.Alike after) (honce : after.CompiledOnce key found) :
    store.CompiledOnce key found := by
  obtain ⟨text, htext, hrequests, hresult⟩ := honce.asked
  rw [halike.requests] at hrequests hresult
  rw [halike.settings.engine] at hresult
  refine ⟨⟨text, htext, hrequests, hresult⟩, ?_, ?_⟩
  · intro other
    rw [honce.stored, halike.admits_eq, halike.kept]
  · rw [honce.size, halike.admits_eq, halike.size]

theorem Alike.lookedUp (halike : store.Alike rest) (hlooked : LookedUp rest keys after) :
    LookedUp store keys after := by
  induction hlooked with
  | done hrest => exact .done (halike.trans hrest)
  | kept hkept _ ih => exact .kept ((halike.contains_eq _).symm.trans hkept) (ih halike)
  | compiled hunkept hsettings honce hrest =>
      exact .compiled ((halike.contains_eq _).symm.trans hunkept)
        (halike.settings.trans hsettings) (halike.compiledOnce honce) hrest

theorem LookedUp.alike_of_nil (hlooked : LookedUp store [] after) : store.Alike after := by
  cases hlooked with
  | done halike => exact halike

theorem LookedUp.alike (hlooked : LookedUp store keys rest) (halike : rest.Alike after) :
    LookedUp store keys after := by
  induction hlooked with
  | done hrest => exact .done (hrest.trans halike)
  | kept hkept _ ih => exact .kept hkept (ih halike)
  | compiled hunkept hsettings honce _ ih => exact .compiled hunkept hsettings honce (ih halike)

/-- The engine is asked for keys that are not kept in the order in which they are looked up. -/
theorem LookedUp.requests_eq (hlooked : LookedUp store keys after) (hnodup : keys.Nodup)
    (hunkept : ∀ key ∈ keys, store.contains key = false)
    (henhanced : ∀ key ∈ keys, key.flags.contains .enhanced = true) :
    after.requests =
      (keys.map fun key => (⟨key.text, key.flags⟩ : Request)).reverse ++ store.requests := by
  induction hlooked with
  | done halike => exact halike.requests
  | @kept store after key keys hkept _ _ =>
      rw [hunkept key List.mem_cons_self] at hkept
      contradiction
  | @compiled store after key keys found _ _ honce _ ih =>
      obtain ⟨hfirst, hothers⟩ := List.forall_mem_cons.mp henhanced
      obtain ⟨hnew, hnodup⟩ := List.nodup_cons.mp hnodup
      obtain ⟨text, htext, hrequests, _⟩ := honce.asked
      rw [if_pos hfirst] at htext
      have hrest : ∀ other ∈ keys, found.store.contains other = false := by
        intro other hmem
        have hother : other ≠ key := fun hsame => hnew (hsame ▸ hmem)
        rw [contains, honce.stored, if_neg fun hsame => hother hsame.1]
        exact hunkept other (List.mem_cons_of_mem key hmem)
      rw [ih hnodup hrest hothers, hrequests, htext, List.map_cons, List.reverse_cons,
        List.append_assoc]
      rfl

/-- The store after look-ups of keys. -/
def lookUp (store : Store) (keys : List Key) : Store :=
  store.run (keys.map .lookup)

theorem lookUp_cons (store : Store) (key : Key) (keys : List Key) :
    store.lookUp (key :: keys) = (store.lookup key).store.lookUp keys := rfl

theorem lookUp_append (store : Store) (keys others : List Key) :
    store.lookUp (keys ++ others) = (store.lookUp keys).lookUp others := by
  rw [lookUp, List.map_append, run, List.foldl_append]
  rfl

theorem Settled.lookedUp (hsettled : store.Settled) (keys : List Key) :
    LookedUp store keys (store.lookUp keys) := by
  induction keys generalizing store with
  | nil => exact .done (.refl store)
  | cons key keys ih =>
      have hchange := lookup_change hsettled key
      have hrest := ih (hchange.settled hsettled)
      cases hkept : store.contains key with
      | false => exact .compiled hkept hchange.settings (hsettled.compiledOnce hkept) hrest
      | true =>
          obtain ⟨compilation, hcompilation⟩ := Option.isSome_iff_exists.mp hkept
          rw [lookup_of_kept hsettled hcompilation] at hrest
          rw [lookUp_cons, lookup_of_kept hsettled hcompilation]
          exact .kept hkept hrest

end LookedUp

section Awaiting

variable {waiting : Key → Option Nat}

/-- A store in which the slots of some keys wait to be filled, beside the one that is left when
these are taken off the shelves. -/
structure Awaiting (waiting : Key → Option Nat) (rest store : Store) : Prop where
  settings : rest.SameSettings store
  requests : store.requests = rest.requests
  slots : store.slots = rest.slots
  shelved : ∀ key, store.shelves.slot? key = (waiting key).or (rest.shelves.slot? key)
  unfilled : ∀ key slot, waiting key = some slot →
    rest.shelves.slot? key = none ∧ rest.slots[slot]? = some none

theorem compiled_congr (hsettings : rest.SameSettings store)
    (hrequests : store.requests = rest.requests) (key : Key) :
    store.compiled key = rest.compiled key := by
  rw [compiled, compiled]
  cases key.expanded with
  | error error => rw [compiledFrom, compiledFrom, hrequests]
  | ok text => rw [compiledFrom, compiledFrom, hsettings.engine, hrequests]

theorem Awaiting.content?_eq (hawaiting : Awaiting waiting rest store) :
    store.content? = rest.content? := by
  funext slot
  rw [content?, content?, hawaiting.slots]

theorem Awaiting.slot?_of_free (hawaiting : Awaiting waiting rest store)
    (hfree : waiting key = none) : store.shelves.slot? key = rest.shelves.slot? key := by
  rw [hawaiting.shelved, hfree, Option.none_or]

theorem Awaiting.admits_eq (hawaiting : Awaiting waiting rest store)
    (hunlimited : rest.capacity = none) (compilation : Compilation) :
    store.admits compilation = rest.admits compilation := by
  have hroom := hasRoom_of_unlimited (hawaiting.settings.capacity.trans hunlimited)
  rw [admits, admits, hroom, hasRoom_of_unlimited hunlimited, hawaiting.settings.keepsFailures]

/-- A key that is not kept is compiled alike whether other slots wait or not. -/
theorem Awaiting.lookup_missed (hawaiting : Awaiting waiting rest store)
    (hunlimited : rest.capacity = none) (hfree : waiting key = none)
    (hslot : rest.shelves.slot? key = none) :
    (store.lookup key).compilation = (rest.lookup key).compilation ∧
      (store.lookup key).warnings = (rest.lookup key).warnings ∧
      Awaiting waiting (rest.lookup key).store (store.lookup key).store := by
  have hslot' := (hawaiting.slot?_of_free hfree).trans hslot
  have hrest := Store.lookup_missed hslot
  have hstore := Store.lookup_missed hslot'
  have hcompiled := compiled_congr hawaiting.settings hawaiting.requests key
  have hcompilation : (store.lookup key).compilation = (rest.lookup key).compilation := by
    rw [hstore.compilation, hrest.compilation, hcompiled, hawaiting.slots]
  refine ⟨hcompilation, by rw [hstore.warnings, hrest.warnings, hcompiled], ?_⟩
  constructor
  · have hsettings := hawaiting.settings.trans hstore.settings
    exact ⟨hsettings.engine.trans hrest.settings.engine.symm,
      hsettings.capacity.trans hrest.settings.capacity.symm,
      hsettings.keepsFailures.trans hrest.settings.keepsFailures.symm⟩
  · rw [hstore.requests, hrest.requests, hcompiled]
  · rw [slots_lookup hslot', slots_lookup hslot, hcompiled, hawaiting.slots]
  · intro other
    rw [hstore.shelved, hrest.shelved, hawaiting.admits_eq hunlimited, hcompilation,
      hawaiting.slots]
    split
    · next hnew => rw [hnew.1, hfree, Option.none_or]
    · exact hawaiting.shelved other
  · intro other slot hwaiting
    obtain ⟨hunshelved, hunfilled⟩ := hawaiting.unfilled other slot hwaiting
    have hlt : slot < rest.slots.length := (List.getElem?_eq_some_iff.mp hunfilled).1
    have hother : other ≠ key := by
      rintro rfl
      rw [hfree] at hwaiting
      contradiction
    constructor
    · rw [hrest.shelved, if_neg fun hnew => hother hnew.1, hunshelved]
    · rw [slots_lookup hslot, List.getElem?_append_left hlt, hunfilled]

/-- A look-up of another key does the same whether slots wait or not. -/
theorem Awaiting.lookup (hawaiting : Awaiting waiting rest store) (hsettled : rest.Settled)
    (hunlimited : rest.capacity = none) (hfree : waiting key = none) :
    (store.lookup key).compilation = (rest.lookup key).compilation ∧
      (store.lookup key).warnings = (rest.lookup key).warnings ∧
      Awaiting waiting (rest.lookup key).store (store.lookup key).store := by
  cases hkept : rest.get? key with
  | some compilation =>
      have hsame : store.get? key = some compilation := by
        rw [← hkept, get?, get?, hawaiting.slot?_of_free hfree, hawaiting.content?_eq]
      have hkeep := hsettled.keeps_result hkept
      rw [← hawaiting.settings.keepsFailures] at hkeep
      rw [lookup_of_get? hsame hkeep, lookup_of_kept hsettled hkept]
      exact ⟨rfl, rfl, hawaiting⟩
  | none => exact hawaiting.lookup_missed hunlimited hfree (hsettled.slot?_of_unkept hkept)

/-- The store with a new number that no slot has yet. -/
def numbered (store : Store) : Store :=
  { store with slots := store.slots ++ [none] }

/-- Only this key waits, for this slot. -/
def waitingAt (key : Key) (slot : Nat) (other : Key) : Option Nat :=
  if other = key then some slot else none

theorem content?_numbered (store : Store) : store.numbered.content? = store.content? := by
  funext slot
  rw [content?, content?, numbered]
  congr 1
  rcases Nat.lt_trichotomy slot store.slots.length with hlt | rfl | hgt
  · rw [List.getElem?_append_left hlt]
  · rw [List.getElem?_concat_length, List.getElem?_eq_none (Nat.le_refl _)]
    rfl
  · have hlength : (store.slots ++ [none]).length ≤ slot := by
      rwa [List.length_append, List.length_singleton]
    rw [List.getElem?_eq_none hlength, List.getElem?_eq_none (Nat.le_of_lt hgt)]

theorem get?_numbered (store : Store) (key : Key) : store.numbered.get? key = store.get? key := by
  rw [get?, content?_numbered]
  rfl

theorem alike_numbered (store : Store) : store.Alike store.numbered :=
  ⟨⟨rfl, rfl, rfl⟩, rfl, get?_numbered store, rfl⟩

theorem Settled.numbered (hsettled : store.Settled) : store.numbered.Settled := by
  refine ⟨?_, hsettled.apart, hsettled.within, ?_⟩
  · rw [content?_numbered]
    exact hsettled.filled
  · intro hfailures key compilation hkept
    rw [get?_numbered] at hkept
    exact hsettled.succeeded hfailures key compilation hkept

theorem Genuine.numbered (hgenuine : store.Genuine) : store.numbered.Genuine := by
  intro key compilation hkept
  rw [get?_numbered] at hkept
  exact hgenuine key compilation hkept

/-- The slot that is opened for a key waits. -/
theorem awaiting_opened (hunlimited : store.capacity = none)
    (hslot : store.shelves.slot? key = none) :
    Awaiting (waitingAt key store.slots.length) store.numbered (store.opened key) := by
  refine ⟨⟨rfl, rfl, rfl⟩, rfl, rfl, ?_, ?_⟩
  · intro other
    rw [opened, if_pos (hasRoom_of_unlimited hunlimited), Shelves.slot?_insert, waitingAt]
    split <;> rfl
  · intro other slot hwaiting
    rw [waitingAt] at hwaiting
    split at hwaiting
    · next hother =>
      obtain rfl := Option.some.inj hwaiting
      rw [hother]
      exact ⟨hslot, List.getElem?_concat_length⟩
    · contradiction

theorem content?_set {slot : Nat} (hslot : slot < store.slots.length)
    (hslots : after.slots = store.slots.set slot (some result)) (other : Nat) :
    after.content? other =
      if other = slot then some ⟨slot, result⟩ else store.content? other := by
  rw [content?, content?, hslots]
  split
  · next hother =>
    rw [hother, List.getElem?_set_self hslot]
    rfl
  · next hother => rw [List.getElem?_set_ne (Ne.symm hother)]

/-- Filling the slot that waits compiles the key, as if it had been looked up in the store that is
left when the slot is taken off the shelves. -/
theorem Awaiting.missed {slot : Nat} (hawaiting : Awaiting (waitingAt key slot) rest store)
    (hunlimited : rest.capacity = none) :
    rest.Missed key slot ((store.fillFrom key slot key.expanded).close key slot) := by
  obtain ⟨hunshelved, hunfilled⟩ := hawaiting.unfilled key slot (if_pos rfl)
  have hempty : rest.content? slot = none := by
    rw [content?, hunfilled]
    rfl
  have hlt : slot < rest.slots.length := (List.getElem?_eq_some_iff.mp hunfilled).1
  have hroom := hasRoom_of_unlimited hunlimited
  have hwaits : store.shelves.slot? key = some slot := by
    rw [hawaiting.shelved, waitingAt, if_pos rfl, Option.some_or]
  have hcompiled := compiled_congr hawaiting.settings hawaiting.requests key
  obtain ⟨hengine, hcapacity, hfailures⟩ := hawaiting.settings
  rw [fillFrom_expanded, hcompiled, hawaiting.slots, Lookup.close]
  cases hkeep : (⟨slot, (rest.compiled key).1⟩ : Compilation).succeeded || store.keepsFailures with
  | true =>
      simp only [↓reduceIte]
      refine ⟨⟨hengine, hcapacity, hfailures⟩, rfl, rfl, rfl, hempty, content?_set hlt rfl, ?_⟩
      intro other
      rw [hfailures] at hkeep
      simp only [admits, hroom, hkeep, Bool.and_true, and_true, hawaiting.shelved, waitingAt]
      split <;> rfl
  | false =>
      simp only [Bool.false_eq_true, ↓reduceIte, removeSlot, hwaits]
      refine ⟨⟨hengine, hcapacity, hfailures⟩, rfl, rfl, rfl, hempty, content?_set hlt rfl, ?_⟩
      intro other
      rw [hfailures] at hkeep
      simp only [admits, hkeep, Bool.and_false, Bool.false_eq_true, and_false, ↓reduceIte,
        Shelves.slot?_remove, hawaiting.shelved, waitingAt]
      split
      · next hother => rw [hother, hunshelved]
      · rfl

/-- No key waits. -/
def noneWaiting (_ : Key) : Option Nat :=
  none

section NoneWaiting

variable (hawaiting : Awaiting noneWaiting rest store)
include hawaiting

theorem Awaiting.slot?_eq (key : Key) : store.shelves.slot? key = rest.shelves.slot? key :=
  hawaiting.slot?_of_free rfl

theorem Awaiting.get?_eq (key : Key) : store.get? key = rest.get? key := by
  rw [get?, get?, hawaiting.slot?_eq, hawaiting.content?_eq]

theorem Awaiting.alike : rest.Alike store := by
  refine ⟨hawaiting.settings, hawaiting.requests, hawaiting.get?_eq, ?_⟩
  exact Nat.le_antisymm (Shelves.count_le fun other => hawaiting.slot?_eq other ▸ id)
    (Shelves.count_le fun other => hawaiting.slot?_eq other ▸ id)

theorem Awaiting.settled (hsettled : rest.Settled) : store.Settled := by
  refine ⟨?_, ?_, ?_, ?_⟩
  · intro key slot hslot
    rw [hawaiting.slot?_eq] at hslot
    rw [hawaiting.content?_eq]
    exact hsettled.filled key slot hslot
  · intro key other slot hkey hother
    rw [hawaiting.slot?_eq] at hkey hother
    exact hsettled.apart key other slot hkey hother
  · intro limit hlimit
    rw [hawaiting.settings.capacity] at hlimit
    rw [hawaiting.alike.size]
    exact hsettled.within limit hlimit
  · intro hfailures key compilation hkept
    rw [hawaiting.settings.keepsFailures] at hfailures
    rw [hawaiting.get?_eq] at hkept
    exact hsettled.succeeded hfailures key compilation hkept

theorem Awaiting.genuine (hgenuine : rest.Genuine) : store.Genuine := by
  intro key compilation hkept
  rw [hawaiting.get?_eq] at hkept
  rw [hawaiting.settings.engine]
  exact hgenuine key compilation hkept

end NoneWaiting

theorem awaiting_self (store : Store) : Awaiting noneWaiting store store := by
  refine ⟨⟨rfl, rfl, rfl⟩, rfl, rfl, ?_, ?_⟩
  · intro key
    rw [noneWaiting, Option.none_or]
  · intro key slot hwaiting
    contradiction

end Awaiting

end Store

end BytePattern
