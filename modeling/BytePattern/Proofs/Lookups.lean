/-
One request to a settled store: a key that is kept is answered from its slot, and one that is not is
compiled once and kept if it may be.
-/
import BytePattern.Proofs.Counting
import BytePattern.Store

namespace BytePattern

namespace Store

variable {store after : Store} {key : Key} {compilation : Compilation}
  {result : Except CompileError Compiled}

/-- Between requests every slot that is kept is filled, belongs to one key, and holds a success
unless failures are kept too. -/
structure Settled (store : Store) : Prop where
  filled : ∀ key slot, store.shelves.slot? key = some slot → (store.content? slot).isSome
  apart : ∀ key other slot, store.shelves.slot? key = some slot →
    store.shelves.slot? other = some slot → other = key
  within : ∀ limit, store.capacity = some limit → store.size ≤ limit
  succeeded : store.keepsFailures = false →
    ∀ key compilation, store.get? key = some compilation → compilation.succeeded = true

/-- The settings of a store, which no request changes. -/
structure SameSettings (store after : Store) : Prop where
  engine : after.engine = store.engine
  capacity : after.capacity = store.capacity
  keepsFailures : after.keepsFailures = store.keepsFailures

theorem SameSettings.trans {last : Store} (hfirst : store.SameSettings after)
    (hsecond : after.SameSettings last) : store.SameSettings last :=
  ⟨hsecond.engine.trans hfirst.engine, hsecond.capacity.trans hfirst.capacity,
    hsecond.keepsFailures.trans hfirst.keepsFailures⟩

/-- Whether a new compilation may be kept. -/
def admits (store : Store) (compilation : Compilation) : Bool :=
  store.hasRoom && (compilation.succeeded || store.keepsFailures)

/-- All that compiling a key that is not kept into a new slot does. -/
structure Missed (store : Store) (key : Key) (slot : Nat) (found : Lookup) : Prop where
  settings : store.SameSettings found.store
  compilation : found.compilation = ⟨slot, (store.compiled key).1⟩
  warnings : found.warnings = key.warnings (store.compiled key).1
  requests : found.store.requests = (store.compiled key).2
  unfilled : store.content? slot = none
  filled : ∀ other, found.store.content? other =
    if other = slot then some found.compilation else store.content? other
  shelved : ∀ other, found.store.shelves.slot? other =
    if other = key ∧ store.admits found.compilation = true then some slot
    else store.shelves.slot? other

theorem hasRoom_of_unlimited (hunlimited : store.capacity = none) : store.hasRoom = true := by
  rw [hasRoom, hunlimited]
  rfl

theorem get?_eq_some_iff : store.get? key = some compilation ↔
    store.shelves.slot? key = some compilation.serial ∧
      store.content? compilation.serial = some compilation := by
  rw [get?, Option.bind_eq_some_iff]
  constructor
  · rintro ⟨slot, hslot, hcontent⟩
    obtain ⟨result, _, rfl⟩ := Option.map_eq_some_iff.mp hcontent
    exact ⟨hslot, hcontent⟩
  · rintro ⟨hslot, hcontent⟩
    exact ⟨_, hslot, hcontent⟩

theorem Settled.slot?_of_unkept (hsettled : store.Settled) (hunkept : store.get? key = none) :
    store.shelves.slot? key = none := by
  cases hslot : store.shelves.slot? key with
  | none => rfl
  | some slot =>
      obtain ⟨compilation, hcontent⟩ :=
        Option.isSome_iff_exists.mp (hsettled.filled key slot hslot)
      rw [get?, hslot, Option.bind_some, hcontent] at hunkept
      contradiction

theorem lookup_of_get? (hkept : store.get? key = some compilation)
    (hkeep : (compilation.succeeded || store.keepsFailures) = true) :
    store.lookup key = ⟨store, compilation, []⟩ := by
  obtain ⟨hslot, hcontent⟩ := get?_eq_some_iff.mp hkept
  simp only [lookup, openSlot, hslot, fill, hcontent, Lookup.close, hkeep, ↓reduceIte]

theorem Settled.keeps_result (hsettled : store.Settled)
    (hkept : store.get? key = some compilation) :
    (compilation.succeeded || store.keepsFailures) = true := by
  cases hfailures : store.keepsFailures with
  | true => exact Bool.or_true _
  | false =>
      rw [hsettled.succeeded hfailures key compilation hkept]
      rfl

/-- What is kept is given out again, and nothing else happens. -/
theorem lookup_of_kept (hsettled : store.Settled) (hkept : store.get? key = some compilation) :
    store.lookup key = ⟨store, compilation, []⟩ :=
  lookup_of_get? hkept (hsettled.keeps_result hkept)

/-- The store with a new slot for a key, which is on the shelves if there is room. -/
def opened (store : Store) (key : Key) : Store :=
  { store with
    shelves := if store.hasRoom then store.shelves.insert key store.slots.length else store.shelves
    slots := store.slots ++ [none] }

/-- The store after the new slot of a key is filled. -/
def compiledInto (store : Store) (key : Key) : Store :=
  { store.opened key with
    slots := store.slots ++ [some (store.compiled key).1]
    requests := (store.compiled key).2 }

theorem shelves_compiledInto (store : Store) (key : Key) :
    (store.compiledInto key).shelves =
      if store.hasRoom then store.shelves.insert key store.slots.length else store.shelves := rfl

theorem fillFrom_expanded (store : Store) (key : Key) (slot : Nat) :
    store.fillFrom key slot key.expanded =
      { store := { store with
          slots := store.slots.set slot (some (store.compiled key).1)
          requests := (store.compiled key).2 }
        compilation := ⟨slot, (store.compiled key).1⟩
        warnings := key.warnings (store.compiled key).1 } := rfl

theorem content?_opened (store : Store) (key : Key) :
    (store.opened key).content? store.slots.length = none := by
  simp [content?, opened]

theorem fill_opened (store : Store) (key : Key) :
    (store.opened key).fill key store.slots.length =
      { store := store.compiledInto key
        compilation := ⟨store.slots.length, (store.compiled key).1⟩
        warnings := key.warnings (store.compiled key).1 } := by
  have hfilled : (store.opened key).slots.set store.slots.length (some (store.compiled key).1) =
      store.slots ++ [some (store.compiled key).1] := by
    simp [opened]
  rw [fill, content?_opened, compiledInto, ← hfilled]
  exact fillFrom_expanded (store.opened key) key store.slots.length

/-- What is put on the shelves for a key that had no slot is taken off them again, and all else
stays. -/
theorem slot?_removeSlot_compiledInto (hslot : store.shelves.slot? key = none) (other : Key) :
    ((store.compiledInto key).removeSlot key store.slots.length).1.shelves.slot? other =
      store.shelves.slot? other := by
  have hshelves := shelves_compiledInto store key
  cases hroom : store.hasRoom with
  | false =>
      have hsame : (store.compiledInto key).shelves = store.shelves := by rw [hshelves, hroom]; rfl
      rw [removeSlot, hsame, hslot, hsame]
  | true =>
      have hput : (store.compiledInto key).shelves =
          store.shelves.insert key store.slots.length := by rw [hshelves, hroom]; rfl
      rw [removeSlot, hput, Shelves.slot?_insert, if_pos rfl]
      simp only [↓reduceIte, Shelves.slot?_remove, Shelves.slot?_insert]
      by_cases hother : other = key <;> simp [hother, hslot]

theorem removeSlot_eq (store : Store) (key : Key) (slot : Nat) :
    (store.removeSlot key slot).1 =
      { store with shelves := (store.removeSlot key slot).1.shelves } := by
  rw [removeSlot]
  split
  · split <;> rfl
  · rfl

theorem openSlot_of_no_slot (hslot : store.shelves.slot? key = none) :
    store.openSlot key = (store.opened key, store.slots.length) := by
  simp only [openSlot, insertSlot, hslot]
  rfl

/-- A look-up of a key that has no slot compiles it into one opened for it. -/
theorem lookup_of_no_slot (hslot : store.shelves.slot? key = none) :
    store.lookup key =
      ((store.opened key).fill key store.slots.length).close key store.slots.length := by
  simp only [lookup, openSlot_of_no_slot hslot]

theorem content?_concat (hslots : after.slots = store.slots ++ [some result]) (slot : Nat) :
    after.content? slot =
      if slot = store.slots.length then some ⟨store.slots.length, result⟩
      else store.content? slot := by
  rw [content?, content?, hslots]
  split
  · next hslot =>
    rw [hslot, List.getElem?_concat_length]
    rfl
  · next hslot =>
    rcases Nat.lt_or_gt_of_ne hslot with hlt | hgt
    · rw [List.getElem?_append_left hlt]
    · have hlength : (store.slots ++ [some result]).length ≤ slot := by
        rwa [List.length_append, List.length_singleton]
      rw [List.getElem?_eq_none hlength, List.getElem?_eq_none (Nat.le_of_lt hgt)]

theorem slots_lookup (hslot : store.shelves.slot? key = none) :
    (store.lookup key).store.slots = store.slots ++ [some (store.compiled key).1] := by
  rw [lookup_of_no_slot hslot, fill_opened, Lookup.close]
  dsimp only
  split
  · rfl
  · rw [removeSlot_eq]
    rfl

theorem lookup_missed (hslot : store.shelves.slot? key = none) :
    store.Missed key store.slots.length (store.lookup key) := by
  have hunfilled : store.content? store.slots.length = none := by
    rw [content?, List.getElem?_eq_none (Nat.le_refl _)]
    rfl
  have hfilled := content?_concat (slots_lookup hslot)
  rw [lookup_of_no_slot hslot, fill_opened, Lookup.close] at hfilled ⊢
  -- A result that is kept leaves its slot where it was put, and another has it taken back.
  cases hkeep : (⟨store.slots.length, (store.compiled key).1⟩ : Compilation).succeeded ||
      (store.compiledInto key).keepsFailures with
  | true =>
      simp only [hkeep, ↓reduceIte] at hfilled ⊢
      refine ⟨⟨rfl, rfl, rfl⟩, rfl, rfl, rfl, hunfilled, hfilled, ?_⟩
      intro other
      have hkeep' : (_ || store.keepsFailures) = true := hkeep
      simp only [admits, hkeep', Bool.and_true, shelves_compiledInto]
      cases store.hasRoom <;> simp [Shelves.slot?_insert]
  | false =>
      simp only [hkeep, Bool.false_eq_true, ↓reduceIte] at hfilled ⊢
      rw [removeSlot_eq] at hfilled ⊢
      refine ⟨⟨rfl, rfl, rfl⟩, rfl, rfl, rfl, hunfilled, hfilled, ?_⟩
      intro other
      have hkeep' : (_ || store.keepsFailures) = false := hkeep
      simp only [slot?_removeSlot_compiledInto hslot, admits, hkeep', Bool.and_false,
        Bool.false_eq_true, and_false, ↓reduceIte]

section Missed

variable {slot : Nat} {found : Lookup}

theorem lt_of_content? (hcontent : (store.content? slot).isSome) :
    slot < store.slots.length := by
  by_contra hlt
  rw [content?, List.getElem?_eq_none (Nat.le_of_not_lt hlt)] at hcontent
  contradiction

/-- A new slot leaves the slots that are filled as they are. -/
theorem Missed.content?_eq (hmissed : store.Missed key slot found) {other : Nat}
    (hcontent : (store.content? other).isSome) :
    found.store.content? other = store.content? other := by
  rw [hmissed.filled, if_neg]
  rintro rfl
  rw [hmissed.unfilled] at hcontent
  contradiction

theorem Missed.content?_new (hmissed : store.Missed key slot found) :
    found.store.content? slot = some found.compilation := by
  rw [hmissed.filled, if_pos rfl]

/-- The stored keys are the old ones, and the new one if its compilation may be kept. -/
theorem Missed.get?_eq (hsettled : store.Settled) (hmissed : store.Missed key slot found)
    (other : Key) :
    found.store.get? other =
      if other = key ∧ store.admits found.compilation = true then some found.compilation
      else store.get? other := by
  rw [get?, hmissed.shelved other]
  split
  · exact hmissed.content?_new
  · cases hslot : store.shelves.slot? other with
    | none => rw [get?, hslot]; rfl
    | some kept =>
        rw [Option.bind_some, hmissed.content?_eq (hsettled.filled other kept hslot), get?, hslot]
        rfl

theorem Missed.size_eq (hslot : store.shelves.slot? key = none)
    (hmissed : store.Missed key slot found) :
    found.store.size = store.size + if store.admits found.compilation = true then 1 else 0 := by
  have hshelved := hmissed.shelved
  split
  · next hadmits =>
    refine Shelves.count_of_added hslot ?_
    intro other
    rw [hshelved]
    by_cases hother : other = key <;> simp [hother, hadmits]
  · next hadmits =>
    have hsame (other : Key) : found.store.shelves.slot? other = store.shelves.slot? other := by
      rw [hshelved, if_neg fun hother => hadmits hother.2]
    exact Nat.le_antisymm (Shelves.count_le fun other => hsame other ▸ id)
      (Shelves.count_le fun other => hsame other ▸ id)

theorem Missed.settled (hsettled : store.Settled) (hslot : store.shelves.slot? key = none)
    (hmissed : store.Missed key slot found) : found.store.Settled := by
  refine ⟨?_, ?_, ?_, ?_⟩
  · intro other kept hother
    rw [hmissed.shelved] at hother
    split at hother
    · obtain rfl := Option.some.inj hother
      rw [hmissed.content?_new]
      rfl
    · have hfilled := hsettled.filled other kept hother
      rwa [hmissed.content?_eq hfilled]
  · intro first second kept hfirst hsecond
    rw [hmissed.shelved] at hfirst hsecond
    -- The new slot was not filled, and so was on no shelf.
    have hnew (other : Key) : store.shelves.slot? other ≠ some slot := by
      intro hother
      have hfilled := hsettled.filled other slot hother
      rw [hmissed.unfilled] at hfilled
      contradiction
    split at hfirst
    · next hkey =>
      obtain rfl := Option.some.inj hfirst
      split at hsecond
      · next hkey' => exact hkey'.1.trans hkey.1.symm
      · exact absurd hsecond (hnew second)
    · split at hsecond
      · obtain rfl := Option.some.inj hsecond
        exact absurd hfirst (hnew first)
      · exact hsettled.apart first second kept hfirst hsecond
  · intro limit hlimit
    rw [hmissed.settings.capacity] at hlimit
    have hwithin := hsettled.within limit hlimit
    rw [hmissed.size_eq hslot]
    split
    · next hadmits =>
      have hroom : store.hasRoom = true := (Bool.and_eq_true_iff.mp hadmits).1
      rw [hasRoom, hlimit] at hroom
      exact of_decide_eq_true hroom
    · exact hwithin
  · intro hfailures other compilation hkept
    rw [hmissed.settings.keepsFailures] at hfailures
    rw [hmissed.get?_eq hsettled] at hkept
    split at hkept
    · next hkey =>
      obtain rfl := Option.some.inj hkept
      have hkeep := (Bool.and_eq_true_iff.mp hkey.2).2
      rwa [hfailures, Bool.or_false] at hkeep
    · exact hsettled.succeeded hfailures other compilation hkept

end Missed

theorem invalidate_of_unkept (hunkept : store.get? key = none) :
    store.invalidate key = (store, false) := by
  rw [invalidate, hunkept]

theorem invalidate_of_succeeded (hkept : store.get? key = some compilation)
    (hsucceeded : compilation.succeeded = true) : store.invalidate key = (store, false) := by
  rw [invalidate, hkept]
  exact if_pos hsucceeded

theorem invalidate_of_failed (hkept : store.get? key = some compilation)
    (hfailed : compilation.succeeded = false) :
    store.invalidate key = ({ store with shelves := store.shelves.remove key }, true) := by
  obtain ⟨hslot, _⟩ := get?_eq_some_iff.mp hkept
  simp only [invalidate, hkept, hfailed, Bool.false_eq_true, ↓reduceIte, removeSlot, hslot]

/-- What is kept under other keys stays when a key is forgotten. -/
theorem get?_remove (store : Store) (key other : Key) :
    ({ store with shelves := store.shelves.remove key } : Store).get? other =
      if other = key then none else store.get? other := by
  simp only [get?, Shelves.slot?_remove]
  split
  · rfl
  · rfl

theorem remove_settled (hsettled : store.Settled) (key : Key) :
    ({ store with shelves := store.shelves.remove key } : Store).Settled := by
  have hslot {other : Key} {slot : Nat}
      (hother : (store.shelves.remove key).slot? other = some slot) :
      store.shelves.slot? other = some slot := by
    rw [Shelves.slot?_remove] at hother
    split at hother
    · contradiction
    · exact hother
  refine ⟨?_, ?_, ?_, ?_⟩
  · intro other slot hother
    exact hsettled.filled other slot (hslot hother)
  · intro first second slot hfirst hsecond
    exact hsettled.apart first second slot (hslot hfirst) (hslot hsecond)
  · intro limit hlimit
    refine Nat.le_trans (Shelves.count_le fun other hother => ?_) (hsettled.within limit hlimit)
    obtain ⟨slot, hother⟩ := Option.isSome_iff_exists.mp hother
    rw [hslot hother]
    rfl
  · intro hfailures other compilation hkept
    rw [get?_remove] at hkept
    split at hkept
    · contradiction
    · exact hsettled.succeeded hfailures other compilation hkept

end Store

end BytePattern
