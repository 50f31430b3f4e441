/-
The places where a store keeps its slots: by flags, and then by text.
-/
import BytePattern.Flags
import BytePattern.Table

namespace BytePattern

/-- What a compiled pattern is stored under. -/
structure Key where
  flags : Flags
  text : String
deriving DecidableEq, Repr, Inhabited

/-- The numbers of slots, by flags and then by text. -/
structure Shelves where
  byFlags : Table Flags (Table String Nat)

namespace Shelves

/-- Shelves without a slot. -/
def empty : Shelves := ⟨.empty⟩

/-- The slot under a key. -/
def slot? (shelves : Shelves) (key : Key) : Option Nat :=
  (shelves.byFlags.get? key.flags).bind (·.get? key.text)

/-- The number of slots, summed over the flags. -/
def count (shelves : Shelves) : Nat :=
  (shelves.byFlags.rows.map (·.2.size)).foldr (· + ·) 0

/-- The shelves with a slot put under a key. -/
def insert (shelves : Shelves) (key : Key) (slot : Nat) : Shelves :=
  let byText := (shelves.byFlags.get? key.flags).getD .empty
  ⟨shelves.byFlags.put key.flags (byText.put key.text slot)⟩

/-- The shelves without the slot under a key.  The table for the flags stays, even if nothing is
left in it. -/
def remove (shelves : Shelves) (key : Key) : Shelves :=
  match shelves.byFlags.get? key.flags with
  | some byText => ⟨shelves.byFlags.put key.flags (byText.remove key.text)⟩
  | none => shelves

theorem slot?_insert (shelves : Shelves) (key other : Key) (slot : Nat) :
    (shelves.insert key slot).slot? other =
      if other = key then some slot else shelves.slot? other := by
  obtain ⟨flags, text⟩ := key
  obtain ⟨flags', text'⟩ := other
  simp only [slot?, insert, Table.get?_put, Key.mk.injEq]
  by_cases hflags : flags' = flags
  · subst hflags
    cases shelves.byFlags.get? flags' <;> simp [Table.get?_put]
  · simp [hflags]

theorem slot?_remove (shelves : Shelves) (key other : Key) :
    (shelves.remove key).slot? other = if other = key then none else shelves.slot? other := by
  obtain ⟨flags, text⟩ := key
  obtain ⟨flags', text'⟩ := other
  simp only [slot?, remove, Key.mk.injEq]
  cases hbyText : shelves.byFlags.get? flags with
  | none => by_cases hflags : flags' = flags <;> simp [hflags, hbyText]
  | some byText =>
      simp only [Table.get?_put]
      by_cases hflags : flags' = flags <;> simp [hflags, hbyText, Table.get?_remove]

end Shelves

end BytePattern
