/-
The keys on the shelves of a store.  Each is counted once, whatever its flags.
-/
import BytePattern.Shelves
import Mathlib.Data.List.Nodup
import Mathlib.Data.List.Perm.Subperm

namespace BytePattern

namespace Shelves

variable {shelves after : Shelves} {key : Key}

/-- The keys that have a slot. -/
def keys (shelves : Shelves) : List Key :=
  shelves.byFlags.rows.flatMap fun shelf => shelf.2.rows.map fun row => ⟨shelf.1, row.1⟩

theorem mem_keys_iff : key ∈ shelves.keys ↔ (shelves.slot? key).isSome := by
  simp only [keys, List.mem_flatMap, List.mem_map, slot?, Option.isSome_iff_exists,
    Option.bind_eq_some_iff, ← Table.mem_rows_iff]
  constructor
  · rintro ⟨shelf, hshelf, row, hrow, rfl⟩
    exact ⟨row.2, shelf.2, hshelf, hrow⟩
  · rintro ⟨slot, byText, hshelf, hrow⟩
    exact ⟨_, hshelf, _, hrow, rfl⟩

theorem length_keys (shelves : Shelves) : shelves.keys.length = shelves.count := by
  simp only [keys, count, List.length_flatMap, List.length_map, Table.size, List.sum_eq_foldr]

theorem keys_nodup (shelves : Shelves) : shelves.keys.Nodup := by
  rw [keys, List.nodup_flatMap]
  constructor
  · intro shelf _
    have htexts : (shelf.2.rows.map fun row => (⟨shelf.1, row.1⟩ : Key)) =
        (shelf.2.rows.map Prod.fst).map (Key.mk shelf.1) := by
      rw [List.map_map]
      rfl
    rw [htexts]
    exact shelf.2.distinct.map fun first second heq => (Key.mk.inj heq).2
  · refine (List.pairwise_map.mp shelves.byFlags.distinct).imp ?_
    intro shelf shelf' hflags key hfirst hsecond
    obtain ⟨row, _, rfl⟩ := List.mem_map.mp hfirst
    obtain ⟨row', _, heq⟩ := List.mem_map.mp hsecond
    exact hflags (Key.mk.inj heq).1.symm

/-- Fewer keys have no more slots. -/
theorem count_le (hfewer : ∀ other, (after.slot? other).isSome → (shelves.slot? other).isSome) :
    after.count ≤ shelves.count := by
  have hsubset : after.keys ⊆ shelves.keys := by
    intro other hother
    exact mem_keys_iff.mpr (hfewer other (mem_keys_iff.mp hother))
  rw [← length_keys, ← length_keys]
  exact (List.subperm_of_subset after.keys_nodup hsubset).length_le

/-- A key that had no slot adds one. -/
theorem count_of_added (habsent : shelves.slot? key = none)
    (hadded : ∀ other, (after.slot? other).isSome ↔ other = key ∨ (shelves.slot? other).isSome) :
    after.count = shelves.count + 1 := by
  have hfresh : key ∉ shelves.keys := by simp [mem_keys_iff, habsent]
  have hperm : after.keys.Perm (key :: shelves.keys) := by
    rw [List.perm_ext_iff_of_nodup after.keys_nodup
      (List.nodup_cons.mpr ⟨hfresh, shelves.keys_nodup⟩)]
    intro other
    rw [mem_keys_iff, hadded, List.mem_cons, mem_keys_iff]
  rw [← length_keys, ← length_keys, hperm.length_eq, List.length_cons]

end Shelves

end BytePattern
