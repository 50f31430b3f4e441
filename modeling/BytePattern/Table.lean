/-
Tables, with at most one value under each name.
-/
namespace BytePattern

/-- Values by name.  No name occurs twice. -/
structure Table (α β : Type) where
  rows : List (α × β)
  distinct : (rows.map Prod.fst).Nodup

namespace Table

variable {α β : Type}

/-- The table without any value. -/
def empty : Table α β := ⟨[], List.nodup_nil⟩

/-- The number of names. -/
def size (table : Table α β) : Nat :=
  table.rows.length

variable [DecidableEq α]

/-- The value under a name. -/
def get? (table : Table α β) (name : α) : Option β :=
  (table.rows.find? (·.1 = name)).map (·.2)

/-- The table without the value under a name. -/
def remove (table : Table α β) (name : α) : Table α β where
  rows := table.rows.filter (·.1 ≠ name)
  distinct := (List.filter_sublist.map Prod.fst).nodup table.distinct

/-- The table with a value put under a name, in place of the one that was there. -/
def put (table : Table α β) (name : α) (value : β) : Table α β where
  rows := (table.remove name).rows ++ [(name, value)]
  distinct := by
    rw [List.map_append, List.nodup_append]
    refine ⟨(table.remove name).distinct, List.pairwise_singleton _ name, ?_⟩
    intro other hother last hlast
    obtain ⟨row, hrow, rfl⟩ := List.mem_map.mp hother
    obtain rfl := List.mem_singleton.mp hlast
    exact of_decide_eq_true (List.mem_filter.mp hrow).2

@[simp] theorem get?_empty (name : α) : (empty : Table α β).get? name = none := rfl

theorem mem_rows_iff {table : Table α β} {name : α} {value : β} :
    (name, value) ∈ table.rows ↔ table.get? name = some value := by
  obtain ⟨rows, hdistinct⟩ := table
  induction rows with
  | nil => simp [get?]
  | cons row rows ih =>
      rw [List.map_cons, List.nodup_cons] at hdistinct
      have hrest := ih hdistinct.2
      simp only [get?, List.find?_cons] at hrest ⊢
      by_cases hname : row.1 = name
      · subst hname
        have habsent : (row.1, value) ∉ rows :=
          fun hmem => hdistinct.1 (List.mem_map.mpr ⟨_, hmem, rfl⟩)
        simp [habsent, Prod.ext_iff, eq_comm]
      · have hother : (name, value) ≠ row := fun heq => hname (congrArg Prod.fst heq).symm
        simpa [hname, hother] using hrest

theorem get?_remove (table : Table α β) (name other : α) :
    (table.remove name).get? other = if other = name then none else table.get? other := by
  apply Option.ext
  intro value
  rw [← mem_rows_iff, remove, List.mem_filter, mem_rows_iff]
  by_cases hother : other = name <;> simp [hother]

theorem get?_put (table : Table α β) (name other : α) (value : β) :
    (table.put name value).get? other = if other = name then some value else table.get? other := by
  apply Option.ext
  intro found
  rw [← mem_rows_iff, put, List.mem_append, mem_rows_iff, get?_remove, List.mem_singleton,
    Prod.mk.injEq]
  by_cases hother : other = name <;> simp [hother, eq_comm]

end Table

end BytePattern
