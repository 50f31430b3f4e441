/-
The groups of one match.
-/
import BytePattern.Bytes

namespace BytePattern

/-- The span of every group of a match, group 0 being the whole match.  A group that took no part
in the match has no span. -/
structure Captures where
  groups : List (Option Span)
deriving DecidableEq, Repr, Inhabited

namespace Captures

/-- The span of a group, if it exists and is set. -/
def group (caps : Captures) (index : Nat) : Option Span :=
  caps.groups[index]?.join

/-- The span of the whole match. -/
def range (caps : Captures) : Span :=
  (caps.group 0).getD ⟨0, 0⟩

/-- The number of groups, set or not. -/
def groupLen (caps : Captures) : Nat :=
  caps.groups.length

/-- The text of a group. -/
def text? (caps : Captures) (haystack : Bytes) (index : Nat) : Option Bytes :=
  (caps.group index).bind haystack.text?

/-- The texts of all groups in order. -/
def texts (caps : Captures) (haystack : Bytes) : List (Option Bytes) :=
  caps.groups.map (·.bind haystack.text?)

/-- The captures as seen from a haystack that starts `offset` bytes earlier. -/
def shift (caps : Captures) (offset : Nat) : Captures :=
  ⟨caps.groups.map (·.map (·.shift offset))⟩

/-- The captures as seen from a haystack that starts `offset` bytes earlier, where only `count`
positions are told apart.  Without an offset nothing is counted again. -/
def wrap (caps : Captures) (count offset : Nat) : Captures :=
  if offset = 0 then caps else ⟨caps.groups.map (·.map (·.wrap count offset))⟩

/-- Whether every span can be moved to the right without leaving the positions there are. -/
def Fits (caps : Captures) (count offset : Nat) : Prop :=
  ∀ index span, caps.group index = some span → span.Fits count offset

/-- The captures that slots hold, two for each group: where it starts and where it ends.  A group
without slots, or with one that is not set, is unset. -/
def ofSlots (groupLen : Nat) (slots : List (Option Nat)) : Captures :=
  ⟨(List.range groupLen).map fun index =>
    match slots[2 * index]?, slots[2 * index + 1]? with
    | some (some start), some (some stop) => some ⟨start, stop⟩
    | _, _ => none⟩

/-- The captures with every group from `want` on unset. -/
def truncate (caps : Captures) (want : Nat) : Captures :=
  ⟨caps.groups.mapIdx fun i span => if i < want then span else none⟩

@[simp] theorem groupLen_shift (caps : Captures) (offset : Nat) :
    (caps.shift offset).groupLen = caps.groupLen := by
  simp [shift, groupLen]

@[simp] theorem groupLen_truncate (caps : Captures) (want : Nat) :
    (caps.truncate want).groupLen = caps.groupLen := by
  simp [truncate, groupLen]

@[simp] theorem groupLen_ofSlots (groupLen : Nat) (slots : List (Option Nat)) :
    (ofSlots groupLen slots).groupLen = groupLen := by
  simp [ofSlots, Captures.groupLen]

theorem group_shift (caps : Captures) (offset index : Nat) :
    (caps.shift offset).group index = (caps.group index).map (·.shift offset) := by
  simp only [group, shift, List.getElem?_map]
  cases caps.groups[index]? with
  | none => rfl
  | some span => cases span <;> rfl

@[simp] theorem wrap_zero (caps : Captures) (count : Nat) : caps.wrap count 0 = caps := rfl

theorem group_wrap (caps : Captures) (count : Nat) {offset : Nat} (index : Nat)
    (hoffset : offset ≠ 0) :
    (caps.wrap count offset).group index = (caps.group index).map (·.wrap count offset) := by
  simp only [group, wrap, if_neg hoffset, List.getElem?_map]
  cases caps.groups[index]? with
  | none => rfl
  | some span => cases span <;> rfl

@[simp] theorem groupLen_wrap (caps : Captures) (count offset : Nat) :
    (caps.wrap count offset).groupLen = caps.groupLen := by
  unfold wrap
  split <;> simp [groupLen]

theorem group_truncate (caps : Captures) (want index : Nat) :
    (caps.truncate want).group index = if index < want then caps.group index else none := by
  simp only [group, truncate, List.getElem?_mapIdx]
  cases caps.groups[index]? <;> by_cases h : index < want <;> simp [h]

theorem group_of_groupLen_le {caps : Captures} {index : Nat} (hindex : caps.groupLen ≤ index) :
    caps.group index = none := by
  rw [group, List.getElem?_eq_none hindex, Option.join_none]

theorem ext_group {caps caps' : Captures} (hlength : caps.groupLen = caps'.groupLen)
    (hgroup : ∀ index < caps.groupLen, caps.group index = caps'.group index) : caps = caps' := by
  obtain ⟨groups⟩ := caps
  obtain ⟨groups'⟩ := caps'
  congr 1
  apply List.ext_getElem hlength
  intro index hindex hindex'
  have h := hgroup index hindex
  rwa [group, group, List.getElem?_eq_getElem hindex, List.getElem?_eq_getElem hindex',
    Option.join_some, Option.join_some] at h

/-- A group is set where both of its slots are. -/
theorem group_ofSlots {groupLen index : Nat} {slots : List (Option Nat)} {span : Span} :
    (ofSlots groupLen slots).group index = some span ↔
      index < groupLen ∧ slots[2 * index]? = some (some span.start) ∧
        slots[2 * index + 1]? = some (some span.stop) := by
  by_cases hindex : index < groupLen
  · simp only [group, ofSlots, List.getElem?_map, List.getElem?_range hindex, Option.map_some,
      Option.join_some, hindex, true_and]
    split
    · next first last hfirst hlast =>
      obtain ⟨start, stop⟩ := span
      simp [hfirst, hlast]
    · next hunset =>
      constructor
      · intro h
        contradiction
      · intro h
        exact absurd h.2 (hunset _ _ h.1)
  · have hunset : (ofSlots groupLen slots).group index = none := by
      apply group_of_groupLen_le
      rw [groupLen_ofSlots]
      omega
    simp [hunset, hindex]

/-- Keeping slots for fewer groups leaves the others unset. -/
theorem ofSlots_take (groupLen want : Nat) (slots : List (Option Nat)) :
    ofSlots groupLen (slots.take (2 * want)) = (ofSlots groupLen slots).truncate want := by
  apply ext_group
  · simp
  · intro index _
    rw [group_truncate]
    apply Option.ext
    intro span
    rw [group_ofSlots, List.getElem?_take, List.getElem?_take]
    by_cases hwant : index < want
    · rw [if_pos (by omega), if_pos (by omega), if_pos hwant, group_ofSlots]
    · rw [if_neg (by omega), if_neg hwant]
      simp

theorem truncate_of_groupLen_le {caps : Captures} {want : Nat} (hwant : caps.groupLen ≤ want) :
    caps.truncate want = caps := by
  apply ext_group
  · simp
  · intro index hindex
    rw [groupLen_truncate] at hindex
    rw [group_truncate, if_pos (by omega)]

end Captures

end BytePattern
