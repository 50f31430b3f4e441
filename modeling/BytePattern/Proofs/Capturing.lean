/-
The captures of an expression.  Simplification keeps them and their order, as long as no two of them
have one number.
-/
import BytePattern.Regex.Basic
import Mathlib.Data.List.Nodup

namespace BytePattern

namespace Regex

mutual

/-- The captures in the order in which they open, those inside other captures only if asked for. -/
def captures (inner : Bool) : Regex → List Nat
  | times inside _ _ _ => captures inner inside
  | capture index inside => index :: if inner then captures inner inside else []
  | concat items => capturesAll inner items
  | alternation branches => capturesAll inner branches
  | _ => []

/-- The captures of the expressions, one after the other. -/
def capturesAll (inner : Bool) : List Regex → List Nat
  | [] => []
  | item :: items => captures inner item ++ capturesAll inner items

end

variable {inner : Bool}

mutual

theorem outerGroups_eq : ∀ regex : Regex, regex.outerGroups = regex.captures false
  | empty => rfl
  | literal _ => rfl
  | ofClass _ => rfl
  | look _ => rfl
  | times inside _ _ _ => outerGroups_eq inside
  | capture _ _ => rfl
  | concat items => outerGroupsAll_eq items
  | alternation branches => outerGroupsAll_eq branches

theorem outerGroupsAll_eq : ∀ items : List Regex, outerGroupsAll items = capturesAll false items
  | [] => rfl
  | item :: items => by
      rw [outerGroupsAll, capturesAll, outerGroups_eq item, outerGroupsAll_eq items]

end

mutual

theorem captures_sublist : ∀ regex : Regex, (regex.captures inner).Sublist (regex.captures true)
  | empty => .refl _
  | literal _ => .refl _
  | ofClass _ => .refl _
  | look _ => .refl _
  | times inside _ _ _ => captures_sublist inside
  | capture index inside => by
      cases inner with
      | false => exact (List.nil_sublist _).cons_cons index
      | true => exact .refl _
  | concat items => capturesAll_sublist items
  | alternation branches => capturesAll_sublist branches

theorem capturesAll_sublist : ∀ items : List Regex,
    (capturesAll inner items).Sublist (capturesAll true items)
  | [] => .refl _
  | item :: items => (captures_sublist item).append (capturesAll_sublist items)

end

mutual

theorem le_lastCapture : ∀ regex : Regex, ∀ index ∈ regex.captures true, index ≤ regex.lastCapture
  | empty, _, hmem => by simp [captures] at hmem
  | literal _, _, hmem => by simp [captures] at hmem
  | ofClass _, _, hmem => by simp [captures] at hmem
  | look _, _, hmem => by simp [captures] at hmem
  | times inside _ _ _, index, hmem => le_lastCapture inside index hmem
  | capture number inside, index, hmem => by
      rw [captures, if_pos rfl, List.mem_cons] at hmem
      rw [lastCapture]
      rcases hmem with rfl | hmem
      · exact Nat.le_max_left _ _
      · exact Nat.le_trans (le_lastCapture inside index hmem) (Nat.le_max_right _ _)
  | concat items, index, hmem => le_lastCaptureAll items index hmem
  | alternation branches, index, hmem => le_lastCaptureAll branches index hmem

theorem le_lastCaptureAll : ∀ items : List Regex, ∀ index ∈ capturesAll true items,
    index ≤ lastCaptureAll items
  | [], _, hmem => by simp [capturesAll] at hmem
  | item :: items, index, hmem => by
      rw [capturesAll, List.mem_append] at hmem
      rw [lastCaptureAll]
      rcases hmem with hmem | hmem
      · exact Nat.le_trans (le_lastCapture item index hmem) (Nat.le_max_left _ _)
      · exact Nat.le_trans (le_lastCaptureAll items index hmem) (Nat.le_max_right _ _)

end

theorem capturesAll_append (front back : List Regex) :
    capturesAll inner (front ++ back) = capturesAll inner front ++ capturesAll inner back := by
  induction front with
  | nil => rfl
  | cons item front ih => rw [List.cons_append, capturesAll, capturesAll, ih, List.append_assoc]

theorem capturesAll_singleton (item : Regex) : capturesAll inner [item] = item.captures inner :=
  List.append_nil _

section Rows

theorem captures_repetition (inside : Regex) (least : Nat) (most : Option Nat) (greedy : Bool) :
    (repetition inside least most greedy).captures inner =
      if least = 0 ∧ most = some 0 then [] else inside.captures inner := by
  -- The bounds of a widthless repetition are cut to one, which keeps whether both are zero.
  obtain ⟨least', most', hbounds, hzero⟩ : ∃ least' most',
      repetition inside least most greedy =
        (if least' = 0 ∧ most' = some 0 then empty
        else if least' = 1 ∧ most' = some 1 then inside
        else times inside least' most' greedy) ∧
      (least' = 0 ∧ most' = some 0 ↔ least = 0 ∧ most = some 0) := by
    by_cases hwidthless : inside.isWidthless = true
    · refine ⟨min least 1, some ((most.map (min · 1)).getD 1), ?_, ?_⟩
      · rw [repetition, if_pos hwidthless]
      · cases most with
        | none => simp
        | some most =>
            simp only [Option.map_some, Option.getD_some, Option.some.injEq]
            omega
    · refine ⟨least, most, ?_, Iff.rfl⟩
      rw [repetition, if_neg hwidthless]
  rw [hbounds]
  by_cases hnone : least' = 0 ∧ most' = some 0
  · rw [if_pos hnone, if_pos (hzero.mp hnone)]
    rfl
  · rw [if_neg hnone, if_neg (fun h => hnone (hzero.mpr h))]
    split <;> rfl

theorem capturesAll_rowItems (items : List Regex) :
    capturesAll inner (rowItems items) = capturesAll inner items := by
  fun_induction rowItems items with
  | case1 => rfl
  | case2 rest ih => exact ih
  | case3 items rest ih => rw [capturesAll_append, ih, capturesAll, captures]
  | case4 item rest _ _ ih => rw [capturesAll, capturesAll, ih]

theorem capturesAll_joinLiterals (items : List Regex) :
    capturesAll inner (joinLiterals items) = capturesAll inner items := by
  fun_induction joinLiterals items with
  | case1 => rfl
  | case2 rest a b more hrest ih =>
      rw [hrest] at ih
      exact ih
  | case3 item rest _ ih => rw [capturesAll, capturesAll, ih]

theorem captures_row (items : List Regex) :
    (row items).captures inner = capturesAll inner items := by
  have hitems : capturesAll inner (joinLiterals (rowItems items)) = capturesAll inner items := by
    rw [capturesAll_joinLiterals, capturesAll_rowItems]
  rw [← hitems, row]
  split
  · next hnone => rw [hnone]; rfl
  · next hone => rw [hone, capturesAll_singleton]
  · rfl

end Rows

mutual

theorem captures_eq_of_alike : ∀ a b : Regex, alike a b = true →
    a.captures inner = b.captures inner
  | empty, b, halike => by cases b <;> simp_all [alike, captures]
  | literal _, b, halike => by cases b <;> simp_all [alike, captures]
  | ofClass _, b, halike => by cases b <;> simp_all [alike, captures]
  | look _, b, halike => by cases b <;> simp_all [alike, captures]
  | times a _ _ _, b, halike => by
      cases b with
      | times b _ _ _ =>
          rw [alike, Bool.and_eq_true] at halike
          exact captures_eq_of_alike a b halike.2
      | _ => simp [alike] at halike
  | capture _ a, b, halike => by
      cases b with
      | capture _ b =>
          rw [alike, Bool.and_eq_true, beq_iff_eq] at halike
          rw [captures, captures, halike.1, captures_eq_of_alike a b halike.2]
      | _ => simp [alike] at halike
  | concat as, b, halike => by
      cases b with
      | concat bs => exact capturesAll_eq_of_alikeAll as bs halike
      | _ => simp [alike] at halike
  | alternation as, b, halike => by
      cases b with
      | alternation bs => exact capturesAll_eq_of_alikeAll as bs halike
      | _ => simp [alike] at halike

theorem capturesAll_eq_of_alikeAll : ∀ as bs : List Regex, alikeAll as bs = true →
    capturesAll inner as = capturesAll inner bs
  | [], bs, halike => by cases bs <;> simp_all [alikeAll]
  | a :: as, bs, halike => by
      cases bs with
      | nil => simp [alikeAll] at halike
      | cons b bs =>
          rw [alikeAll, Bool.and_eq_true] at halike
          rw [capturesAll, capturesAll, captures_eq_of_alike a b halike.1,
            capturesAll_eq_of_alikeAll as bs halike.2]

end

section Branches

theorem capturesAll_flatBranches (branches : List Regex) :
    capturesAll inner (flatBranches branches) = capturesAll inner branches := by
  fun_induction flatBranches branches with
  | case1 => rfl
  | case2 branches rest ih => rw [capturesAll_append, ih, capturesAll, captures]
  | case3 branch rest _ ih => rw [capturesAll, capturesAll, ih]

theorem captures_ofCharClass (charClass : CharClass) :
    (ofCharClass charClass).captures inner = [] := by
  unfold ofCharClass
  split
  · rfl
  · split <;> rfl

theorem capturesAll_of_singleChars? {branches : List Regex} {set : IntervalSet}
    (hset : singleChars? branches = some set) : capturesAll inner branches = [] := by
  induction branches generalizing set with
  | nil => rfl
  | cons branch rest ih =>
      cases branch with
      | literal bytes =>
          rw [singleChars?] at hset
          split at hset
          · split at hset
            · obtain ⟨_, hrest, _⟩ := Option.map_eq_some_iff.mp hset
              exact ih hrest
            · simp at hset
          · simp at hset
      | _ => simp [singleChars?] at hset

theorem capturesAll_of_singleBytes? {branches : List Regex} {set : IntervalSet}
    (hset : singleBytes? branches = some set) : capturesAll inner branches = [] := by
  fun_induction singleBytes? branches generalizing set with
  | case1 => rfl
  | case2 byte rest ih =>
      obtain ⟨_, hrest, _⟩ := Option.map_eq_some_iff.mp hset
      exact ih hrest
  | case3 => simp at hset

theorem capturesAll_of_classUnion? {part? : CharClass → Option IntervalSet}
    {branches : List Regex} {set : IntervalSet}
    (hset : classUnion? part? branches = some set) : capturesAll inner branches = [] := by
  fun_induction classUnion? part? branches generalizing set with
  | case1 => rfl
  | case2 charClass rest ih =>
      simp only [Option.bind_eq_bind, Option.bind_eq_some_iff] at hset
      obtain ⟨_, _, _, hrest, _⟩ := hset
      exact ih hrest
  | case3 => simp at hset

/-- Branches that are one class capture nothing. -/
theorem capturesAll_of_branchClass? {branches : List Regex} {charClass : CharClass}
    (hclass : branchClass? branches = some charClass) : capturesAll inner branches = [] := by
  simp only [branchClass?, Option.orElse_eq_orElse, Option.orElse_eq_or, Option.or_eq_some_iff,
    Option.map_eq_some_iff] at hclass
  rcases hclass with ⟨_, hset, _⟩ | ⟨_, ⟨_, hset, _⟩ | ⟨_, ⟨_, hset, _⟩ | ⟨_, _, hset, _⟩⟩⟩
  · exact capturesAll_of_singleChars? hset
  · exact capturesAll_of_singleBytes? hset
  · exact capturesAll_of_classUnion? hset
  · exact capturesAll_of_classUnion? hset

theorem captures_branchesOf (branches : List Regex) :
    (branchesOf branches).captures inner = capturesAll inner branches := by
  unfold branchesOf
  split
  · rfl
  · exact (capturesAll_singleton _).symm
  · split
    · next hclass => rw [captures_ofCharClass, capturesAll_of_branchClass? hclass]
    · rfl

end Branches

section Shared

theorem sharedItems_spec (as bs : List Regex) :
    sharedItems as bs <+: as ∧
      alikeAll (sharedItems as bs) (bs.take (sharedItems as bs).length) = true := by
  fun_induction sharedItems as bs with
  | case1 a as b bs halike ih =>
      refine ⟨(List.prefix_cons_inj a).mpr ih.1, ?_⟩
      rw [List.length_cons, List.take_succ_cons, alikeAll, halike, ih.2]
      rfl
  | case2 => exact ⟨List.nil_prefix, rfl⟩
  | case3 => exact ⟨List.nil_prefix, rfl⟩

theorem alikeAll_initial {front shared row : List Regex} (hfront : front <+: shared)
    (hshared : alikeAll shared (row.take shared.length) = true) :
    alikeAll front (row.take front.length) = true := by
  obtain ⟨back, rfl⟩ := hfront
  induction front generalizing row with
  | nil => rfl
  | cons item front ih =>
      cases row with
      | nil => simp [alikeAll] at hshared
      | cons first row =>
          rw [List.cons_append, List.length_cons, List.take_succ_cons, alikeAll,
            Bool.and_eq_true] at hshared
          rw [List.length_cons, List.take_succ_cons, alikeAll, hshared.1, ih hshared.2]
          rfl

/-- The items shared by all rows start the first, and each other row starts alike. -/
theorem foldl_sharedItems_spec (others : List (List Regex)) (first : List Regex) :
    others.foldl sharedItems first <+: first ∧
      ∀ row ∈ others, alikeAll (others.foldl sharedItems first)
        (row.take (others.foldl sharedItems first).length) = true := by
  induction others generalizing first with
  | nil => exact ⟨List.prefix_rfl, by simp⟩
  | cons second others ih =>
      obtain ⟨hinitial, hothers⟩ := ih (sharedItems first second)
      obtain ⟨hfirst, hsecond⟩ := sharedItems_spec first second
      refine ⟨hinitial.trans hfirst, ?_⟩
      intro row hrow
      rcases List.mem_cons.mp hrow with rfl | hrow
      · exact alikeAll_initial hinitial hsecond
      · exact hothers row hrow

theorem capturesAll_of_rows? {branches : List Regex} {rows : List (List Regex)}
    (hrows : rows? branches = some rows) :
    capturesAll inner branches = rows.flatMap (capturesAll inner) := by
  fun_induction rows? branches generalizing rows with
  | case1 =>
      obtain rfl := Option.some.inj hrows
      rfl
  | case2 items rest ih =>
      obtain ⟨more, hmore, rfl⟩ := Option.map_eq_some_iff.mp hrows
      rw [capturesAll, ih hmore]
      rfl
  | case3 => simp at hrows

theorem capturesAll_drop {row : List Regex} {count : Nat}
    (htake : capturesAll inner (row.take count) = []) :
    capturesAll inner (row.drop count) = capturesAll inner row := by
  have hcut : capturesAll inner (row.take count ++ row.drop count) = _ := capturesAll_append _ _
  rw [List.take_append_drop, htake, List.nil_append] at hcut
  exact hcut.symm

theorem mem_capturesAll_of_initial {front row : List Regex} {index : Nat} (hfront : front <+: row)
    (hmem : index ∈ capturesAll inner front) : index ∈ capturesAll inner row := by
  obtain ⟨back, rfl⟩ := hfront
  rw [capturesAll_append]
  exact List.mem_append_left _ hmem

/-- What two or more rows share has no captures, as these would occur twice. -/
theorem capturesAll_shared {first second : List Regex} {others : List (List Regex)}
    (hnodup : ((first :: second :: others).flatMap (capturesAll true)).Nodup) :
    capturesAll true ((second :: others).foldl sharedItems first) = [] := by
  obtain ⟨hfirst, hothers⟩ := foldl_sharedItems_spec (second :: others) first
  generalize (second :: others).foldl sharedItems first = shared at hfirst hothers
  have hsecond : capturesAll true shared = capturesAll true (second.take shared.length) :=
    capturesAll_eq_of_alikeAll _ _ (hothers second (List.mem_cons_self ..))
  rw [List.flatMap_cons, List.flatMap_cons] at hnodup
  have hdisjoint := (List.nodup_append'.mp hnodup).2.2
  -- A capture among the shared items would be one of the first row and one of the second.
  rw [List.eq_nil_iff_forall_not_mem]
  intro index hmem
  apply hdisjoint (mem_capturesAll_of_initial hfirst hmem) (List.mem_append_left _ _)
  rw [hsecond] at hmem
  exact mem_capturesAll_of_initial (List.take_prefix _ _) hmem

theorem captures_factor {branches shared : List Regex} {rests : List (List Regex)}
    (hnodup : (capturesAll true branches).Nodup)
    (hfactor : factor? branches = some (shared, rests)) :
    capturesAll inner shared ++ rests.flatMap (capturesAll inner) =
      capturesAll inner branches := by
  unfold factor? at hfactor
  split at hfactor
  · next first others hrows =>
    rw [capturesAll_of_rows? hrows] at hnodup ⊢
    split at hfactor
    · simp at hfactor
    · simp only [Option.some.injEq, Prod.mk.injEq] at hfactor
      obtain ⟨rfl, rfl⟩ := hfactor
      cases others with
      | nil => simp [capturesAll]
      | cons second others =>
          have hshared : capturesAll inner ((second :: others).foldl sharedItems first) = [] :=
            List.sublist_nil.mp (capturesAll_shared hnodup ▸ capturesAll_sublist _)
          obtain ⟨hfirst, hothers⟩ := foldl_sharedItems_spec (second :: others) first
          rw [hshared, List.nil_append, List.flatMap_map]
          apply List.flatMap_congr
          intro row hrow
          apply capturesAll_drop
          rcases List.mem_cons.mp hrow with rfl | hrow
          · rw [← List.prefix_iff_eq_take.mp hfirst, hshared]
          · rw [← capturesAll_eq_of_alikeAll _ _ (hothers row hrow), hshared]
  · simp at hfactor

theorem capturesAll_map_row (rows : List (List Regex)) :
    capturesAll inner (rows.map row) = rows.flatMap (capturesAll inner) := by
  induction rows with
  | nil => rfl
  | cons first rows ih => rw [List.map_cons, capturesAll, captures_row, ih, List.flatMap_cons]

theorem captures_branching {branches : List Regex} (hnodup : (capturesAll true branches).Nodup) :
    (branching branches).captures inner = capturesAll inner branches := by
  have hsimple (inner : Bool) : (branchesOf (flatBranches branches)).captures inner =
      capturesAll inner branches := by
    rw [captures_branchesOf, capturesAll_flatBranches]
  unfold branching
  split
  · next flat hflat =>
    rw [hflat] at hsimple
    split
    · next shared rests hfactor =>
      have hflatNodup : (capturesAll true flat).Nodup := by
        rw [← hsimple true] at hnodup
        exact hnodup
      have hparts : _ = capturesAll inner flat := captures_factor hflatNodup hfactor
      rw [captures_row, capturesAll_append, capturesAll_singleton, captures_branchesOf,
        capturesAll_flatBranches, capturesAll_map_row, hparts]
      exact hsimple inner
    · exact hsimple inner
  · exact hsimple inner

end Shared

end Regex

end BytePattern
