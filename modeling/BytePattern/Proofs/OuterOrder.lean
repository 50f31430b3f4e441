/-
The outer groups that a store keeps for a pattern, whatever its engine.  They ascend and are groups
of the program, and each match shows all of them.
-/
import BytePattern.Proofs.History
import BytePattern.Proofs.Meaning
import BytePattern.Proofs.Views

namespace BytePattern

/-- Groups that ascend, none of which is the whole match. -/
def AscendingGroups (groups : List Nat) : Prop :=
  groups.Pairwise (· < ·) ∧ ∀ group ∈ groups, 0 < group

theorem AscendingGroups.sublist {groups groups' : List Nat} (hsublist : groups.Sublist groups')
    (hgroups : AscendingGroups groups') : AscendingGroups groups :=
  ⟨hgroups.1.sublist hsublist, fun group hmem => hgroups.2 group (hsublist.subset hmem)⟩

theorem ascendingGroups_range' (count : Nat) : AscendingGroups (List.range' 1 count) := by
  refine ⟨List.pairwise_lt_range', fun group hmem => ?_⟩
  exact (List.mem_range'_1.mp hmem).1

/-- The meaning of a pattern has its outer captures in order. -/
theorem Regex.ascending_outerGroups {text : String} {modes : Modes} {regex : Regex}
    (hparse : Regex.parse text modes = .ok regex) : AscendingGroups regex.outerGroups := by
  obtain ⟨node, _, hnode, _⟩ := parse_eq_ok_iff.mp hparse
  obtain ⟨count, hcount⟩ := Node.opened_of_parse hnode
  rw [outerGroups_eq, captures_of_parse hnode hparse]
  exact (ascendingGroups_range' count).sublist (hcount ▸ node.captures_sublist)

/-- The parentheses to come have numbers of their own, however deep the text nests. -/
theorem scanParens_ascending (count depth : Nat) (text : List Char) :
    (scanParens count depth text).Pairwise (· < ·) ∧
      ∀ group ∈ scanParens count depth text, count < group := by
  fun_induction scanParens count depth text with
  | case1 => exact ⟨.nil, List.forall_mem_nil _⟩
  | case2 count depth c rest ih => exact ih
  | case3 count rest more ih =>
      refine ⟨List.pairwise_cons.mpr ⟨ih.2, ih.1⟩, ?_⟩
      refine List.forall_mem_cons.mpr ⟨Nat.lt_succ_self count, fun group hmem => ?_⟩
      exact Nat.lt_of_succ_lt (ih.2 group hmem)
  | case4 count depth rest more hdepth ih =>
      exact ⟨ih.1, fun group hmem => Nat.lt_of_succ_lt (ih.2 group hmem)⟩
  | case5 count depth rest ih => exact ih
  | case6 count depth c rest _ _ _ ih => exact ih

theorem ascending_scanOuterGroups (text : String) : AscendingGroups (scanOuterGroups text) :=
  scanParens_ascending 0 0 text.toList

/-- The outer groups of a pattern are in order, and each is a group of the program other than the
whole match. -/
structure Compiled.Ordered (compiled : Compiled) : Prop where
  ascending : compiled.outerGroups.Pairwise (· < ·)
  inside : ∀ group ∈ compiled.outerGroups, 1 ≤ group ∧ group < compiled.program.groupLen

/-- From whichever source they come, the outer groups are in order. -/
theorem Compiled.ordered_groupsOf (program : Program) (expanded : String) (flags : Flags) :
    Ordered ⟨program, groupsOf expanded flags program.groupLen, expanded⟩ := by
  have hsource : AscendingGroups
      ((outerGroups? expanded flags).getD (scanOuterGroups expanded)) := by
    cases hread : outerGroups? expanded flags with
    | none => exact ascending_scanOuterGroups expanded
    | some groups =>
        obtain ⟨regex, hparse, rfl⟩ := outerGroups?_eq_some_iff.mp hread
        exact Regex.ascending_outerGroups hparse
  obtain ⟨hascending, hpos⟩ := hsource.sublist (List.filter_sublist (p := (· < program.groupLen)))
  refine ⟨hascending, fun group hmem => ⟨hpos group hmem, ?_⟩⟩
  exact of_decide_eq_true (List.mem_filter.mp hmem).2

namespace Matches

/-- Every search of a limited walk asks for as many groups as the walk does. -/
theorem take_asks {walk : Matches} (hrange : walk.InRange) (n : Nat) :
    (walk.take n).Asks walk.want := by
  induction n generalizing walk with
  | zero => exact List.forall_mem_nil _
  | succ n ih =>
      obtain ⟨hwant, hfirst⟩ := next_want hrange
      have hrest := ih (next_inRange hrange)
      rw [hwant] at hrest
      rw [take_succ]
      cases walk.next.1.value with
      | none => exact hfirst
      | some caps => exact List.forall_mem_append.mpr ⟨hfirst, hrest⟩

end Matches

theorem getElem?_flatMap_of_length_eq {α β : Type} {f : α → List β} {width : Nat}
    (hwidth : ∀ a, (f a).length = width) (as : List α) (i : Nat) {j : Nat} (hj : j < width) :
    (as.flatMap f)[i * width + j]? = as[i]?.bind fun a => (f a)[j]? := by
  induction as generalizing i with
  | nil => rfl
  | cons a as ih =>
      rw [List.flatMap_cons]
      cases i with
      | zero =>
          rw [Nat.zero_mul, Nat.zero_add, List.getElem?_append_left (by rwa [hwidth a])]
          rfl
      | succ i =>
          have hplace : (i + 1) * width + j = (f a).length + (i * width + j) := by
            rw [hwidth a, Nat.succ_mul, Nat.add_comm (i * width), Nat.add_assoc]
          rw [hplace, List.getElem?_append_right (Nat.le_add_right _ _), Nat.add_sub_cancel_left,
            ih, List.getElem?_cons_succ]

namespace Pattern

/-- How `matchOuter` shows the matches of a haystack that `found` holds. -/
structure ShowsOuter (pattern : Pattern) (haystack : Bytes) (found : List Captures) : Prop where
  /-- No group is shown twice for a match. -/
  distinct : pattern.outerGroups.Nodup
  value : (pattern.matchOuter haystack).value =
    found.flatMap fun caps => pattern.outerGroups.map (caps.text? haystack)
  length : (pattern.matchOuter haystack).value.length =
    found.length * pattern.outerGroups.length
  /-- For the match at `i` the group at `j` is shown. -/
  entry : ∀ i j : Nat, j < pattern.outerGroups.length →
    (pattern.matchOuter haystack).value[i * pattern.outerGroups.length + j]? =
      found[i]?.bind fun caps => pattern.outerGroups[j]?.map (caps.text? haystack)
  /-- Every search asks for all outer groups, and none for the whole match alone. -/
  wide : ∀ search ∈ (pattern.matchOuter haystack).searches,
    1 < search.want ∧ ∀ group ∈ pattern.outerGroups, group < search.want

variable {pattern : Pattern}

theorem matchOuter_of_ne_nil (hgroups : pattern.outerGroups ≠ []) (haystack : Bytes) :
    pattern.matchOuter haystack =
      (Matches.start pattern haystack pattern.outerWant).all.map fun found =>
        found.flatMap fun caps => pattern.outerGroups.map (caps.text? haystack) := by
  unfold matchOuter outerWant
  cases houter : pattern.outerGroups with
  | nil => exact absurd houter hgroups
  | cons first others => rfl

theorem matchOuter_of_eq_nil (hgroups : pattern.outerGroups = []) (haystack : Bytes) :
    pattern.matchOuter haystack = (pattern.matchAll haystack).map (List.map some) := by
  rw [matchOuter, hgroups]

/-- Where there are ascending outer groups, the walk that asks for all of them is what is shown. -/
theorem showsOuter_of_ascending (hascending : pattern.outerGroups.Pairwise (· < ·))
    (hpos : ∀ group ∈ pattern.outerGroups, 0 < group) (hgroups : pattern.outerGroups ≠ [])
    (haystack : Bytes) :
    pattern.ShowsOuter haystack
      (Matches.start pattern haystack pattern.outerWant).all.value := by
  have houter := matchOuter_of_ne_nil hgroups haystack
  have hwidth (caps : Captures) :
      (pattern.outerGroups.map (caps.text? haystack)).length = pattern.outerGroups.length :=
    List.length_map _
  refine ⟨hascending.imp Nat.ne_of_lt, congrArg Traced.value houter, ?_, ?_, ?_⟩
  · rw [houter, Traced.value_map, List.length_flatMap]
    simp only [hwidth, List.map_const', List.sum_replicate_nat]
  · intro i j hj
    rw [houter, Traced.value_map, getElem?_flatMap_of_length_eq hwidth _ i hj]
    simp only [List.getElem?_map]
  · intro search hmem
    rw [houter, Traced.searches_map] at hmem
    have hrange := Matches.start_inRange pattern haystack pattern.outerWant
    have hwant : search.want = pattern.outerWant := Matches.take_asks hrange _ search hmem
    rw [hwant]
    refine ⟨?_, fun group => lt_outerWant⟩
    obtain ⟨group, hgroup⟩ := List.exists_mem_of_ne_nil _ hgroups
    exact Nat.lt_of_le_of_lt (hpos group hgroup) (lt_outerWant hgroup)

end Pattern

namespace Store

theorem ordered_of_compiled {store : Store} {key : Key} {compiled : Compiled}
    (hcompiled : (store.compiled key).1 = .ok compiled) : compiled.Ordered := by
  unfold Store.compiled Store.compiledFrom at hcompiled
  split at hcompiled
  · contradiction
  · dsimp only at hcompiled
    split at hcompiled
    · contradiction
    · next program _ =>
      obtain rfl := Except.ok.inj hcompiled
      exact Compiled.ordered_groupsOf program _ _

/-- Whatever was done to a store before and whatever its engine is, the outer groups of a pattern
that compiles are in order.  Where there are any, each match shows all of them, and otherwise the
matches themselves are shown. -/
theorem showsOuter_of_run (engine : Engine) (capacity : Option Nat) (keepsFailures : Bool)
    (operations : List Operation) (key : Key) {compiled : Compiled}
    (hcompiled : (((fresh engine capacity keepsFailures).run operations).lookup
      key).compilation.result = .ok compiled) :
    let found := ((fresh engine capacity keepsFailures).run operations).lookup key
    let pattern := found.pattern key
    compiled.Ordered ∧ pattern.outerGroups = compiled.outerGroups ∧ ∀ haystack,
      (compiled.outerGroups ≠ [] → pattern.ShowsOuter haystack
        (Matches.start pattern haystack pattern.outerWant).all.value) ∧
      (compiled.outerGroups = [] →
        pattern.matchOuter haystack = (pattern.matchAll haystack).map (List.map some)) := by
  intro found pattern
  obtain ⟨before, _, hresult⟩ := lookup_run engine capacity keepsFailures operations key
  have hordered : compiled.Ordered := ordered_of_compiled (hresult ▸ hcompiled)
  have hgroups : pattern.outerGroups = compiled.outerGroups := by
    have hpattern : pattern.compiled = some compiled := by
      change found.compilation.result.toOption = some compiled
      rw [hcompiled]
      rfl
    rw [Pattern.outerGroups, hpattern]
  refine ⟨hordered, hgroups, fun haystack => ⟨fun hne => ?_, fun hnil => ?_⟩⟩
  · rw [← hgroups] at hne
    have hpos : ∀ group ∈ pattern.outerGroups, 0 < group := by
      intro group hmem
      exact (hordered.inside group (hgroups ▸ hmem)).1
    exact Pattern.showsOuter_of_ascending (hgroups ▸ hordered.ascending) hpos hne haystack
  · exact Pattern.matchOuter_of_eq_nil (hgroups.trans hnil) haystack

/-- A program with two groups, the first of which is the byte that is matched. -/
def eachByte : Program :=
  .leftmost 3 fun _ subject =>
    if subject.isEmpty then none else some ⟨[some ⟨0, 1⟩, some ⟨0, 1⟩, none]⟩

/-- An engine that compiles whatever it is asked for to that program. -/
def undemanding : Engine where
  compile := fun _ _ => .ok eachByte

/-- Parentheses that do not match, of which the last opens inside another. -/
def unmatched : Key := ⟨.extended, "(a))((b)"⟩

theorem showsOuter_of_run_unmatched :
    let found := ((fresh undemanding none false).run [.invalidate unmatched]).lookup unmatched
    let pattern := found.pattern unmatched
    ∃ compiled, found.compilation.result = .ok compiled ∧ compiled.Ordered ∧
      compiled.outerGroups = [1, 2] ∧ pattern.ShowsOuter [97, 98]
        (Matches.start pattern [97, 98] pattern.outerWant).all.value := by
  have hread : outerGroups? "(a))((b)" .extended = none := by cbv
  have hgroups : Compiled.groupsOf "(a))((b)" .extended 3 = [1, 2] := by
    rw [Compiled.groupsOf, hread]
    rfl
  have hcompiled : (((fresh undemanding none false).run [.invalidate unmatched]).lookup
      unmatched).compilation.result =
        .ok ⟨eachByte, Compiled.groupsOf "(a))((b)" .extended 3, "(a))((b)"⟩ := rfl
  obtain ⟨hordered, _, hshows⟩ :=
    showsOuter_of_run undemanding none false [.invalidate unmatched] unmatched hcompiled
  have hne : Compiled.groupsOf "(a))((b)" .extended 3 ≠ [] := by
    rw [hgroups]
    exact List.cons_ne_nil _ _
  exact ⟨_, hcompiled, hordered, hgroups, (hshows [97, 98]).1 hne⟩

example : (Pattern.matchOuter ⟨"(a))((b)", .extended, some ⟨eachByte, [1, 2], "(a))((b)"⟩⟩
    [97, 98]).value = [some [97], none, some [98], none] := by
  decide

end Store

end BytePattern
