/-
What a pattern means is simplified: no row in it can be joined any further.  So an empty expression
before it, in one row with it, leaves it as it is.
-/
import BytePattern.Proofs.Meaning

namespace BytePattern

namespace Regex

/-- Neighbours that cannot be joined, as they are not both literals. -/
def Apart (first second : Regex) : Prop :=
  ∀ a b, first = literal a → second ≠ literal b

/-- A row has two items or more and none of them can be joined, and branches are simplified each.
What is repeated or captured is not looked into, as no row is made of its parts. -/
inductive Simplified : Regex → Prop where
  | empty : Simplified empty
  | literal (bytes : List UInt8) : Simplified (literal bytes)
  | ofClass (charClass : CharClass) : Simplified (ofClass charClass)
  | look (look : Look) : Simplified (.look look)
  | times (inside : Regex) (least : Nat) (most : Option Nat) (greedy : Bool) :
      Simplified (times inside least most greedy)
  | capture (index : Nat) (inside : Regex) : Simplified (capture index inside)
  | concat {items : List Regex} (hapart : items.IsChain Apart) (htwo : 2 ≤ items.length)
      (hitems : ∀ item ∈ items, Simplified item) : Simplified (concat items)
  | alternation {branches : List Regex} (hbranches : ∀ branch ∈ branches, Simplified branch) :
      Simplified (alternation branches)

section Rows

variable {items : List Regex}

theorem isChain_joinLiterals (items : List Regex) : (joinLiterals items).IsChain Apart := by
  fun_induction joinLiterals items with
  | case1 => exact .nil
  | case2 rest a b more hrest ih =>
      rw [hrest] at ih
      cases more with
      | nil => exact .singleton _
      | cons next more =>
          obtain ⟨hnext, hmore⟩ := List.isChain_cons_cons.mp ih
          refine .cons_cons ?_ hmore
          intro _ c _
          exact hnext b c rfl
  | case3 rest item hapart ih =>
      cases hrest : joinLiterals rest with
      | nil => exact .singleton _
      | cons next more =>
          rw [hrest] at ih
          refine .cons_cons ?_ ih
          rintro a b rfl rfl
          exact hapart a b more rfl hrest

theorem joinLiterals_of_isChain (hitems : items.IsChain Apart) : joinLiterals items = items := by
  induction hitems with
  | nil => rfl
  | singleton item => cases item <;> rfl
  | @cons_cons first second rest hapart _ ih =>
      rw [joinLiterals, ih]
      intro a b more hfirst hrest
      rw [ih] at hrest
      exact hapart a b hfirst (List.cons.inj hrest).1

theorem simplified_rowItems (hitems : ∀ item ∈ items, item.Simplified) :
    ∀ item ∈ rowItems items, item.Simplified := by
  fun_induction rowItems items with
  | case1 => exact hitems
  | case2 rest ih => exact ih (List.forall_mem_cons.mp hitems).2
  | case3 items rest ih =>
      obtain ⟨hrow, hrest⟩ := List.forall_mem_cons.mp hitems
      cases hrow with
      | concat _ _ hrow => exact List.forall_mem_append.mpr ⟨hrow, ih hrest⟩
  | case4 item rest _ _ ih =>
      obtain ⟨hitem, hrest⟩ := List.forall_mem_cons.mp hitems
      exact List.forall_mem_cons.mpr ⟨hitem, ih hrest⟩

theorem simplified_joinLiterals (hitems : ∀ item ∈ items, item.Simplified) :
    ∀ item ∈ joinLiterals items, item.Simplified := by
  fun_induction joinLiterals items with
  | case1 => exact hitems
  | case2 rest a b more hrest ih =>
      rw [hrest] at ih
      obtain ⟨_, hmore⟩ := List.forall_mem_cons.mp (ih (List.forall_mem_cons.mp hitems).2)
      exact List.forall_mem_cons.mpr ⟨.literal _, hmore⟩
  | case3 item rest _ ih =>
      obtain ⟨hitem, hrest⟩ := List.forall_mem_cons.mp hitems
      exact List.forall_mem_cons.mpr ⟨hitem, ih hrest⟩

theorem simplified_row (hitems : ∀ item ∈ items, item.Simplified) : (row items).Simplified := by
  have hjoined := simplified_joinLiterals (simplified_rowItems hitems)
  have hapart := isChain_joinLiterals (rowItems items)
  unfold row
  split
  · exact .empty
  · next item hone =>
    rw [hone] at hjoined
    exact hjoined item (List.mem_singleton_self item)
  · next hnone hone =>
    refine .concat hapart ?_ hjoined
    rcases hitems : joinLiterals (rowItems items) with _ | ⟨first, _ | ⟨second, rest⟩⟩
    · exact absurd hitems hnone
    · exact absurd hitems (hone first)
    · exact Nat.le_add_left _ _

/-- An empty expression before a simplified one makes no row of it. -/
theorem row_empty_cons {regex : Regex} (hregex : regex.Simplified) :
    row [empty, regex] = regex := by
  cases hregex with
  | @concat items hapart htwo _ =>
      have hjoined : joinLiterals (rowItems [empty, concat items]) = items := by
        change joinLiterals (items ++ []) = items
        rw [List.append_nil, joinLiterals_of_isChain hapart]
      rw [row, hjoined]
      rcases items with _ | ⟨first, _ | ⟨second, rest⟩⟩
      · contradiction
      · contradiction
      · rfl
  | _ => rfl

end Rows

section Branches

variable {branches : List Regex}

theorem simplified_ofCharClass (charClass : CharClass) : (ofCharClass charClass).Simplified := by
  unfold ofCharClass
  split
  · exact .ofClass _
  · split
    · exact .literal _
    · exact .ofClass _

theorem simplified_flatBranches (hbranches : ∀ branch ∈ branches, branch.Simplified) :
    ∀ branch ∈ flatBranches branches, branch.Simplified := by
  fun_induction flatBranches branches with
  | case1 => exact hbranches
  | case2 branches rest ih =>
      obtain ⟨hfirst, hrest⟩ := List.forall_mem_cons.mp hbranches
      cases hfirst with
      | alternation hfirst => exact List.forall_mem_append.mpr ⟨hfirst, ih hrest⟩
  | case3 branch rest _ ih =>
      obtain ⟨hfirst, hrest⟩ := List.forall_mem_cons.mp hbranches
      exact List.forall_mem_cons.mpr ⟨hfirst, ih hrest⟩

theorem simplified_branchesOf (hbranches : ∀ branch ∈ branches, branch.Simplified) :
    (branchesOf branches).Simplified := by
  unfold branchesOf
  split
  · exact .ofClass _
  · next branch => exact hbranches branch (List.mem_singleton_self branch)
  · split
    · exact simplified_ofCharClass _
    · exact .alternation hbranches

theorem simplified_of_rows? {rows : List (List Regex)} (hrows : rows? branches = some rows)
    (hbranches : ∀ branch ∈ branches, branch.Simplified) :
    ∀ row ∈ rows, ∀ item ∈ row, item.Simplified := by
  fun_induction rows? branches generalizing rows with
  | case1 =>
      obtain rfl := Option.some.inj hrows
      simp
  | case2 items rest ih =>
      obtain ⟨more, hmore, rfl⟩ := Option.map_eq_some_iff.mp hrows
      obtain ⟨hfirst, hrest⟩ := List.forall_mem_cons.mp hbranches
      cases hfirst with
      | concat _ _ hitems => exact List.forall_mem_cons.mpr ⟨hitems, ih hmore hrest⟩
  | case3 => contradiction

theorem simplified_of_factor? {shared : List Regex} {rests : List (List Regex)}
    (hfactor : factor? branches = some (shared, rests))
    (hbranches : ∀ branch ∈ branches, branch.Simplified) :
    (∀ item ∈ shared, item.Simplified) ∧ ∀ rest ∈ rests, ∀ item ∈ rest, item.Simplified := by
  unfold factor? at hfactor
  split at hfactor
  · next first others hrows =>
    have hitems := simplified_of_rows? hrows hbranches
    split at hfactor
    · contradiction
    · obtain ⟨rfl, rfl⟩ := Prod.mk.inj (Option.some.inj hfactor)
      constructor
      · intro item hmem
        have hfirst := (foldl_sharedItems_spec others first).1.subset hmem
        exact hitems first List.mem_cons_self item hfirst
      · intro rest hrest item hmem
        obtain ⟨row, hrow, rfl⟩ := List.mem_map.mp hrest
        exact hitems row hrow item (List.mem_of_mem_drop hmem)
  · contradiction

theorem simplified_branching (hbranches : ∀ branch ∈ branches, branch.Simplified) :
    (branching branches).Simplified := by
  have hsimple := simplified_branchesOf (simplified_flatBranches hbranches)
  unfold branching
  split
  · next flat hflat =>
    rw [hflat] at hsimple
    cases hsimple with
    | alternation hflat =>
        split
        · next shared rests hfactor =>
          obtain ⟨hshared, hrests⟩ := simplified_of_factor? hfactor hflat
          apply simplified_row
          refine List.forall_mem_append.mpr ⟨hshared, List.forall_mem_singleton.mpr ?_⟩
          refine simplified_branchesOf (simplified_flatBranches ?_)
          exact List.forall_mem_map.mpr fun rest hrest => simplified_row (hrests rest hrest)
        · exact .alternation hflat
  · exact hsimple

end Branches

theorem simplified_repetition {inside : Regex} (hinside : inside.Simplified) (least : Nat)
    (most : Option Nat) (greedy : Bool) : (repetition inside least most greedy).Simplified := by
  have hbounds (least : Nat) (most : Option Nat) :
      (if least = 0 ∧ most = some 0 then empty
        else if least = 1 ∧ most = some 1 then inside
        else times inside least most greedy).Simplified := by
    split
    · exact .empty
    · split
      · exact hinside
      · exact .times _ _ _ _
  exact hbounds _ _

theorem simplified_ofLiteral (modes : Modes) (l : Literal) : (ofLiteral modes l).Simplified := by
  unfold ofLiteral
  split
  · dsimp only
    split
    · exact simplified_ofCharClass _
    · exact .literal _
  · split
    · exact .literal _
    · split
      · exact simplified_ofCharClass _
      · exact .literal _

theorem simplified_ofAssertion (modes : Modes) (assertion : Assertion) :
    (ofAssertion modes assertion).Simplified := by
  cases assertion <;> exact .look _

mutual

/-- What a node means is simplified. -/
theorem simplified_ofNode : ∀ (node : Node) (modes after : Modes) (regex : Regex),
    ofNode modes node = .ok (regex, after) → regex.Simplified
  | .empty, _, _, _, hmeaning => by
      obtain ⟨rfl, _⟩ := Prod.mk.inj (Except.ok.inj hmeaning)
      exact .empty
  | .settings _, _, _, _, hmeaning => by
      obtain ⟨rfl, _⟩ := Prod.mk.inj (Except.ok.inj hmeaning)
      exact .empty
  | .literal _, _, _, _, hmeaning => by
      obtain ⟨rfl, _⟩ := Prod.mk.inj (Except.ok.inj hmeaning)
      exact simplified_ofLiteral _ _
  | .dot, _, _, _, hmeaning => by
      obtain ⟨rfl, _⟩ := Prod.mk.inj (Except.ok.inj hmeaning)
      exact simplified_ofCharClass _
  | .assertion _, _, _, _, hmeaning => by
      obtain ⟨rfl, _⟩ := Prod.mk.inj (Except.ok.inj hmeaning)
      exact simplified_ofAssertion _ _
  | .letterClass _ _, _, _, _, hmeaning => by
      obtain ⟨rfl, _⟩ := Prod.mk.inj (Except.ok.inj hmeaning)
      exact simplified_ofCharClass _
  | .property _ _, _, _, _, hmeaning => by
      obtain ⟨_, _, hmeaning⟩ := exists_of_bind_eq_ok hmeaning
      obtain ⟨rfl, _⟩ := Prod.mk.inj (Except.ok.inj hmeaning)
      exact simplified_ofCharClass _
  | .bracket _ _, _, _, _, hmeaning => by
      obtain ⟨_, _, hmeaning⟩ := exists_of_bind_eq_ok hmeaning
      obtain ⟨rfl, _⟩ := Prod.mk.inj (Except.ok.inj hmeaning)
      exact simplified_ofCharClass _
  | .repetition inside _ _ _, modes, _, _, hmeaning => by
      obtain ⟨⟨regex, _⟩, hinside, hmeaning⟩ := exists_of_bind_eq_ok hmeaning
      obtain ⟨rfl, _⟩ := Prod.mk.inj (Except.ok.inj hmeaning)
      exact simplified_repetition (simplified_ofNode inside modes _ regex hinside) _ _ _
  | .group (.capture _) _, _, _, _, hmeaning => by
      obtain ⟨_, _, hmeaning⟩ := exists_of_bind_eq_ok hmeaning
      obtain ⟨rfl, _⟩ := Prod.mk.inj (Except.ok.inj hmeaning)
      exact .capture _ _
  | .group (.plain _) inside, _, _, _, hmeaning => by
      obtain ⟨⟨regex, _⟩, hinside, hmeaning⟩ := exists_of_bind_eq_ok hmeaning
      obtain ⟨rfl, _⟩ := Prod.mk.inj (Except.ok.inj hmeaning)
      exact simplified_ofNode inside _ _ regex hinside
  | .alternation branches, modes, _, _, hmeaning => by
      obtain ⟨⟨regexes, _⟩, hbranches, hmeaning⟩ := exists_of_bind_eq_ok hmeaning
      obtain ⟨rfl, _⟩ := Prod.mk.inj (Except.ok.inj hmeaning)
      exact simplified_branching (simplified_ofNodes branches modes _ regexes hbranches)
  | .concat items, modes, _, _, hmeaning => by
      obtain ⟨⟨regexes, _⟩, hitems, hmeaning⟩ := exists_of_bind_eq_ok hmeaning
      obtain ⟨rfl, _⟩ := Prod.mk.inj (Except.ok.inj hmeaning)
      exact simplified_row (simplified_ofNodes items modes _ regexes hitems)

theorem simplified_ofNodes : ∀ (nodes : List Node) (modes after : Modes) (regexes : List Regex),
    ofNodes modes nodes = .ok (regexes, after) → ∀ regex ∈ regexes, regex.Simplified
  | [], _, _, _, hmeaning => by
      obtain ⟨rfl, _⟩ := Prod.mk.inj (Except.ok.inj hmeaning)
      exact List.forall_mem_nil _
  | node :: nodes, modes, _, _, hmeaning => by
      obtain ⟨⟨regex, between⟩, hnode, hmeaning⟩ := exists_of_bind_eq_ok hmeaning
      obtain ⟨⟨regexes, _⟩, hnodes, hmeaning⟩ := exists_of_bind_eq_ok hmeaning
      obtain ⟨rfl, _⟩ := Prod.mk.inj (Except.ok.inj hmeaning)
      exact List.forall_mem_cons.mpr ⟨simplified_ofNode node modes _ regex hnode,
        simplified_ofNodes nodes between _ regexes hnodes⟩

end

end Regex

end BytePattern
