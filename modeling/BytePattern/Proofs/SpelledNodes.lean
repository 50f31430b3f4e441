/-
Nodes with their shorthands spelled out.  Where characters are bytes they mean what they meant
before, and they nest by one level more at most.
-/
import BytePattern.Proofs.Meaning

namespace BytePattern

/-- The named class with the same bytes, if there is one. -/
def LetterClass.named? : LetterClass → Option NamedClass
  | digit => some .digit
  | space => some .space
  | word => none

namespace IntervalSet

theorem common_range {lo hi : Nat} {intervals : List (Nat × Nat)}
    (hbefore : ∀ interval ∈ intervals, interval.2 < lo) : common intervals [(lo, hi)] = [] := by
  induction intervals with
  | nil => rw [common]
  | cons interval rest ih =>
      obtain ⟨a, b⟩ := interval
      obtain ⟨hfirst, hrest⟩ := List.forall_mem_cons.mp hbefore
      have hapart : ¬max a lo ≤ min b hi := by
        dsimp only at hfirst
        omega
      rw [common, if_neg hapart]
      split
      · exact ih hrest
      · exact common.eq_2 _ (List.cons_ne_nil _ _)

/-- What lies before the ASCII letters has no cases. -/
theorem foldAscii_of_before {set : IntervalSet}
    (hbefore : ∀ interval ∈ set.intervals, interval.2 < 0x41) :
    set.foldAscii = ofList set.intervals := by
  have hupper : set.inter (range 0x41 0x5A) = empty := congrArg mk (common_range hbefore)
  have hlower : set.inter (range 0x61 0x7A) = empty :=
    congrArg mk (common_range fun interval hmem =>
      Nat.lt_trans (hbefore interval hmem) (by decide))
  dsimp only [foldAscii]
  rw [hupper, hlower]
  change ofList (set.intervals.merge [] _) = _
  rw [List.merge_right]

end IntervalSet

section Classes

variable {kind : LetterClass} {named : NamedClass}

theorem NamedClass.set_of_named? (hnamed : kind.named? = some named) :
    named.set = kind.set false := by
  cases kind <;> cases hnamed <;> rfl

/-- Neither digits nor blanks have two cases. -/
theorem LetterClass.fold_set {modes : Modes} (hnamed : kind.named? = some named)
    (hunicode : modes.unicode = false) : modes.fold (kind.set false) = kind.set false := by
  have hfold : (kind.set false).foldAscii = kind.set false := by
    cases kind with
    | digit => exact IntervalSet.foldAscii_of_before (by decide)
    | space => exact IntervalSet.foldAscii_of_before (by decide)
    | word => contradiction
  rw [Modes.fold, hunicode]
  split
  · exact hfold
  · rfl

end Classes

namespace SetNode

mutual

/-- A set with its shorthands spelled out. -/
def spell : SetNode → SetNode
  | letterClass kind negated =>
    match kind.named? with
    | some named => bracket negated (namedClass named false)
    | none => letterClass kind negated
  | bracket negated inside => bracket negated (spell inside)
  | union items => union (spellAll items)
  | combine operation left right => combine operation (spell left) (spell right)
  | node => node

/-- Sets with their shorthands spelled out. -/
def spellAll : List SetNode → List SetNode
  | [] => []
  | item :: items => spell item :: spellAll items

end

mutual

/-- Whether a set asks for a property, which only Unicode mode knows. -/
def hasProperty : SetNode → Bool
  | property _ _ => true
  | bracket _ inside => hasProperty inside
  | union items => anyProperty items
  | combine _ left right => hasProperty left || hasProperty right
  | _ => false

/-- Whether any of the sets asks for a property. -/
def anyProperty : List SetNode → Bool
  | [] => false
  | item :: items => hasProperty item || anyProperty items

end

theorem spellAll_eq_map (items : List SetNode) : spellAll items = items.map spell := by
  induction items with
  | nil => rfl
  | cons item items ih => rw [spellAll, ih, List.map_cons]

theorem anyProperty_eq_any (items : List SetNode) : anyProperty items = items.any hasProperty := by
  induction items with
  | nil => rfl
  | cons item items ih => rw [anyProperty, ih, List.any_cons]

theorem spell_ofItems : ∀ items : List SetNode, (ofItems items).spell = ofItems (items.map spell)
  | [] => rfl
  | [_] => rfl
  | _ :: _ :: _ => congrArg union (spellAll_eq_map _)

theorem hasProperty_ofItems (items : List SetNode) :
    (ofItems items).hasProperty = items.any hasProperty := by
  unfold ofItems
  split
  · rfl
  · exact (Bool.or_false _).symm
  · exact anyProperty_eq_any _

mutual

theorem hasProperty_spell : ∀ node : SetNode, node.spell.hasProperty = node.hasProperty
  | empty => rfl
  | literal _ => rfl
  | range _ _ => rfl
  | letterClass kind negated => by cases kind <;> rfl
  | namedClass _ _ => rfl
  | property _ _ => rfl
  | bracket _ inside => hasProperty_spell inside
  | union items => anyProperty_spellAll items
  | combine _ left right => by
      rw [spell, hasProperty, hasProperty, hasProperty_spell left, hasProperty_spell right]

theorem anyProperty_spellAll : ∀ items : List SetNode,
    anyProperty (spellAll items) = anyProperty items
  | [] => rfl
  | item :: items => by
      rw [spellAll, anyProperty, anyProperty, hasProperty_spell item, anyProperty_spellAll items]

end

mutual

/-- Spelling out nests by one level more at most, and never by fewer. -/
theorem depth_spell : ∀ node : SetNode,
    node.depth ≤ node.spell.depth ∧ node.spell.depth ≤ node.depth + 1
  | empty => ⟨Nat.le_refl _, Nat.le_succ _⟩
  | literal _ => ⟨Nat.le_refl _, Nat.le_succ _⟩
  | range _ _ => ⟨Nat.le_refl _, Nat.le_succ _⟩
  | letterClass kind negated => by
      refine ⟨Nat.zero_le _, ?_⟩
      cases kind <;> simp [spell, LetterClass.named?, depth]
  | namedClass _ _ => ⟨Nat.le_refl _, Nat.le_succ _⟩
  | property _ _ => ⟨Nat.le_refl _, Nat.le_succ _⟩
  | bracket _ inside => by
      have hinside := depth_spell inside
      rw [spell, depth, depth]
      omega
  | union items => by
      have hitems := depthAll_spellAll items
      rw [spell, depth, depth]
      omega
  | combine _ left right => by
      have hleft := depth_spell left
      have hright := depth_spell right
      rw [spell, depth, depth]
      omega

theorem depthAll_spellAll : ∀ items : List SetNode,
    depthAll items ≤ depthAll (spellAll items) ∧ depthAll (spellAll items) ≤ depthAll items + 1
  | [] => ⟨Nat.le_refl _, Nat.le_succ _⟩
  | item :: items => by
      have hitem := depth_spell item
      have hitems := depthAll_spellAll items
      rw [spellAll, depthAll, depthAll]
      omega

end

section Meaning

variable {modes : Modes}

theorem toSet_of_named? {kind : LetterClass} {named : NamedClass}
    (hnamed : kind.named? = some named) (hunicode : modes.unicode = false) :
    (namedClass named false).toSet modes = .ok (kind.set false) := by
  rw [toSet, NamedClass.set_of_named? hnamed, LetterClass.fold_set hnamed hunicode]
  rfl

mutual

/-- Where characters are bytes, a set keeps its members. -/
theorem toSet_spell (hunicode : modes.unicode = false) : ∀ node : SetNode,
    node.spell.toSet modes = node.toSet modes
  | empty => rfl
  | literal _ => rfl
  | range _ _ => rfl
  | letterClass kind negated => by
      rw [spell]
      split
      · next named hnamed =>
        rw [toSet, toSet, toSet_of_named? hnamed hunicode, hunicode]
        change Except.ok (modes.negate negated (modes.fold (kind.set false))) = _
        rw [LetterClass.fold_set hnamed hunicode]
      · rfl
  | namedClass _ _ => rfl
  | property _ _ => rfl
  | bracket _ inside => by
      rw [spell, toSet, toSet, toSet_spell hunicode inside]
  | union items => toUnion_spellAll hunicode items
  | combine _ left right => by
      rw [spell, toSet, toSet, toSet_spell hunicode left, toSet_spell hunicode right]

theorem toUnion_spellAll (hunicode : modes.unicode = false) : ∀ items : List SetNode,
    toUnion modes (spellAll items) = toUnion modes items
  | [] => rfl
  | item :: items => by
      rw [spellAll, toUnion, toUnion, toSet_spell hunicode item, toUnion_spellAll hunicode items]

end

end Meaning

end SetNode

/-- What a pattern has to do with Unicode mode. -/
inductive UnicodeMark where
  /-- A property is asked for, which only Unicode mode knows. -/
  | asked
  /-- Inline flags turn the mode on. -/
  | turnedOn
deriving DecidableEq, Repr, Inhabited

/-- The mark of inline flags. -/
def FlagSettings.unicodeMarks (settings : FlagSettings) : List UnicodeMark :=
  if (InlineFlag.unicode, true) ∈ settings then [.turnedOn] else []

/-- The mark of the flags that a group is opened with. -/
def Opening.unicodeMarks : Opening → List UnicodeMark
  | capture _ => []
  | plain settings => settings.unicodeMarks

namespace Node

mutual

/-- A node with its shorthands spelled out. -/
def spell : Node → Node
  | letterClass kind negated =>
    match kind.named? with
    | some named => bracket negated (.namedClass named false)
    | none => letterClass kind negated
  | bracket negated inside => bracket negated inside.spell
  | repetition inside least most greedy => repetition (spell inside) least most greedy
  | group opening inside => group opening (spell inside)
  | alternation branches => alternation (spellAll branches)
  | concat items => concat (spellAll items)
  | node => node

/-- Nodes with their shorthands spelled out. -/
def spellAll : List Node → List Node
  | [] => []
  | node :: nodes => spell node :: spellAll nodes

end

mutual

/-- The marks of a node, in the order in which they are met. -/
def unicodeMarks : Node → List UnicodeMark
  | settings flags => flags.unicodeMarks
  | property _ _ => [.asked]
  | bracket _ inside => if inside.hasProperty then [.asked] else []
  | repetition inside _ _ _ => unicodeMarks inside
  | group opening inside => opening.unicodeMarks ++ unicodeMarks inside
  | alternation branches => unicodeMarksAll branches
  | concat items => unicodeMarksAll items
  | _ => []

/-- The marks of the nodes, one after the other. -/
def unicodeMarksAll : List Node → List UnicodeMark
  | [] => []
  | node :: nodes => unicodeMarks node ++ unicodeMarksAll nodes

end

theorem spellAll_eq_map (nodes : List Node) : spellAll nodes = nodes.map spell := by
  induction nodes with
  | nil => rfl
  | cons node nodes ih => rw [spellAll, ih, List.map_cons]

theorem spell_ofItems : ∀ items : List Node, (ofItems items).spell = ofItems (items.map spell)
  | [] => rfl
  | [_] => rfl
  | _ :: _ :: _ => congrArg concat (spellAll_eq_map _)

theorem spell_ofBranches : ∀ branches : List Node,
    (ofBranches branches).spell = ofBranches (branches.map spell)
  | [] => rfl
  | [_] => rfl
  | _ :: _ :: _ => congrArg alternation (spellAll_eq_map _)

theorem unicodeMarksAll_eq_flatMap (nodes : List Node) :
    unicodeMarksAll nodes = nodes.flatMap unicodeMarks := by
  induction nodes with
  | nil => rfl
  | cons node nodes ih => rw [unicodeMarksAll, ih, List.flatMap_cons]

theorem unicodeMarks_ofItems : ∀ items : List Node,
    (ofItems items).unicodeMarks = items.flatMap unicodeMarks
  | [] => rfl
  | [_] => (List.append_nil _).symm
  | _ :: _ :: _ => unicodeMarksAll_eq_flatMap _

theorem unicodeMarks_ofBranches : ∀ branches : List Node,
    (ofBranches branches).unicodeMarks = branches.flatMap unicodeMarks
  | [] => rfl
  | [_] => (List.append_nil _).symm
  | _ :: _ :: _ => unicodeMarksAll_eq_flatMap _

mutual

theorem unicodeMarks_spell : ∀ node : Node, node.spell.unicodeMarks = node.unicodeMarks
  | empty => rfl
  | settings _ => rfl
  | literal _ => rfl
  | dot => rfl
  | assertion _ => rfl
  | letterClass kind _ => by cases kind <;> rfl
  | property _ _ => rfl
  | bracket _ inside => by rw [spell, unicodeMarks, unicodeMarks, inside.hasProperty_spell]
  | repetition inside _ _ _ => unicodeMarks_spell inside
  | group _ inside => by rw [spell, unicodeMarks, unicodeMarks, unicodeMarks_spell inside]
  | alternation branches => unicodeMarksAll_spellAll branches
  | concat items => unicodeMarksAll_spellAll items

theorem unicodeMarksAll_spellAll : ∀ nodes : List Node,
    unicodeMarksAll (spellAll nodes) = unicodeMarksAll nodes
  | [] => rfl
  | node :: nodes => by
      rw [spellAll, unicodeMarksAll, unicodeMarksAll, unicodeMarks_spell node,
        unicodeMarksAll_spellAll nodes]

end

mutual

/-- Spelling out nests by one level more at most, and never by fewer. -/
theorem depth_spell : ∀ node : Node,
    node.depth ≤ node.spell.depth ∧ node.spell.depth ≤ node.depth + 1
  | empty => ⟨Nat.le_refl _, Nat.le_succ _⟩
  | settings _ => ⟨Nat.le_refl _, Nat.le_succ _⟩
  | literal _ => ⟨Nat.le_refl _, Nat.le_succ _⟩
  | dot => ⟨Nat.le_refl _, Nat.le_succ _⟩
  | assertion _ => ⟨Nat.le_refl _, Nat.le_succ _⟩
  | letterClass kind negated => by
      refine ⟨Nat.zero_le _, ?_⟩
      cases kind <;> simp [spell, LetterClass.named?, depth, SetNode.depth]
  | property _ _ => ⟨Nat.le_refl _, Nat.le_succ _⟩
  | bracket _ inside => by
      have hinside := inside.depth_spell
      rw [spell, depth, depth]
      omega
  | repetition inside _ _ _ => by
      have hinside := depth_spell inside
      rw [spell, depth, depth]
      omega
  | group _ inside => by
      have hinside := depth_spell inside
      rw [spell, depth, depth]
      omega
  | alternation branches => by
      have hbranches := depthAll_spellAll branches
      rw [spell, depth, depth]
      omega
  | concat items => by
      have hitems := depthAll_spellAll items
      rw [spell, depth, depth]
      omega

theorem depthAll_spellAll : ∀ nodes : List Node,
    depthAll nodes ≤ depthAll (spellAll nodes) ∧ depthAll (spellAll nodes) ≤ depthAll nodes + 1
  | [] => ⟨Nat.le_refl _, Nat.le_succ _⟩
  | node :: nodes => by
      have hnode := depth_spell node
      have hnodes := depthAll_spellAll nodes
      rw [spellAll, depthAll, depthAll]
      omega

end

end Node

section Meaning

variable {modes : Modes}

theorem Modes.unicode_setAll {settings : FlagSettings} (hunicode : modes.unicode = false)
    (hsettings : .turnedOn ∉ settings.unicodeMarks) :
    (modes.setAll settings).unicode = false := by
  have hoff : (InlineFlag.unicode, true) ∉ settings := by
    intro hmem
    rw [FlagSettings.unicodeMarks, if_pos hmem] at hsettings
    exact hsettings (List.mem_cons_self ..)
  clear hsettings
  induction settings generalizing modes with
  | nil => exact hunicode
  | cons setting settings ih =>
      rw [List.mem_cons, not_or] at hoff
      refine ih ?_ hoff.2
      obtain ⟨flag, value⟩ := setting
      cases flag with
      | unicode =>
          cases value with
          | false => rfl
          | true => exact absurd rfl hoff.1
      | _ => exact hunicode

mutual

/-- Outside Unicode mode a set with a property means nothing. -/
theorem SetNode.hasProperty_of_toSet (hunicode : modes.unicode = false) :
    ∀ (node : SetNode) (set : IntervalSet), node.toSet modes = .ok set → node.hasProperty = false
  | .empty, _, _ => rfl
  | .literal _, _, _ => rfl
  | .range _ _, _, _ => rfl
  | .letterClass _ _, _, _ => rfl
  | .namedClass _ _, _, _ => rfl
  | .property _ _, _, hset => by
      rw [toSet, Modes.property, hunicode] at hset
      contradiction
  | .bracket _ inside, _, hset => by
      obtain ⟨inner, hinside, _⟩ := exists_of_bind_eq_ok hset
      exact hasProperty_of_toSet hunicode inside inner hinside
  | .union items, set, hset => anyProperty_of_toUnion hunicode items set hset
  | .combine _ left right, _, hset => by
      obtain ⟨l, hleft, hset⟩ := exists_of_bind_eq_ok hset
      obtain ⟨r, hright, _⟩ := exists_of_bind_eq_ok hset
      rw [hasProperty, hasProperty_of_toSet hunicode left l hleft,
        hasProperty_of_toSet hunicode right r hright]
      rfl

theorem SetNode.anyProperty_of_toUnion (hunicode : modes.unicode = false) :
    ∀ (items : List SetNode) (set : IntervalSet), SetNode.toUnion modes items = .ok set →
      SetNode.anyProperty items = false
  | [], _, _ => rfl
  | item :: items, _, hset => by
      obtain ⟨first, hitem, hset⟩ := exists_of_bind_eq_ok hset
      obtain ⟨rest, hitems, _⟩ := exists_of_bind_eq_ok hset
      rw [anyProperty, hasProperty_of_toSet hunicode item first hitem,
        anyProperty_of_toUnion hunicode items rest hitems]
      rfl

end

/-- Marks that are met from outside Unicode mode: a property does not come first, and without a mark
the mode stays off. -/
structure Bearable (marks : List UnicodeMark) (after : Modes) : Prop where
  not_asked : marks.head? ≠ some .asked
  off : marks = [] → after.unicode = false

theorem bearable_nil (hunicode : modes.unicode = false) : Bearable [] modes :=
  ⟨by decide, fun _ => hunicode⟩

theorem Bearable.append {front back : List UnicodeMark} {between after : Modes}
    (hfront : Bearable front between) (hback : between.unicode = false → Bearable back after) :
    Bearable (front ++ back) after := by
  cases front with
  | nil => exact hback (hfront.off rfl)
  | cons mark front => exact ⟨hfront.not_asked, fun h => absurd h (List.cons_ne_nil _ _)⟩

theorem bearable_settings (hunicode : modes.unicode = false) (settings : FlagSettings) :
    Bearable settings.unicodeMarks (modes.setAll settings) := by
  refine ⟨?_, fun hnil => Modes.unicode_setAll hunicode (hnil ▸ List.not_mem_nil)⟩
  rw [FlagSettings.unicodeMarks]
  split <;> decide

namespace Regex

mutual

/-- Outside Unicode mode a node means something only if no property is asked for before the mode is
turned on. -/
theorem bearable_ofNode : ∀ (node : Node) (modes after : Modes) (regex : Regex),
    modes.unicode = false → ofNode modes node = .ok (regex, after) →
    Bearable node.unicodeMarks after
  | .empty, _, _, _, hunicode, hmeaning => by
      obtain ⟨_, rfl⟩ := Prod.mk.inj (Except.ok.inj hmeaning)
      exact bearable_nil hunicode
  | .settings settings, _, _, _, hunicode, hmeaning => by
      obtain ⟨_, rfl⟩ := Prod.mk.inj (Except.ok.inj hmeaning)
      exact bearable_settings hunicode settings
  | .literal _, _, _, _, hunicode, hmeaning => by
      obtain ⟨_, rfl⟩ := Prod.mk.inj (Except.ok.inj hmeaning)
      exact bearable_nil hunicode
  | .dot, _, _, _, hunicode, hmeaning => by
      obtain ⟨_, rfl⟩ := Prod.mk.inj (Except.ok.inj hmeaning)
      exact bearable_nil hunicode
  | .assertion _, _, _, _, hunicode, hmeaning => by
      obtain ⟨_, rfl⟩ := Prod.mk.inj (Except.ok.inj hmeaning)
      exact bearable_nil hunicode
  | .letterClass _ _, _, _, _, hunicode, hmeaning => by
      obtain ⟨_, rfl⟩ := Prod.mk.inj (Except.ok.inj hmeaning)
      exact bearable_nil hunicode
  | .property _ _, _, _, _, hunicode, hmeaning => by
      obtain ⟨set, hset, _⟩ := exists_of_bind_eq_ok hmeaning
      rw [Modes.property, hunicode] at hset
      contradiction
  | .bracket _ inside, _, _, _, hunicode, hmeaning => by
      obtain ⟨set, hset, hmeaning⟩ := exists_of_bind_eq_ok hmeaning
      obtain ⟨_, rfl⟩ := Prod.mk.inj (Except.ok.inj hmeaning)
      rw [Node.unicodeMarks, inside.hasProperty_of_toSet hunicode set hset]
      exact bearable_nil hunicode
  | .repetition inside _ _ _, modes, _, _, hunicode, hmeaning => by
      obtain ⟨⟨regex, _⟩, hinside, hmeaning⟩ := exists_of_bind_eq_ok hmeaning
      obtain ⟨_, rfl⟩ := Prod.mk.inj (Except.ok.inj hmeaning)
      exact bearable_ofNode inside modes _ regex hunicode hinside
  | .group (.capture _) inside, modes, _, _, hunicode, hmeaning => by
      obtain ⟨⟨regex, inner⟩, hinside, hmeaning⟩ := exists_of_bind_eq_ok hmeaning
      obtain ⟨_, rfl⟩ := Prod.mk.inj (Except.ok.inj hmeaning)
      have hbearable := bearable_ofNode inside modes inner regex hunicode hinside
      exact ⟨hbearable.not_asked, fun _ => hunicode⟩
  | .group (.plain settings) inside, modes, _, _, hunicode, hmeaning => by
      obtain ⟨⟨regex, inner⟩, hinside, hmeaning⟩ := exists_of_bind_eq_ok hmeaning
      obtain ⟨_, rfl⟩ := Prod.mk.inj (Except.ok.inj hmeaning)
      have hbearable := (bearable_settings hunicode settings).append
        fun hset => bearable_ofNode inside _ inner regex hset hinside
      exact ⟨hbearable.not_asked, fun _ => hunicode⟩
  | .alternation branches, modes, _, _, hunicode, hmeaning => by
      obtain ⟨⟨regexes, _⟩, hbranches, hmeaning⟩ := exists_of_bind_eq_ok hmeaning
      obtain ⟨_, rfl⟩ := Prod.mk.inj (Except.ok.inj hmeaning)
      exact bearable_ofNodes branches modes _ regexes hunicode hbranches
  | .concat items, modes, _, _, hunicode, hmeaning => by
      obtain ⟨⟨regexes, _⟩, hitems, hmeaning⟩ := exists_of_bind_eq_ok hmeaning
      obtain ⟨_, rfl⟩ := Prod.mk.inj (Except.ok.inj hmeaning)
      exact bearable_ofNodes items modes _ regexes hunicode hitems

theorem bearable_ofNodes : ∀ (nodes : List Node) (modes after : Modes) (regexes : List Regex),
    modes.unicode = false → ofNodes modes nodes = .ok (regexes, after) →
    Bearable (Node.unicodeMarksAll nodes) after
  | [], _, _, _, hunicode, hmeaning => by
      obtain ⟨_, rfl⟩ := Prod.mk.inj (Except.ok.inj hmeaning)
      exact bearable_nil hunicode
  | node :: nodes, modes, _, _, hunicode, hmeaning => by
      obtain ⟨⟨regex, between⟩, hnode, hmeaning⟩ := exists_of_bind_eq_ok hmeaning
      obtain ⟨⟨regexes, _⟩, hnodes, hmeaning⟩ := exists_of_bind_eq_ok hmeaning
      obtain ⟨_, rfl⟩ := Prod.mk.inj (Except.ok.inj hmeaning)
      exact (bearable_ofNode node modes between regex hunicode hnode).append
        fun hbetween => bearable_ofNodes nodes between _ regexes hbetween hnodes

end

/-- Unless it is turned on, Unicode mode is off behind what means something outside it. -/
theorem unicode_of_ofNode {node : Node} {after : Modes} {regex : Regex}
    (hunicode : modes.unicode = false) (hmarks : UnicodeMark.turnedOn ∉ node.unicodeMarks)
    (hmeaning : ofNode modes node = .ok (regex, after)) : after.unicode = false := by
  have hbearable := bearable_ofNode node modes after regex hunicode hmeaning
  apply hbearable.off
  have hasked := hbearable.not_asked
  cases hnode : node.unicodeMarks with
  | nil => rfl
  | cons mark marks =>
      rw [hnode] at hasked hmarks
      cases mark with
      | asked => exact absurd rfl hasked
      | turnedOn => exact absurd (List.mem_cons_self ..) hmarks

mutual

/-- Where Unicode mode is never turned on, a node keeps its meaning. -/
theorem ofNode_spell : ∀ (node : Node) (modes : Modes), modes.unicode = false →
    .turnedOn ∉ node.unicodeMarks → ofNode modes node.spell = ofNode modes node
  | .empty, _, _, _ => rfl
  | .settings _, _, _, _ => rfl
  | .literal _, _, _, _ => rfl
  | .dot, _, _, _ => rfl
  | .assertion _, _, _, _ => rfl
  | .letterClass kind negated, modes, hunicode, _ => by
      rw [Node.spell]
      split
      · next named hnamed =>
        rw [ofNode, ofNode, SetNode.toSet_of_named? hnamed hunicode, hunicode]
        change Except.ok (ofCharClass (modes.classOf
          (modes.negate negated (modes.fold (kind.set false)))), modes) = _
        rw [LetterClass.fold_set hnamed hunicode]
      · rfl
  | .property _ _, _, _, _ => rfl
  | .bracket _ inside, _, hunicode, _ => by
      rw [Node.spell, ofNode, ofNode, SetNode.toSet_spell hunicode inside]
  | .repetition inside _ _ _, modes, hunicode, hmarks => by
      rw [Node.spell, ofNode, ofNode, ofNode_spell inside modes hunicode hmarks]
  | .group (.capture _) inside, modes, hunicode, hmarks => by
      rw [Node.spell, ofNode, ofNode, ofNode_spell inside modes hunicode hmarks]
  | .group (.plain settings) inside, modes, hunicode, hmarks => by
      rw [Node.unicodeMarks, List.mem_append, not_or] at hmarks
      have hset := Modes.unicode_setAll hunicode hmarks.1
      rw [Node.spell, ofNode, ofNode, ofNode_spell inside _ hset hmarks.2]
  | .alternation branches, modes, hunicode, hmarks => by
      rw [Node.spell, ofNode, ofNode, ofNodes_spellAll branches modes hunicode hmarks]
  | .concat items, modes, hunicode, hmarks => by
      rw [Node.spell, ofNode, ofNode, ofNodes_spellAll items modes hunicode hmarks]

theorem ofNodes_spellAll : ∀ (nodes : List Node) (modes : Modes), modes.unicode = false →
    .turnedOn ∉ Node.unicodeMarksAll nodes →
    ofNodes modes (Node.spellAll nodes) = ofNodes modes nodes
  | [], _, _, _ => rfl
  | node :: nodes, modes, hunicode, hmarks => by
      rw [Node.unicodeMarksAll, List.mem_append, not_or] at hmarks
      rw [Node.spellAll, ofNodes, ofNodes, ofNode_spell node modes hunicode hmarks.1]
      cases hnode : ofNode modes node with
      | error fault => rfl
      | ok meaning =>
          have hbetween := unicode_of_ofNode hunicode hmarks.1 hnode
          change (ofNodes meaning.2 (Node.spellAll nodes) >>= _) = (ofNodes meaning.2 nodes >>= _)
          rw [ofNodes_spellAll nodes meaning.2 hbetween hmarks.2]

end

end Regex

end Meaning

end BytePattern
