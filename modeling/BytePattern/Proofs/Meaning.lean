/-
The captures of what a pattern means.  They can be told from the pattern alone, whatever its flags
are.
-/
import BytePattern.OuterGroups
import BytePattern.Proofs.Capturing
import BytePattern.Proofs.Numbering

namespace BytePattern

namespace Node

mutual

/-- The captures of a node that are not repeated zero times, those inside other captures only if
asked for. -/
def captures (inner : Bool) : Node → List Nat
  | repetition inside least most _ =>
    if least = 0 ∧ most = some 0 then [] else captures inner inside
  | group (.capture index) inside => index :: if inner then captures inner inside else []
  | group (.plain _) inside => captures inner inside
  | alternation branches => capturesAll inner branches
  | concat items => capturesAll inner items
  | _ => []

/-- The captures of the nodes, one after the other. -/
def capturesAll (inner : Bool) : List Node → List Nat
  | [] => []
  | node :: nodes => captures inner node ++ capturesAll inner nodes

end

variable {inner : Bool}

mutual

theorem captures_sublist : ∀ node : Node, (node.captures inner).Sublist node.opened
  | empty => .refl _
  | settings _ => .refl _
  | literal _ => .refl _
  | dot => .refl _
  | assertion _ => .refl _
  | letterClass _ _ => .refl _
  | property _ _ => .refl _
  | bracket _ _ => .refl _
  | repetition inside least most _ => by
      rw [captures]
      split
      · exact List.nil_sublist _
      · exact captures_sublist inside
  | group (.capture index) inside => by
      rw [captures, opened, Opening.opened, List.singleton_append]
      apply List.Sublist.cons_cons
      split
      · exact captures_sublist inside
      · exact List.nil_sublist _
  | group (.plain _) inside => captures_sublist inside
  | alternation branches => capturesAll_sublist branches
  | concat items => capturesAll_sublist items

theorem capturesAll_sublist : ∀ nodes : List Node,
    (capturesAll inner nodes).Sublist (openedAll nodes)
  | [] => .refl _
  | node :: nodes => (captures_sublist node).append (capturesAll_sublist nodes)

end

end Node

theorem exists_of_bind_eq_ok {α β ε : Type} {result : Except ε α} {next : α → Except ε β} {b : β}
    (hbind : result >>= next = .ok b) : ∃ a, result = .ok a ∧ next a = .ok b := by
  cases result with
  | error error => simp [bind, Except.bind] at hbind
  | ok a => exact ⟨a, rfl, hbind⟩

namespace Regex

theorem captures_ofLiteral (inner : Bool) (modes : Modes) (l : Literal) :
    (ofLiteral modes l).captures inner = [] := by
  unfold ofLiteral
  split
  · dsimp only
    split
    · exact captures_ofCharClass _
    · rfl
  · split
    · rfl
    · split
      · exact captures_ofCharClass _
      · rfl

theorem captures_ofAssertion (inner : Bool) (modes : Modes) (assertion : Assertion) :
    (ofAssertion modes assertion).captures inner = [] := by
  cases assertion <;> rfl

mutual

/-- What a node means has the captures that can be told from the node. -/
theorem captures_ofNode : ∀ (node : Node) (modes after : Modes) (regex : Regex),
    ofNode modes node = .ok (regex, after) → (node.captures true).Nodup →
    ∀ inner, regex.captures inner = node.captures inner
  | .empty, _, _, _, hmeaning, _, _ => by
      obtain ⟨rfl, _⟩ := Prod.mk.inj (Except.ok.inj hmeaning)
      rfl
  | .settings _, _, _, _, hmeaning, _, _ => by
      obtain ⟨rfl, _⟩ := Prod.mk.inj (Except.ok.inj hmeaning)
      rfl
  | .literal _, _, _, _, hmeaning, _, inner => by
      obtain ⟨rfl, _⟩ := Prod.mk.inj (Except.ok.inj hmeaning)
      exact captures_ofLiteral inner _ _
  | .dot, _, _, _, hmeaning, _, _ => by
      obtain ⟨rfl, _⟩ := Prod.mk.inj (Except.ok.inj hmeaning)
      exact captures_ofCharClass _
  | .assertion _, _, _, _, hmeaning, _, inner => by
      obtain ⟨rfl, _⟩ := Prod.mk.inj (Except.ok.inj hmeaning)
      exact captures_ofAssertion inner _ _
  | .letterClass _ _, _, _, _, hmeaning, _, _ => by
      obtain ⟨rfl, _⟩ := Prod.mk.inj (Except.ok.inj hmeaning)
      exact captures_ofCharClass _
  | .property _ _, _, _, _, hmeaning, _, _ => by
      obtain ⟨_, _, hmeaning⟩ := exists_of_bind_eq_ok hmeaning
      obtain ⟨rfl, _⟩ := Prod.mk.inj (Except.ok.inj hmeaning)
      exact captures_ofCharClass _
  | .bracket _ _, _, _, _, hmeaning, _, _ => by
      obtain ⟨_, _, hmeaning⟩ := exists_of_bind_eq_ok hmeaning
      obtain ⟨rfl, _⟩ := Prod.mk.inj (Except.ok.inj hmeaning)
      exact captures_ofCharClass _
  | .repetition inside least most _, modes, _, _, hmeaning, hnodup, inner => by
      obtain ⟨⟨regex, _⟩, hinside, hmeaning⟩ := exists_of_bind_eq_ok hmeaning
      obtain ⟨rfl, _⟩ := Prod.mk.inj (Except.ok.inj hmeaning)
      rw [captures_repetition, Node.captures]
      rw [Node.captures] at hnodup
      split
      · rfl
      · next hbounds =>
        rw [if_neg hbounds] at hnodup
        exact captures_ofNode inside modes _ regex hinside hnodup inner
  | .group (.capture index) inside, modes, _, _, hmeaning, hnodup, inner => by
      obtain ⟨⟨regex, _⟩, hinside, hmeaning⟩ := exists_of_bind_eq_ok hmeaning
      obtain ⟨rfl, _⟩ := Prod.mk.inj (Except.ok.inj hmeaning)
      rw [Node.captures, if_pos rfl, List.nodup_cons] at hnodup
      rw [captures, Node.captures, captures_ofNode inside modes _ regex hinside hnodup.2 inner]
  | .group (.plain settings) inside, modes, _, _, hmeaning, hnodup, inner => by
      obtain ⟨⟨regex, _⟩, hinside, hmeaning⟩ := exists_of_bind_eq_ok hmeaning
      obtain ⟨rfl, _⟩ := Prod.mk.inj (Except.ok.inj hmeaning)
      exact captures_ofNode inside _ _ regex hinside hnodup inner
  | .alternation branches, modes, _, _, hmeaning, hnodup, inner => by
      obtain ⟨⟨regexes, _⟩, hbranches, hmeaning⟩ := exists_of_bind_eq_ok hmeaning
      obtain ⟨rfl, _⟩ := Prod.mk.inj (Except.ok.inj hmeaning)
      have hsame := captures_ofNodes branches modes _ regexes hbranches hnodup
      rw [captures_branching (hsame true ▸ hnodup), hsame inner]
      rfl
  | .concat items, modes, _, _, hmeaning, hnodup, inner => by
      obtain ⟨⟨regexes, _⟩, hitems, hmeaning⟩ := exists_of_bind_eq_ok hmeaning
      obtain ⟨rfl, _⟩ := Prod.mk.inj (Except.ok.inj hmeaning)
      rw [captures_row, captures_ofNodes items modes _ regexes hitems hnodup inner]
      rfl

theorem captures_ofNodes : ∀ (nodes : List Node) (modes after : Modes) (regexes : List Regex),
    ofNodes modes nodes = .ok (regexes, after) → (Node.capturesAll true nodes).Nodup →
    ∀ inner, capturesAll inner regexes = Node.capturesAll inner nodes
  | [], _, _, _, hmeaning, _, _ => by
      obtain ⟨rfl, _⟩ := Prod.mk.inj (Except.ok.inj hmeaning)
      rfl
  | node :: nodes, modes, _, _, hmeaning, hnodup, inner => by
      obtain ⟨⟨regex, between⟩, hnode, hmeaning⟩ := exists_of_bind_eq_ok hmeaning
      obtain ⟨⟨regexes, _⟩, hnodes, hmeaning⟩ := exists_of_bind_eq_ok hmeaning
      obtain ⟨rfl, _⟩ := Prod.mk.inj (Except.ok.inj hmeaning)
      rw [Node.capturesAll, List.nodup_append'] at hnodup
      rw [capturesAll, Node.capturesAll,
        captures_ofNode node modes _ regex hnode hnodup.1 inner,
        captures_ofNodes nodes between _ regexes hnodes hnodup.2.1 inner]

end

variable {text : String} {modes : Modes} {regex : Regex}

theorem parse_eq_ok_iff :
    parse text modes = .ok regex ↔
      ∃ node after, Node.parse text = .ok node ∧ ofNode modes node = .ok (regex, after) := by
  constructor
  · intro hparse
    obtain ⟨node, hnode, hparse⟩ := exists_of_bind_eq_ok hparse
    obtain ⟨⟨meaning, after⟩, hmeaning, hparse⟩ := exists_of_bind_eq_ok hparse
    obtain rfl := Except.ok.inj hparse
    exact ⟨node, after, hnode, hmeaning⟩
  · rintro ⟨node, after, hnode, hmeaning⟩
    rw [parse, hnode]
    change (ofNode modes node >>= _) = _
    rw [hmeaning]
    rfl

/-- The captures of what a pattern text means do not depend on the modes. -/
theorem captures_of_parse {node : Node} (hnode : Node.parse text = .ok node)
    (hparse : parse text modes = .ok regex) (inner : Bool) :
    regex.captures inner = node.captures inner := by
  obtain ⟨parsed, after, hparsed, hmeaning⟩ := parse_eq_ok_iff.mp hparse
  obtain rfl := Except.ok.inj (hnode.symm.trans hparsed)
  obtain ⟨count, hcount⟩ := Node.opened_of_parse hnode
  have hnodup : (node.captures true).Nodup :=
    (hcount ▸ List.nodup_range' : node.opened.Nodup).sublist node.captures_sublist
  exact captures_ofNode node modes after regex hmeaning hnodup inner

/-- Two readings of a text under different modes have the same outer groups. -/
theorem outerGroups_eq_of_parse {modes' : Modes} {regex' : Regex}
    (hparse : parse text modes = .ok regex) (hparse' : parse text modes' = .ok regex') :
    regex.outerGroups = regex'.outerGroups := by
  obtain ⟨node, _, hnode, _⟩ := parse_eq_ok_iff.mp hparse
  rw [outerGroups_eq, outerGroups_eq, captures_of_parse hnode hparse,
    captures_of_parse hnode hparse']

end Regex

theorem outerGroups?_eq_some_iff {text : String} {flags : Flags} {groups : List Nat} :
    outerGroups? text flags = some groups ↔
      ∃ regex, Regex.parse text (.ofFlags flags false) = .ok regex ∧
        regex.outerGroups = groups := by
  rw [outerGroups?]
  cases Regex.parse text (.ofFlags flags false) with
  | error fault => simp
  | ok regex => simp

end BytePattern
