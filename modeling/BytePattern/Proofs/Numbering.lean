/-
What reading one part of a pattern does.  The captures of a pattern are numbered in the order in
which they open, without a gap.
-/
import BytePattern.Dialect.Reading
import Mathlib.Data.List.Nodup

namespace BytePattern

/-- The number that opening a group takes, if it captures. -/
def Opening.opened : Opening → List Nat
  | capture index => [index]
  | plain _ => []

namespace Node

mutual

/-- The captures of a node in the order in which they open. -/
def opened : Node → List Nat
  | repetition inside _ _ _ => opened inside
  | group opening inside => opening.opened ++ opened inside
  | alternation branches => openedAll branches
  | concat items => openedAll items
  | _ => []

/-- The captures of the nodes, one after the other. -/
def openedAll : List Node → List Nat
  | [] => []
  | node :: nodes => opened node ++ openedAll nodes

end

theorem openedAll_append (front back : List Node) :
    openedAll (front ++ back) = openedAll front ++ openedAll back := by
  induction front with
  | nil => rfl
  | cons node front ih => rw [List.cons_append, openedAll, openedAll, ih, List.append_assoc]

theorem openedAll_reverse_cons (node : Node) (nodes : List Node) :
    openedAll (node :: nodes).reverse = openedAll nodes.reverse ++ node.opened := by
  rw [List.reverse_cons, openedAll_append, openedAll, openedAll, List.append_nil]

theorem opened_ofItems (items : List Node) : (ofItems items).opened = openedAll items := by
  unfold ofItems
  split
  · rfl
  · exact (List.append_nil _).symm
  · rfl

theorem opened_ofBranches (branches : List Node) :
    (ofBranches branches).opened = openedAll branches := by
  unfold ofBranches
  split
  · rfl
  · exact (List.append_nil _).symm
  · rfl

end Node

namespace Level

/-- The captures opened on a level so far. -/
def opened (level : Level) : List Nat :=
  Node.openedAll level.branches.reverse ++ Node.openedAll level.items.reverse

theorem opened_push (level : Level) (item : Node) :
    (level.push item).opened = level.opened ++ item.opened := by
  rw [opened, opened, push, Node.openedAll_reverse_cons, List.append_assoc]

theorem opened_branch (level : Level) : level.branch.opened = level.opened := by
  rw [opened, opened, branch, Node.openedAll_reverse_cons, Node.opened_ofItems, List.reverse_nil,
    Node.openedAll, List.append_nil]

theorem opened_node (level : Level) : level.node.opened = level.opened := by
  rw [node, Node.opened_ofBranches, Node.openedAll_reverse_cons, Node.opened_ofItems, opened]

end Level

/-- The captures opened up to the inside of the innermost group. -/
def OpenGroup.openedAll : List OpenGroup → List Nat
  | [] => []
  | group :: groups => openedAll groups ++ (group.around.opened ++ group.opening.opened)

namespace Reading

/-- The captures opened so far. -/
def opened (reading : Reading) : List Nat :=
  OpenGroup.openedAll reading.groups ++ reading.level.opened

/-- The captures opened so far have the numbers from one on. -/
def Numbered (reading : Reading) : Prop :=
  reading.opened = List.range' 1 reading.captures

/-- What reading one part of a pattern does. -/
inductive Step (reading : Reading) : Reading → Prop where
  | push (item : Node) (verbose : Bool) (hitem : item.opened = []) :
      Step reading { reading.push item with verbose := verbose }
  | enter (settings : FlagSettings) (verbose : Bool) :
      Step reading (reading.enter (.plain settings) verbose)
  | capture (names : List String) :
      Step reading
        (({ reading with captures := reading.captures + 1, names := names } : Reading).enter
          (.capture (reading.captures + 1)) reading.verbose)
  | close (group : OpenGroup) (groups : List OpenGroup)
      (hgroups : reading.groups = group :: groups) :
      Step reading
        { reading with
          level := group.around.push (.group group.opening reading.level.node)
          groups := groups
          verbose := group.verbose }
  | branch : Step reading { reading with level := reading.level.branch }
  | again (repetition : Repetition) (item : Node) (items : List Node)
      (hitems : reading.level.items = item :: items) :
      Step reading
        { reading with
          level := { reading.level with
            items :=
              .repetition item repetition.least repetition.most repetition.greedy :: items } }

variable {reading next : Reading}

theorem step_of_openGroup {head : GroupHead} (hopen : reading.openGroup head = .ok next) :
    Step reading next := by
  cases head with
  | settings settings =>
      obtain rfl := Except.ok.inj hopen
      exact Step.push (.settings settings) _ rfl
  | plain settings =>
      obtain rfl := Except.ok.inj hopen
      exact Step.enter settings _
  | capture name =>
      rw [openGroup] at hopen
      split at hopen
      · simp at hopen
      · obtain rfl := Except.ok.inj hopen
        exact Step.capture _

theorem step_of_closeGroup (hclose : reading.closeGroup = .ok next) : Step reading next := by
  unfold closeGroup at hclose
  split at hclose
  · simp at hclose
  · next group groups hgroups =>
    obtain rfl := Except.ok.inj hclose
    exact Step.close group groups hgroups

theorem step_of_repeatLast {repetition : Repetition}
    (hrepeat : reading.repeatLast repetition = .ok next) : Step reading next := by
  unfold repeatLast at hrepeat
  split at hrepeat
  · simp at hrepeat
  · simp at hrepeat
  · next item items _ hitems =>
    obtain rfl := Except.ok.inj hrepeat
    exact Step.again repetition item items hitems

theorem opened_itemOf (primitive : Primitive) : (itemOf primitive).opened = [] := by
  cases primitive <;> rfl

theorem step_of_push {item : Node} (hitem : item.opened = []) : Step reading (reading.push item) :=
  Step.push item reading.verbose hitem

theorem eq_ok_of_map_pair {α β ε : Type} {result : Except ε α} {a : α} {b b' : β}
    (hmap : result.map (·, b) = .ok (a, b')) : result = .ok a := by
  cases result with
  | error error => simp [Except.map] at hmap
  | ok value =>
      simp only [Except.map, Except.ok.injEq, Prod.mk.injEq] at hmap
      rw [hmap.1]

theorem step_of_eq_ok {c : Char} {rest after : List Char}
    (hstep : reading.step c rest = .ok (next, after)) : Step reading next := by
  have hpush {item : Node} {text : List Char} (hitem : item.opened = [])
      (hresult : (.ok (reading.push item, text) : Except SyntaxFault (Reading × List Char)) =
        .ok (next, after)) : Step reading next := by
    obtain ⟨rfl, _⟩ := Prod.mk.inj (Except.ok.inj hresult)
    exact step_of_push hitem
  unfold step at hstep
  split at hstep
  · split at hstep
    · simp at hstep
    · exact step_of_openGroup (eq_ok_of_map_pair hstep)
  · split at hstep
    · exact step_of_closeGroup (eq_ok_of_map_pair hstep)
    · split at hstep
      · obtain ⟨rfl, _⟩ := Prod.mk.inj (Except.ok.inj hstep)
        exact Step.branch
      · split at hstep
        · split at hstep
          · simp at hstep
          · exact hpush rfl hstep
        · split at hstep
          · split at hstep
            · simp at hstep
            · exact hpush (opened_itemOf _) hstep
          · split at hstep
            · exact hpush rfl hstep
            · split at hstep
              · exact hpush rfl hstep
              · split at hstep
                · exact hpush rfl hstep
                · split at hstep
                  · exact hpush rfl hstep
                  · simp at hstep
                  · exact step_of_repeatLast (eq_ok_of_map_pair hstep)

/-- The characters that begin something else than a repetition or a literal. -/
def signs : List Char := ['(', ')', '|', '[', '\\', '.', '^', '$']

theorem step_of_not_sign {c : Char} {rest : List Char} (hc : c ∉ signs) :
    reading.step c rest =
      match readRepetition? reading.verbose c rest with
      | none => .ok (reading.push (.literal ⟨c, false⟩), rest)
      | some (.error fault) => .error fault
      | some (.ok (repetition, after)) => (reading.repeatLast repetition).map (·, after) := by
  simp only [signs, List.mem_cons, List.not_mem_nil, or_false, not_or] at hc
  obtain ⟨h1, h2, h3, h4, h5, h6, h7, h8⟩ := hc
  rw [step, if_neg h1, if_neg h2, if_neg h3, if_neg h4, if_neg h5, if_neg h6, if_neg h7]
  exact if_neg h8

theorem step_parenthesis (reading : Reading) (rest : List Char) :
    reading.step '(' rest = (readGroupHead reading.verbose rest).bind
      fun found => (reading.openGroup found.1).map (·, found.2) := by
  rw [step, if_pos rfl]
  cases readGroupHead reading.verbose rest <;> rfl

theorem step_bracket (reading : Reading) (rest : List Char) :
    reading.step '[' rest = (readBracket reading.verbose rest).map
      (Prod.map (fun (negated, inside) => reading.push (.bracket negated inside)) id) := by
  rw [step, if_neg (by decide), if_neg (by decide), if_neg (by decide), if_pos rfl]
  cases readBracket reading.verbose rest <;> rfl

theorem step_backslash (reading : Reading) (rest : List Char) :
    reading.step '\\' rest = (readSetPrimitive reading.verbose '\\' rest).map
      (Prod.map (fun primitive => reading.push (itemOf primitive)) id) := by
  have hread : readSetPrimitive reading.verbose '\\' rest = readEscape reading.verbose rest :=
    if_pos rfl
  rw [step, if_neg (by decide), if_neg (by decide), if_neg (by decide), if_neg (by decide),
    if_pos rfl, hread]
  cases readEscape reading.verbose rest <;> rfl

theorem opened_push (reading : Reading) (item : Node) :
    (reading.push item).opened = reading.opened ++ item.opened := by
  rw [opened, opened, push, Level.opened_push, List.append_assoc]

theorem opened_enter (reading : Reading) (opening : Opening) (verbose : Bool) :
    (reading.enter opening verbose).opened = reading.opened ++ opening.opened := by
  have hempty : Level.opened {} = [] := rfl
  rw [opened, opened, enter, OpenGroup.openedAll, hempty, List.append_nil, List.append_assoc]

theorem Step.numbered (hstep : Step reading next) (hreading : reading.Numbered) :
    next.Numbered := by
  unfold Numbered at hreading ⊢
  cases hstep with
  | push item verbose hitem =>
      change (reading.push item).opened = _
      rw [opened_push, hitem, List.append_nil]
      exact hreading
  | enter settings verbose =>
      rw [opened_enter, Opening.opened, List.append_nil]
      exact hreading
  | capture names =>
      rw [opened_enter]
      change reading.opened ++ [reading.captures + 1] = List.range' 1 (reading.captures + 1)
      rw [hreading, List.range'_1_concat, Nat.add_comm 1]
  | close group groups hgroups =>
      rw [opened, hgroups, OpenGroup.openedAll] at hreading
      rw [opened, Level.opened_push, Node.opened, Level.opened_node, ← List.append_assoc,
        ← List.append_assoc]
      rw [← List.append_assoc] at hreading
      exact hreading
  | branch =>
      rw [opened, Level.opened_branch]
      exact hreading
  | again repetition item items hitems =>
      rw [opened, Level.opened, hitems, Node.openedAll_reverse_cons] at hreading
      rw [opened, Level.opened, Node.openedAll_reverse_cons]
      exact hreading

/-- Reading goes on behind a part that can be read. -/
theorem run_of_step {c : Char} {text rest after : List Char}
    (hspace : skipSpace reading.verbose text = c :: rest)
    (hstep : reading.step c rest = .ok (next, after)) : reading.run text = next.run after := by
  rw [run]
  split
  · next hnil =>
    rw [hspace] at hnil
    simp at hnil
  · next hcons =>
    rw [hspace] at hcons
    obtain ⟨rfl, rfl⟩ := List.cons.inj hcons
    split
    · next herror =>
      rw [hstep] at herror
      simp at herror
    · next hok =>
      rw [hstep] at hok
      obtain ⟨rfl, rfl⟩ := Prod.mk.inj (Except.ok.inj hok)
      rfl

/-- Whatever is read, the captures in it are numbered from one on. -/
theorem opened_of_run {text : List Char} {node : Node} (hreading : reading.Numbered)
    (hrun : reading.run text = .ok node) : ∃ count, node.opened = List.range' 1 count := by
  fun_induction run reading text with
  | case1 reading text _ hgroups =>
      obtain rfl := Except.ok.inj hrun
      rw [Numbered, opened, List.isEmpty_iff.mp hgroups] at hreading
      exact ⟨reading.captures, (Level.opened_node _).trans hreading⟩
  | case2 => simp at hrun
  | case3 => simp at hrun
  | case4 reading text c rest _ next after hstep ih =>
      exact ih ((step_of_eq_ok hstep).numbered hreading) hrun

end Reading

namespace Node

variable {text : String} {node : Node}

theorem parse_eq_ok_iff :
    parse text = .ok node ↔ Reading.run {} text.toList = .ok node ∧ node.depth ≤ depthLimit := by
  rw [parse]
  cases Reading.run {} text.toList with
  | error fault => simp
  | ok found =>
      by_cases hdepth : found.depth ≤ depthLimit
      · simp only [hdepth, ↓reduceIte, Except.ok.injEq]
        exact ⟨fun h => ⟨h, h ▸ hdepth⟩, fun h => h.1⟩
      · simp only [hdepth, ↓reduceIte, reduceCtorEq, Except.ok.injEq, false_iff]
        exact fun h => hdepth (h.1 ▸ h.2)

theorem opened_of_parse (hparse : parse text = .ok node) :
    ∃ count, node.opened = List.range' 1 count := by
  obtain ⟨hrun, _⟩ := parse_eq_ok_iff.mp hparse
  have hstart : Reading.Numbered {} := rfl
  exact Reading.opened_of_run hstart hrun

end Node

end BytePattern
