/-
Reading a whole pattern, part by part, with the groups that are open at each point.
-/
import BytePattern.Dialect.Bracket
import BytePattern.Dialect.Opening
import BytePattern.Dialect.Repetition

namespace BytePattern

/-- The inside of a group as far as it has been read: its finished branches and the items of the
branch being read, both last first. -/
structure Level where
  branches : List Node := []
  items : List Node := []
deriving Repr, Inhabited

namespace Level

/-- The branches with the one being read. -/
def node (level : Level) : Node :=
  .ofBranches ((Node.ofItems level.items.reverse) :: level.branches).reverse

/-- Adds an item to the branch being read. -/
def push (level : Level) (item : Node) : Level :=
  { level with items := item :: level.items }

/-- Finishes the branch being read. -/
def branch (level : Level) : Level :=
  ⟨Node.ofItems level.items.reverse :: level.branches, []⟩

end Level

/-- An open group: how it was opened, and what was being read around it. -/
structure OpenGroup where
  opening : Opening
  around : Level
  verbose : Bool
deriving Repr, Inhabited

/-- A pattern as far as it has been read. -/
structure Reading where
  level : Level := {}
  /-- The open groups, innermost first. -/
  groups : List OpenGroup := []
  verbose : Bool := false
  /-- The number of captures opened so far. -/
  captures : Nat := 0
  names : List String := []
deriving Repr, Inhabited

namespace Reading

/-- Adds an item to the branch being read. -/
def push (reading : Reading) (item : Node) : Reading :=
  { reading with level := reading.level.push item }

/-- Whether the parts may be spaced out after flags are set. -/
def verboseAfter (reading : Reading) (settings : FlagSettings) : Bool :=
  (settings.lookup .verbose).getD reading.verbose

/-- Goes into a group. -/
def enter (reading : Reading) (opening : Opening) (verbose : Bool) : Reading :=
  { reading with
    level := {}
    groups := ⟨opening, reading.level, reading.verbose⟩ :: reading.groups
    verbose := verbose }

/-- Acts on what an opening parenthesis turned out to begin. -/
def openGroup (reading : Reading) : GroupHead → Except SyntaxFault Reading
  | .settings settings =>
    .ok { reading.push (.settings settings) with verbose := reading.verboseAfter settings }
  | .plain settings => .ok (reading.enter (.plain settings) (reading.verboseAfter settings))
  | .capture name =>
    if name.any reading.names.contains then .error .groupNameDuplicate
    else
      let index := reading.captures + 1
      let counted := { reading with captures := index, names := name.toList ++ reading.names }
      .ok (counted.enter (.capture index) reading.verbose)

/-- Leaves the innermost group. -/
def closeGroup (reading : Reading) : Except SyntaxFault Reading :=
  match reading.groups with
  | [] => .error .groupUnopened
  | group :: groups =>
    .ok { reading with
      level := group.around.push (.group group.opening reading.level.node)
      groups := groups
      verbose := group.verbose }

/-- Repeats the latest item, which must be something to repeat. -/
def repeatLast (reading : Reading) (repetition : Repetition) : Except SyntaxFault Reading :=
  match reading.level.items with
  | [] => .error .repetitionMissing
  | .settings _ :: _ => .error .repetitionMissing
  | item :: items =>
    let repeated := Node.repetition item repetition.least repetition.most repetition.greedy
    .ok { reading with level := { reading.level with items := repeated :: items } }

/-- What an escape stands for as an item. -/
def itemOf : Primitive → Node
  | .literal literal => .literal literal
  | .assertion assertion => .assertion assertion
  | .letterClass kind negated => .letterClass kind negated
  | .property name negated => .property name negated

/-- Reads the next part of a pattern, which starts with `c`. -/
def step (reading : Reading) (c : Char) (rest : List Char) :
    Except SyntaxFault (Reading × List Char) :=
  if c = '(' then
    match readGroupHead reading.verbose rest with
    | .error fault => .error fault
    | .ok (head, after) => (reading.openGroup head).map (·, after)
  else if c = ')' then reading.closeGroup.map (·, rest)
  else if c = '|' then .ok ({ reading with level := reading.level.branch }, rest)
  else if c = '[' then
    match readBracket reading.verbose rest with
    | .error fault => .error fault
    | .ok ((negated, inside), after) => .ok (reading.push (.bracket negated inside), after)
  else if c = '\\' then
    match readEscape reading.verbose rest with
    | .error fault => .error fault
    | .ok (primitive, after) => .ok (reading.push (itemOf primitive), after)
  else if c = '.' then .ok (reading.push .dot, rest)
  else if c = '^' then .ok (reading.push (.assertion .startLine), rest)
  else if c = '$' then .ok (reading.push (.assertion .endLine), rest)
  else
    match readRepetition? reading.verbose c rest with
    | none => .ok (reading.push (.literal ⟨c, false⟩), rest)
    | some (.error fault) => .error fault
    | some (.ok (repetition, after)) => (reading.repeatLast repetition).map (·, after)

theorem map_pair_eq_ok {α β ε : Type} {result : Except ε α} {b b' : β} {a : α}
    (h : result.map (·, b) = .ok (a, b')) : b = b' := by
  cases result with
  | error e => simp [Except.map] at h
  | ok x =>
    simp only [Except.map, Except.ok.injEq, Prod.mk.injEq] at h
    exact h.2

theorem length_step_le {reading next : Reading} {c : Char} {rest after : List Char}
    (h : reading.step c rest = .ok (next, after)) : after.length ≤ rest.length := by
  unfold step at h
  split at h
  · split at h
    · simp at h
    · next heq => exact map_pair_eq_ok h ▸ length_readGroupHead_le heq
  · split at h
    · exact Nat.le_of_eq (congrArg List.length (map_pair_eq_ok h).symm)
    · split at h
      · simp_all
      · split at h
        · split at h
          · simp at h
          · next heq =>
            have := length_readBracket_lt heq
            simp only [Except.ok.injEq, Prod.mk.injEq] at h
            exact h.2 ▸ Nat.le_of_lt this
        · split at h
          · split at h
            · simp at h
            · next heq =>
              have := length_readEscape_le heq
              simp_all
          · split at h
            · simp_all
            · split at h
              · simp_all
              · split at h
                · simp_all
                · split at h
                  · simp_all
                  · simp at h
                  · next heq => exact map_pair_eq_ok h ▸ length_readRepetition?_le heq

/-- Reads the rest of a pattern. -/
def run (reading : Reading) (text : List Char) : Except SyntaxFault Node :=
  match _hs : skipSpace reading.verbose text with
  | [] => if reading.groups.isEmpty then .ok reading.level.node else .error .groupUnclosed
  | c :: rest =>
    match _h : reading.step c rest with
    | .error fault => .error fault
    | .ok (next, after) => next.run after
termination_by text.length
decreasing_by
  have h1 := length_skipSpace_le reading.verbose text
  have h2 := length_step_le _h
  rw [_hs] at h1
  simp only [List.length_cons] at h1
  omega

end Reading

/-- Takes a pattern text apart. -/
def Node.parse (text : String) : Except SyntaxFault Node :=
  match Reading.run {} text.toList with
  | .error fault => .error fault
  | .ok node => if node.depth ≤ Node.depthLimit then .ok node else .error .nestTooDeep

end BytePattern
