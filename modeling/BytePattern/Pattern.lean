/-
Patterns and the walk over their matches.  Every search is recorded, so that what an operation costs
and what it warns about can be read off its result.
-/
import BytePattern.Program

namespace BytePattern

/-- A program together with what was found out about its pattern when it was compiled. -/
structure Compiled where
  program : Program
  /-- The groups that lie in no other group, left to right. -/
  outerGroups : List Nat
  /-- The text the engine was given. -/
  expanded : String

/-- A handle on a compiled pattern.  One that failed to compile is absent and matches nowhere. -/
structure Pattern where
  text : String
  flags : Flags
  compiled : Option Compiled

/-- One search by a program: the length of its subject, the number of groups wanted, and what came
of it. -/
structure Search where
  length : Nat
  want : Nat
  outcome : Except ExecError (Option Captures)

namespace Search

/-- What was found; a failed search finds nothing. -/
def found (search : Search) : Option Captures :=
  match search.outcome with
  | .ok caps => caps
  | .error _ => none

/-- The warning that a failed search gives rise to. -/
def warning? (text : String) (search : Search) : Option String :=
  match search.outcome with
  | .ok _ => none
  | .error e => some ("Regex match error: " ++ e.message ++ ", in pattern \"" ++ text ++ "\"")

end Search

/-- A result and the searches made for it, in order. -/
structure Traced (α : Type) where
  value : α
  searches : List Search := []

namespace Traced

/-- Applies a function to the result. -/
def map {α β : Type} (f : α → β) (traced : Traced α) : Traced β :=
  ⟨f traced.value, traced.searches⟩

@[simp] theorem value_map {α β : Type} (f : α → β) (traced : Traced α) :
    (traced.map f).value = f traced.value := rfl

@[simp] theorem searches_map {α β : Type} (f : α → β) (traced : Traced α) :
    (traced.map f).searches = traced.searches := rfl

end Traced

namespace Pattern

/-- Whether the pattern compiled. -/
def isCompiled (pattern : Pattern) : Bool :=
  pattern.compiled.isSome

/-- The number of groups, zero for an absent pattern. -/
def groupLen (pattern : Pattern) : Nat :=
  match pattern.compiled with
  | some compiled => compiled.program.groupLen
  | none => 0

/-- The groups that lie in no other group. -/
def outerGroups (pattern : Pattern) : List Nat :=
  match pattern.compiled with
  | some compiled => compiled.outerGroups
  | none => []

/-- The warnings of a run of searches, in order. -/
def warnings (pattern : Pattern) (searches : List Search) : List String :=
  searches.filterMap (·.warning? pattern.text)

/-- Searches the haystack from `offset` on as a fresh subject; the spans found count from the start
of the haystack, as far as a word can count. -/
def execute (pattern : Pattern) (haystack : Bytes) (offset want : Nat) : Traced (Option Captures) :=
  match pattern.compiled with
  | none => ⟨none, []⟩
  | some compiled =>
    if offset ≤ haystack.length then
      let outcome := compiled.program.execute (haystack.drop offset) want
      let search : Search := ⟨haystack.length - offset, want, outcome⟩
      ⟨search.found.map (·.wrap haystack.positions offset), [search]⟩
    else ⟨none, []⟩

end Pattern

/-- A walk over the successive matches of a pattern: where the next search starts, and whether the
walk is over. -/
structure Matches where
  pattern : Pattern
  haystack : Bytes
  want : Nat
  pos : Nat
  done : Bool

namespace Matches

/-- The walk that starts at the front; over an absent pattern there is none. -/
def start (pattern : Pattern) (haystack : Bytes) (want : Nat) : Matches :=
  ⟨pattern, haystack, want, 0, !pattern.isCompiled⟩

/-- Where the search after a match starts: at its end, or one byte later if it was empty. -/
def resume (span : Span) : Nat :=
  if span.isEmpty then span.stop + 1 else span.stop

/-- The walk after the match `caps`. -/
def advance (walk : Matches) (caps : Captures) : Matches :=
  let pos := resume caps.range
  { walk with pos := pos, done := decide (walk.haystack.length < pos) }

/-- Looks for the next match.  Once there is none the walk is over and nothing is searched again. -/
def next (walk : Matches) : Traced (Option Captures) × Matches :=
  if walk.done then (⟨none, []⟩, walk)
  else
    let step := walk.pattern.execute walk.haystack walk.pos walk.want
    match step.value with
    | none => (step, { walk with done := true })
    | some caps => (step, walk.advance caps)

/-- At most `n` further matches, with no search beyond the last of them. -/
def take : Nat → Matches → Traced (List Captures)
  | 0, _ => ⟨[], []⟩
  | n + 1, walk =>
    let (step, rest) := walk.next
    match step.value with
    | none => ⟨[], step.searches⟩
    | some caps =>
      let more := take n rest
      ⟨caps :: more.value, step.searches ++ more.searches⟩

/-- All further matches.  Each of them moves the walk forward, so that one more than the haystack is
long is a bound that never cuts any off. -/
def all (walk : Matches) : Traced (List Captures) :=
  walk.take (walk.haystack.length + 1)

end Matches

end BytePattern
