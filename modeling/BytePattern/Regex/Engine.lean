/-
The default engine, which compiles patterns of the dialect, and the limits it searches under.
-/
import BytePattern.Program
import BytePattern.Regex.Meaning
import BytePattern.Regex.Search

namespace BytePattern

/-- The options of the default engine. -/
structure SearchOptions where
  /-- The memory that a search may use to note what it has met, in bytes. -/
  visitedCapacity : Nat := 0xFFFFFFFFFFFFFFFF / 8
  /-- Subjects longer than this are searched without that limit. -/
  backtrackLimit : Nat := 4096
  /-- Whether patterns are in Unicode mode from the start. -/
  unicode : Bool := false
deriving DecidableEq, Repr, Inhabited

namespace SearchOptions

/-- The states of a search: its instructions, the two ends of the whole match, and two for the loop
that looks for its start.  The automaton that is searched in may have other states than the code has
instructions: jumps are none, and long alternations, literals that share a start and characters of
several bytes are laid out in another way.  The count is therefore only near to the one that decides
whether a search is refused. -/
def stateCount (code : Array Inst) : Nat :=
  code.size + 4

/-- Whether the search of a subject would need more memory than it may use, which is one bit for
each state at each position. -/
def refuses (options : SearchOptions) (states length : Nat) : Bool :=
  length ≤ options.backtrackLimit && 8 * options.visitedCapacity < states * (length + 1)

/-- The program of an expression.  A search keeps slots for the groups that are wanted only, one
group at least and none beyond the last. -/
def program (options : SearchOptions) (regex : Regex) : Program :=
  let code := (Code.whole regex).toArray
  let groupLen := regex.lastCapture + 1
  { groupLen := groupLen
    execute := fun subject want =>
      if options.refuses (stateCount code) subject.length then .error (.tooLong subject.length)
      else
        let wanted := min (max 1 want) groupLen
        .ok ((Code.search code (2 * wanted) subject).map (.ofSlots groupLen)) }

/-- Compiles a pattern text. -/
def compile (options : SearchOptions) (request : Request) : Except CompileError Program :=
  match Regex.parse request.text (.ofFlags request.flags options.unicode) with
  | .ok regex => .ok (options.program regex)
  | .error fault => .error (.malformed fault)

/-- The default engine. -/
def engine (options : SearchOptions) : Engine where
  compile := fun _ request => options.compile request

theorem engine_stateless (options : SearchOptions) : options.engine.Stateless :=
  fun _ _ _ => rfl

end SearchOptions

end BytePattern
