/-
The seam between patterns and engines.  An engine compiles a request to a program; a program
searches one subject for its leftmost match.
-/
import BytePattern.Captures
import BytePattern.Error
import BytePattern.Flags

namespace BytePattern

/-- The number that asks for every group, and the largest group number a reference can hold. -/
def everyGroup : Nat := 0xFFFFFFFFFFFFFFFF

/-- A compiled pattern: how many groups it has, and its search of a subject when only the first
`want` groups need to be reported. -/
structure Program where
  groupLen : Nat
  execute : Bytes → Nat → Except ExecError (Option Captures)

/-- What an engine is asked to compile. -/
structure Request where
  text : String
  flags : Flags
deriving DecidableEq, Repr, Inhabited

/-- An engine answers a request, and its answer may depend on the requests it had before, latest
first. -/
structure Engine where
  compile : List Request → Request → Except CompileError Program

/-- An engine whose answers do not depend on earlier requests. -/
def Engine.Stateless (engine : Engine) : Prop :=
  ∀ before before' request, engine.compile before request = engine.compile before' request

namespace Program

/-- Tries each position of the subject in turn and takes the first that matches.  The matcher is
told whether it stands at the start. -/
def firstMatch (matchAt : Bool → Bytes → Option Captures) : Nat → Bytes → Option Captures
  | pos, subject =>
    match matchAt (pos == 0) subject with
    | some caps => some (caps.shift pos)
    | none =>
      match subject with
      | [] => none
      | _ :: rest => firstMatch matchAt (pos + 1) rest
termination_by structural _ subject => subject

/-- The program that finds the leftmost position at which a matcher succeeds, and reports the groups
that are wanted. -/
def leftmost (groupLen : Nat) (matchAt : Bool → Bytes → Option Captures) : Program where
  groupLen := groupLen
  execute := fun subject want =>
    .ok ((firstMatch matchAt 0 subject).map (·.truncate (max 1 want)))

end Program

end BytePattern
