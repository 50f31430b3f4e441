/-
Tables that name a property of every code point, as runs of code points with the same name.
-/
import BytePattern.IntervalSet

namespace BytePattern

/-- Neighbouring code points with the same name. -/
structure Run where
  name : String
  length : Nat
deriving DecidableEq, Repr, Inhabited

namespace Run

/-- Reads a table from its end, with the rest of a name and the digits of a length as far as they
have been read.  A capital begins a name, and a missing length is 1. -/
def readFromEnd : List Char → List Char × List Char × List Run
  | [] => ([], [], [])
  | c :: rest =>
    let (letters, digits, runs) := readFromEnd rest
    if c.isDigit then (letters, c :: digits, runs)
    else if c.isUpper then
      let length := if digits.isEmpty then 1 else Nat.ofDigitChars 10 digits 0
      ([], [], ⟨String.ofList (c :: letters), length⟩ :: runs)
    else (c :: letters, digits, runs)

/-- Reads a table of runs. -/
def readTable (table : String) : List Run :=
  (readFromEnd table.toList).2.2

/-- The intervals, from a place on, of the runs with one of the names. -/
def intervals (names : List String) : Nat → List Run → List (Nat × Nat)
  | _, [] => []
  | place, run :: runs =>
    let rest := intervals names (place + run.length) runs
    if names.contains run.name then (place, place + run.length - 1) :: rest else rest

/-- The code points with one of the names. -/
def select (runs : List Run) (names : List String) : IntervalSet :=
  .ofList (intervals names 0 runs)

end Run

end BytePattern
