/-
Sets of code points or bytes as ascending closed intervals that neither overlap nor touch.  Both
ends of an interval are characters or bytes, never surrogates.  Surrogates are no characters, so an
interval may run across them, while intervals that end and begin beside them stay apart.
-/
namespace BytePattern

/-- The code point of the next character. -/
def nextScalar (n : Nat) : Nat :=
  if n = 0xD7FF then 0xE000 else n + 1

/-- The code point of the character before. -/
def previousScalar (n : Nat) : Nat :=
  if n = 0xE000 then 0xD7FF else n - 1

/-- The code point of the last character. -/
def lastScalar : Nat := 0x10FFFF

/-- A finite set of numbers, written as intervals with both ends included. -/
structure IntervalSet where
  intervals : List (Nat × Nat)
deriving DecidableEq, Repr, Inhabited

namespace IntervalSet

/-- The set without members. -/
def empty : IntervalSet := ⟨[]⟩

/-- Whether the set has no member. -/
def isEmpty (set : IntervalSet) : Bool :=
  set.intervals.isEmpty

/-- Whether a number is a member. -/
def contains (set : IntervalSet) (n : Nat) : Bool :=
  set.intervals.any fun interval => interval.1 ≤ n && n ≤ interval.2

/-- Whether a character is a member. -/
def hasChar (set : IntervalSet) (c : Char) : Bool :=
  set.contains c.toNat

/-- The smallest member. -/
def first? (set : IntervalSet) : Option Nat :=
  set.intervals.head?.map (·.1)

/-- The largest member. -/
def last? (set : IntervalSet) : Option Nat :=
  set.intervals.getLast?.map (·.2)

/-- The only member, if there is just one. -/
def single? (set : IntervalSet) : Option Nat :=
  match set.intervals with
  | [(lo, hi)] => if lo = hi then some lo else none
  | _ => none

/-- Joins an interval to ascending ones, melting together those that overlap or touch. -/
def insertInto (lo hi : Nat) : List (Nat × Nat) → List (Nat × Nat)
  | [] => [(lo, hi)]
  | (a, b) :: rest =>
    if hi + 1 < a then (lo, hi) :: (a, b) :: rest
    else if b + 1 < lo then (a, b) :: insertInto lo hi rest
    else insertInto (min lo a) (max hi b) rest

/-- Adds the numbers from `lo` to `hi`. -/
def insert (set : IntervalSet) (lo hi : Nat) : IntervalSet :=
  ⟨insertInto lo hi set.intervals⟩

/-- The set with the members of any of the intervals. -/
def ofList (intervals : List (Nat × Nat)) : IntervalSet :=
  intervals.foldr (fun interval set => set.insert interval.1 interval.2) empty

/-- The numbers from `lo` to `hi`. -/
def range (lo hi : Nat) : IntervalSet := ⟨[(lo, hi)]⟩

/-- The members of either set. -/
def union (s t : IntervalSet) : IntervalSet :=
  .ofList (s.intervals.merge t.intervals fun a b => a.1 ≤ b.1)

/-- The members of any of the sets. -/
def unions (sets : List IntervalSet) : IntervalSet :=
  sets.foldr union empty

/-- What two rows of ascending intervals have in common. -/
def common : List (Nat × Nat) → List (Nat × Nat) → List (Nat × Nat)
  | [], _ => []
  | _, [] => []
  | (a, b) :: s, (c, d) :: t =>
    let rest := if b < d then common s ((c, d) :: t) else common ((a, b) :: s) t
    if max a c ≤ min b d then (max a c, min b d) :: rest else rest
termination_by s t => s.length + t.length

/-- The members of both sets. -/
def inter (s t : IntervalSet) : IntervalSet :=
  ⟨common s.intervals t.intervals⟩

/-- What is left of ascending intervals without those of a second row. -/
def without : List (Nat × Nat) → List (Nat × Nat) → List (Nat × Nat)
  | [], _ => []
  | s, [] => s
  | (a, b) :: s, (c, d) :: t =>
    if d < a then without ((a, b) :: s) t
    else if b < c then (a, b) :: without s ((c, d) :: t)
    else
      let rest :=
        if d < b then without ((nextScalar d, b) :: s) t else without s ((c, d) :: t)
      if a < c then (a, previousScalar c) :: rest else rest
termination_by s t => s.length + t.length

/-- The members of the first set that are not in the second. -/
def diff (s t : IntervalSet) : IntervalSet :=
  ⟨without s.intervals t.intervals⟩

/-- The members of just one of the sets. -/
def symmDiff (s t : IntervalSet) : IntervalSet :=
  (s.union t).diff (s.inter t)

/-- The hole between an interval that ends at `hi` and the next one, which begins at `lo`.  It
reaches from the character after the one to the character before the other, whichever of these comes
first: where only surrogates lie between, the two characters beside them are the hole. -/
def holeBetween (hi lo : Nat) : Nat × Nat :=
  (min (nextScalar hi) (previousScalar lo), max (nextScalar hi) (previousScalar lo))

/-- The holes after an interval that ends at `hi`, up to `top`. -/
def holesAfter (top hi : Nat) : List (Nat × Nat) → List (Nat × Nat)
  | [] => if hi < top then [(nextScalar hi, top)] else []
  | (a, b) :: rest => holeBetween hi a :: holesAfter top b rest

/-- The set of the holes up to `top`. -/
def complement (top : Nat) (set : IntervalSet) : IntervalSet :=
  match set.intervals with
  | [] => range 0 top
  | (a, b) :: rest =>
    .ofList ((if 0 < a then [(0, previousScalar a)] else []) ++ holesAfter top b rest)

/-- Reads intervals, each one code point or two with a hyphen between, in hexadecimal and with
spaces between.  `first` is the start of the interval being read, `value` the number being read. -/
def readRanges (first : Option Nat) (value : Nat) : List Char → List (Nat × Nat)
  | [] => [(first.getD value, value)]
  | ' ' :: rest => (first.getD value, value) :: readRanges none 0 rest
  | '-' :: rest => readRanges (some value) 0 rest
  | c :: rest =>
    let digit := if c.isDigit then c.toNat - 0x30 else c.toNat - 0x37
    readRanges first (16 * value + digit) rest

/-- The set of the code points in a row of text, such as `"30-39 41-46"`. -/
def ofRow (row : String) : IntervalSet :=
  .ofList (readRanges none 0 row.toList)

/-- The set of the code points in rows of text. -/
def ofRows (rows : List String) : IntervalSet :=
  .ofList (rows.flatMap fun row => readRanges none 0 row.toList)

end IntervalSet

end BytePattern
