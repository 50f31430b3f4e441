/-
Code for a search: instructions that follow one another, with jumps counted from where they stand,
so that a piece of code means the same wherever it is put.
-/
import BytePattern.Regex.Basic

namespace BytePattern

/-- Instructions.  Distances count from the instruction itself. -/
inductive Inst where
  /-- Takes this byte. -/
  | byte (byte : UInt8)
  /-- Takes a member of the class. -/
  | charClass (charClass : CharClass)
  /-- Goes on where the condition holds. -/
  | look (look : Look)
  /-- Goes on in two ways, the first before the second. -/
  | fork (first second : Int)
  /-- Goes on elsewhere. -/
  | jump (distance : Int)
  /-- Notes that a group starts here. -/
  | enter (group : Nat)
  /-- Notes that a group ends here. -/
  | leave (group : Nat)
  /-- Reports a match. -/
  | accept
deriving Repr, Inhabited

/-- A piece of code. -/
abbrev Code := List Inst

namespace Code

/-- A choice between going on and going elsewhere. -/
def choice (greedy : Bool) (onward elsewhere : Int) : Inst :=
  if greedy then .fork onward elsewhere else .fork elsewhere onward

/-- The code as often as told. -/
def copies (n : Nat) (code : Code) : Code :=
  (List.replicate n code).flatten

/-- The code once or not at all. -/
def optional (greedy : Bool) (code : Code) : Code :=
  choice greedy 1 (code.length + 1) :: code

/-- The code once or more. -/
def plus (greedy : Bool) (code : Code) : Code :=
  code ++ [choice greedy (-code.length) 1]

/-- The code any number of times.  Code that may take nothing is better tried once before the choice
to leave. -/
def star (greedy takesSomething : Bool) (code : Code) : Code :=
  if takesSomething then
    choice greedy 1 (code.length + 2) :: (code ++ [.jump (-(code.length + 1))])
  else optional greedy (plus greedy code)

/-- The code up to `n` times, each time only after the time before. -/
def upTo (greedy : Bool) (code : Code) : Nat → Code
  | 0 => []
  | n + 1 => optional greedy (code ++ upTo greedy code n)

/-- The code as often as the bounds tell. -/
def times (greedy takesSomething : Bool) (least : Nat) (most : Option Nat) (code : Code) : Code :=
  match most, least with
  | some most, _ => copies least code ++ upTo greedy code (most - least)
  | none, 0 => star greedy takesSomething code
  | none, n + 1 => copies n code ++ plus greedy code

/-- One of two pieces of code, the first before the second. -/
def either (first second : Code) : Code :=
  .fork 1 (first.length + 2) :: (first ++ .jump (second.length + 1) :: second)

mutual

/-- The code that matches an expression. -/
def ofRegex : Regex → Code
  | .empty => []
  | .literal bytes => bytes.map .byte
  | .ofClass charClass => [.charClass charClass]
  | .look look => [.look look]
  | .times inside least most greedy =>
    times greedy (inside.minLength?.any (0 < ·)) least most (ofRegex inside)
  | .capture group inside => .enter group :: (ofRegex inside ++ [.leave group])
  | .concat items => ofRow items
  | .alternation branches => ofBranches branches

/-- The code that matches expressions one after the other. -/
def ofRow : List Regex → Code
  | [] => []
  | item :: items => ofRegex item ++ ofRow items

/-- The code that matches one of the expressions, an earlier one rather than a later one. -/
def ofBranches : List Regex → Code
  | [] => [.charClass (.bytes .empty)]
  | branch :: branches =>
    if branches.isEmpty then ofRegex branch else either (ofRegex branch) (ofBranches branches)

end

/-- The code of a whole search. -/
def whole (regex : Regex) : Code :=
  ofRegex regex ++ [.accept]

end Code

end BytePattern
