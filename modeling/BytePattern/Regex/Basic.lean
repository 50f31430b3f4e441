/-
Regular expressions over bytes, in the simplified form that is searched for.  The functions that
build them keep the form: rows and branches are flat, neighbouring literals are one literal, and
branches that are all single characters are one class.
-/
import BytePattern.IntervalSet

namespace BytePattern

/-- A class of bytes, or of characters in their UTF-8 encoding. -/
inductive CharClass where
  | bytes (set : IntervalSet)
  | chars (set : IntervalSet)
deriving DecidableEq, Repr, Inhabited

/-- Conditions on the word characters on both sides of a position. -/
inductive WordCondition where
  | boundary
  | notBoundary
  | start
  | stop
  | startHalf
  | endHalf
deriving DecidableEq, Repr, Inhabited

/-- Conditions on a position in the subject. -/
inductive Look where
  | textStart
  | textEnd
  | lineStart (crlf : Bool)
  | lineEnd (crlf : Bool)
  | word (unicode : Bool) (condition : WordCondition)
deriving DecidableEq, Repr, Inhabited

/-- Regular expressions. -/
inductive Regex where
  | empty
  | literal (bytes : List UInt8)
  | ofClass (charClass : CharClass)
  | look (look : Look)
  | times (inside : Regex) (least : Nat) (most : Option Nat) (greedy : Bool)
  | capture (index : Nat) (inside : Regex)
  | concat (items : List Regex)
  | alternation (branches : List Regex)
deriving Repr, Inhabited

namespace CharClass

/-- The members, as bytes or as code points. -/
def set : CharClass → IntervalSet
  | bytes set => set
  | chars set => set

/-- The number of bytes that the encoding of a character takes. -/
def encodedLength (codePoint : Nat) : Nat :=
  if codePoint < 0x80 then 1
  else if codePoint < 0x800 then 2
  else if codePoint < 0x10000 then 3
  else 4

/-- The encoding of a character. -/
def encode (codePoint : Nat) : List UInt8 :=
  String.utf8EncodeChar (Char.ofNat codePoint)

/-- The only text that the class matches, if there is just one. -/
def single? : CharClass → Option (List UInt8)
  | bytes set => set.single?.map fun byte => [UInt8.ofNat byte]
  | chars set => set.single?.map encode

/-- The shortest length of a member. -/
def minLength? : CharClass → Option Nat
  | bytes set => set.first?.map fun _ => 1
  | chars set => set.first?.map encodedLength

/-- The class as one of characters; bytes beyond ASCII are no characters. -/
def toChars? : CharClass → Option IntervalSet
  | bytes set => if set.last?.all (· < 0x80) then some set else none
  | chars set => some set

/-- The class as one of bytes; characters beyond ASCII are no bytes. -/
def toBytes? : CharClass → Option IntervalSet
  | bytes set => some set
  | chars set => if set.last?.all (· < 0x80) then some set else none

end CharClass

namespace Regex

mutual

/-- Whether two expressions are written alike. -/
def alike : Regex → Regex → Bool
  | empty, empty => true
  | literal a, literal b => a == b
  | ofClass a, ofClass b => a == b
  | look a, look b => a == b
  | times a least most greedy, times b least' most' greedy' =>
    least == least' && most == most' && greedy == greedy' && alike a b
  | capture i a, capture j b => i == j && alike a b
  | concat as, concat bs => alikeAll as bs
  | alternation as, alternation bs => alikeAll as bs
  | _, _ => false

/-- Whether two lists of expressions are written alike. -/
def alikeAll : List Regex → List Regex → Bool
  | [], [] => true
  | a :: as, b :: bs => alike a b && alikeAll as bs
  | _, _ => false

end

mutual

/-- The length of the shortest match, if the expression can match at all. -/
def minLength? : Regex → Option Nat
  | empty => some 0
  | literal bytes => some bytes.length
  | ofClass charClass => charClass.minLength?
  | look _ => some 0
  | times inside least _ _ => (minLength? inside).map (· * least)
  | capture _ inside => minLength? inside
  | concat items => (minLengths? items).map List.sum
  | alternation branches => (minLengths? branches).bind List.min?

/-- The lengths of the shortest matches, if all of the expressions can match. -/
def minLengths? : List Regex → Option (List Nat)
  | [] => some []
  | item :: items => do return (← minLength? item) :: (← minLengths? items)

end

mutual

/-- Whether every match is empty, and there may be one. -/
def isWidthless : Regex → Bool
  | empty => true
  | literal bytes => bytes.isEmpty
  | ofClass _ => false
  | look _ => true
  | times inside _ most _ => most.isSome && isWidthless inside
  | capture _ inside => isWidthless inside
  | concat items => allWidthless items
  | alternation branches => !branches.isEmpty && allWidthless branches

/-- Whether all of the expressions match only emptily. -/
def allWidthless : List Regex → Bool
  | [] => true
  | item :: items => isWidthless item && allWidthless items

end

mutual

/-- The number of the last capture, zero if there is none. -/
def lastCapture : Regex → Nat
  | times inside _ _ _ => lastCapture inside
  | capture index inside => max index (lastCapture inside)
  | concat items => lastCaptureAll items
  | alternation branches => lastCaptureAll branches
  | _ => 0

/-- The number of the last capture in any of the expressions. -/
def lastCaptureAll : List Regex → Nat
  | [] => 0
  | item :: items => max (lastCapture item) (lastCaptureAll items)

end

mutual

/-- The captures that lie in no other capture, left to right. -/
def outerGroups : Regex → List Nat
  | times inside _ _ _ => outerGroups inside
  | capture index _ => [index]
  | concat items => outerGroupsAll items
  | alternation branches => outerGroupsAll branches
  | _ => []

/-- The outer captures of the expressions, one after the other. -/
def outerGroupsAll : List Regex → List Nat
  | [] => []
  | item :: items => outerGroups item ++ outerGroupsAll items

end

/-- The expression that matches nothing. -/
def fail : Regex := ofClass (.bytes .empty)

/-- A class as an expression: without members it fails, and one member is a literal. -/
def ofCharClass (charClass : CharClass) : Regex :=
  if charClass.set.isEmpty then fail
  else
    match charClass.single? with
    | some bytes => literal bytes
    | none => ofClass charClass

/-- A repetition.  What matches only emptily is repeated once at most, none at all is empty, and
exactly one is the expression itself. -/
def repetition (inside : Regex) (least : Nat) (most : Option Nat) (greedy : Bool) : Regex :=
  let (least, most) :=
    if inside.isWidthless then (min least 1, some ((most.map (min · 1)).getD 1)) else (least, most)
  if least = 0 ∧ most = some 0 then empty
  else if least = 1 ∧ most = some 1 then inside
  else times inside least most greedy

/-- The items of a row, those of rows in it included; empty ones are left out. -/
def rowItems : List Regex → List Regex
  | [] => []
  | empty :: rest => rowItems rest
  | concat items :: rest => items ++ rowItems rest
  | item :: rest => item :: rowItems rest

/-- Makes one literal of neighbouring ones. -/
def joinLiterals : List Regex → List Regex
  | [] => []
  | item :: rest =>
    match item, joinLiterals rest with
    | literal a, literal b :: more => literal (a ++ b) :: more
    | item, more => item :: more

/-- A row of expressions. -/
def row (items : List Regex) : Regex :=
  match joinLiterals (rowItems items) with
  | [] => empty
  | [item] => item
  | items => concat items

/-- The branches of an alternation, those of alternations in it included. -/
def flatBranches : List Regex → List Regex
  | [] => []
  | alternation branches :: rest => branches ++ flatBranches rest
  | branch :: rest => branch :: flatBranches rest

/-- The set of characters that the branches are, if each is the literal of one. -/
def singleChars? : List Regex → Option IntervalSet
  | [] => some .empty
  | literal bytes :: rest =>
    match String.fromUTF8? ⟨bytes.toArray⟩ with
    | some text =>
      match text.toList with
      | [c] => (singleChars? rest).map fun set => set.insert c.toNat c.toNat
      | _ => none
    | none => none
  | _ :: _ => none

/-- The set of bytes that the branches are, if each is the literal of one. -/
def singleBytes? : List Regex → Option IntervalSet
  | [] => some .empty
  | literal [byte] :: rest => (singleBytes? rest).map fun set => set.insert byte.toNat byte.toNat
  | _ :: _ => none

/-- The union of the branches, if each is a class that `part?` accepts. -/
def classUnion? (part? : CharClass → Option IntervalSet) : List Regex → Option IntervalSet
  | [] => some .empty
  | ofClass charClass :: rest => do return (← part? charClass).union (← classUnion? part? rest)
  | _ :: _ => none

/-- Branches as one class, if they are all literals of one character, or all classes. -/
def branchClass? (branches : List Regex) : Option CharClass :=
  (singleChars? branches).map .chars
    <|> (singleBytes? branches).map .bytes
    <|> (classUnion? CharClass.toChars? branches).map .chars
    <|> (classUnion? CharClass.toBytes? branches).map .bytes

/-- Flat branches as one expression. -/
def branchesOf (branches : List Regex) : Regex :=
  match branches with
  | [] => fail
  | [branch] => branch
  | branches =>
    match branchClass? branches with
    | some charClass => ofCharClass charClass
    | none => alternation branches

/-- The items that two rows start with alike. -/
def sharedItems : List Regex → List Regex → List Regex
  | a :: as, b :: bs => if alike a b then a :: sharedItems as bs else []
  | _, _ => []

/-- The rows that the branches are, if each is one. -/
def rows? : List Regex → Option (List (List Regex))
  | [] => some []
  | concat items :: rest => (rows? rest).map (items :: ·)
  | _ :: _ => none

/-- The items that all branches start with, and what is left of each branch. -/
def factor? (branches : List Regex) : Option (List Regex × List (List Regex)) :=
  match rows? branches with
  | some (first :: others) =>
    match others.foldl sharedItems first with
    | [] => none
    | shared => some (shared, (first :: others).map (·.drop shared.length))
  | _ => none

/-- An alternation.  What all its branches start with is written once before them. -/
def branching (branches : List Regex) : Regex :=
  match branchesOf (flatBranches branches) with
  | alternation flat =>
    match factor? flat with
    | some (shared, rests) => row (shared ++ [branchesOf (flatBranches (rests.map row))])
    | none => alternation flat
  | simple => simple

end Regex

end BytePattern
