/-
What a pattern text says, before its inline flags are taken into account.
-/
import BytePattern.Error

namespace BytePattern

/-- A character as it was written.  One that was written `\xNN` stands for a byte where characters
are bytes. -/
structure Literal where
  char : Char
  isByte : Bool := false
deriving DecidableEq, Repr, Inhabited

/-- Conditions on a position. -/
inductive Assertion where
  | startLine
  | endLine
  | startText
  | endText
  | wordBoundary
  | notWordBoundary
  | wordStart
  | wordEnd
  | wordStartHalf
  | wordEndHalf
deriving DecidableEq, Repr, Inhabited

/-- The classes with a letter of their own. -/
inductive LetterClass where
  | digit
  | space
  | word
deriving DecidableEq, Repr, Inhabited

/-- The classes with a name between colons. -/
inductive NamedClass where
  | alnum | alpha | ascii | blank | cntrl | digit | graph | lower | print | punct | space | upper
  | word | xdigit
deriving DecidableEq, Repr, Inhabited

namespace NamedClass

/-- The named classes beside their names. -/
def names : List (String × NamedClass) :=
  [("alnum", alnum), ("alpha", alpha), ("ascii", ascii), ("blank", blank), ("cntrl", cntrl),
   ("digit", digit), ("graph", graph), ("lower", lower), ("print", print), ("punct", punct),
   ("space", space), ("upper", upper), ("word", word), ("xdigit", xdigit)]

/-- The class of a name. -/
def ofName? (name : String) : Option NamedClass :=
  names.lookup name

end NamedClass

/-- Two sets next to one of these are combined. -/
inductive SetOperation where
  | intersection
  | difference
  | symmetricDifference
deriving DecidableEq, Repr, Inhabited

/-- The inside of a bracket expression. -/
inductive SetNode where
  | empty
  | literal (literal : Literal)
  | range (first last : Literal)
  | letterClass (kind : LetterClass) (negated : Bool)
  | namedClass (kind : NamedClass) (negated : Bool)
  | property (name : String) (negated : Bool)
  | bracket (negated : Bool) (inside : SetNode)
  | union (items : List SetNode)
  | combine (operation : SetOperation) (left right : SetNode)
deriving Repr, Inhabited

/-- Inline flags. -/
inductive InlineFlag where
  | ignoreCase
  | multiLine
  | dotAll
  | swapGreed
  | unicode
  | crlf
  | verbose
deriving DecidableEq, Repr, Inhabited

/-- Inline flags with the values they are set to, in the order in which they are written. -/
abbrev FlagSettings := List (InlineFlag × Bool)

/-- How a group was opened. -/
inductive Opening where
  | capture (index : Nat)
  | plain (settings : FlagSettings)
deriving DecidableEq, Repr, Inhabited

/-- A pattern text taken apart. -/
inductive Node where
  | empty
  | settings (settings : FlagSettings)
  | literal (literal : Literal)
  | dot
  | assertion (assertion : Assertion)
  | letterClass (kind : LetterClass) (negated : Bool)
  | property (name : String) (negated : Bool)
  | bracket (negated : Bool) (inside : SetNode)
  | repetition (inside : Node) (least : Nat) (most : Option Nat) (greedy : Bool)
  | group (opening : Opening) (inside : Node)
  | alternation (branches : List Node)
  | concat (items : List Node)
deriving Repr, Inhabited

namespace SetNode

/-- A list of items as one set; an item that stands alone is the set. -/
def ofItems : List SetNode → SetNode
  | [] => empty
  | [item] => item
  | items => union items

mutual

/-- How deep brackets, unions and operations nest. -/
def depth : SetNode → Nat
  | bracket _ inside => depth inside + 1
  | union items => depthAll items + 1
  | combine _ left right => max (depth left) (depth right) + 1
  | _ => 0

/-- The largest depth among the items. -/
def depthAll : List SetNode → Nat
  | [] => 0
  | item :: items => max (depth item) (depthAll items)

end

end SetNode

namespace Node

/-- A row of nodes as one node; a node that stands alone needs no row. -/
def ofItems : List Node → Node
  | [] => empty
  | [item] => item
  | items => concat items

/-- Branches as one node; a branch that stands alone is no alternation. -/
def ofBranches : List Node → Node
  | [] => empty
  | [branch] => branch
  | branches => alternation branches

mutual

/-- How deep groups, repetitions, rows, branches and bracket expressions nest. -/
def depth : Node → Nat
  | bracket _ inside => inside.depth + 1
  | repetition inside _ _ _ => depth inside + 1
  | group _ inside => depth inside + 1
  | alternation branches => depthAll branches + 1
  | concat items => depthAll items + 1
  | _ => 0

/-- The largest depth among the nodes. -/
def depthAll : List Node → Nat
  | [] => 0
  | node :: nodes => max (depth node) (depthAll nodes)

end

/-- The deepest nesting that a pattern may have. -/
def depthLimit : Nat := 250

end Node

end BytePattern
