/-
What a pattern means under its flags: inline flags hold from where they are set to the end of their
group, across its branches.
-/
import BytePattern.Dialect.Reading
import BytePattern.Flags
import BytePattern.Regex.Basic
import BytePattern.Unicode.Folding
import BytePattern.Unicode.Property

namespace BytePattern

/-- The inline flags in force at a place in a pattern. -/
structure Modes where
  ignoreCase : Bool
  multiLine : Bool
  dotAll : Bool
  swapGreed : Bool
  unicode : Bool
  crlf : Bool
deriving DecidableEq, Repr, Inhabited

namespace Modes

/-- The modes that a pattern starts with. -/
def ofFlags (flags : Flags) (unicode : Bool) : Modes where
  ignoreCase := flags.contains .ignoreCase
  multiLine := flags.contains .newline
  dotAll := !flags.contains .newline
  swapGreed := false
  unicode := unicode
  crlf := false

/-- Sets one inline flag. -/
def set (modes : Modes) : InlineFlag × Bool → Modes
  | (.ignoreCase, value) => { modes with ignoreCase := value }
  | (.multiLine, value) => { modes with multiLine := value }
  | (.dotAll, value) => { modes with dotAll := value }
  | (.swapGreed, value) => { modes with swapGreed := value }
  | (.unicode, value) => { modes with unicode := value }
  | (.crlf, value) => { modes with crlf := value }
  | (.verbose, _) => modes

/-- Sets inline flags one after the other. -/
def setAll (modes : Modes) (settings : FlagSettings) : Modes :=
  settings.foldl set modes

/-- The largest member that a class can have. -/
def top (modes : Modes) : Nat :=
  if modes.unicode then lastScalar else 0xFF

/-- A set as a class of what the modes count as characters. -/
def classOf (modes : Modes) (set : IntervalSet) : CharClass :=
  if modes.unicode then .chars set else .bytes set

/-- Adds the members that differ only in case, if case is ignored. -/
def fold (modes : Modes) (set : IntervalSet) : IntervalSet :=
  if modes.ignoreCase then
    if modes.unicode then set.foldCase else set.foldAscii
  else set

/-- All that is not in the set, if it is negated. -/
def negate (modes : Modes) (negated : Bool) (set : IntervalSet) : IntervalSet :=
  if negated then set.complement modes.top else set

/-- A literal as a member of a class.  Where characters are bytes, one beyond ASCII is none. -/
def member (modes : Modes) (literal : Literal) : Except SyntaxFault Nat :=
  if modes.unicode then .ok literal.char.toNat
  else if literal.isByte ∨ literal.char.toNat < 0x80 then .ok literal.char.toNat
  else .error .unicodeNotAllowed

/-- The characters that a property names. -/
def property (modes : Modes) (name : String) (negated : Bool) : Except SyntaxFault IntervalSet :=
  if modes.unicode then
    match propertySet? name with
    | some (set, denied) => .ok (modes.negate (negated != denied) (modes.fold set))
    | none => .error .propertyUnknown
  else .error .unicodeNotAllowed

end Modes

/-- The members of a named class. -/
def NamedClass.set : NamedClass → IntervalSet
  | alnum => .ofList [(0x30, 0x39), (0x41, 0x5A), (0x61, 0x7A)]
  | alpha => .ofList [(0x41, 0x5A), (0x61, 0x7A)]
  | ascii => .ofList [(0x00, 0x7F)]
  | blank => .ofList [(0x09, 0x09), (0x20, 0x20)]
  | cntrl => .ofList [(0x00, 0x1F), (0x7F, 0x7F)]
  | digit => .ofList [(0x30, 0x39)]
  | graph => .ofList [(0x21, 0x7E)]
  | lower => .ofList [(0x61, 0x7A)]
  | print => .ofList [(0x20, 0x7E)]
  | punct => .ofList [(0x21, 0x2F), (0x3A, 0x40), (0x5B, 0x60), (0x7B, 0x7E)]
  | space => .ofList [(0x09, 0x0D), (0x20, 0x20)]
  | upper => .ofList [(0x41, 0x5A)]
  | word => .ofList [(0x30, 0x39), (0x41, 0x5A), (0x5F, 0x5F), (0x61, 0x7A)]
  | xdigit => .ofList [(0x30, 0x39), (0x41, 0x46), (0x61, 0x66)]

/-- The members of a class with a letter of its own. -/
def LetterClass.set (unicode : Bool) : LetterClass → IntervalSet
  | digit => if unicode then decimalDigit else NamedClass.digit.set
  | space => if unicode then whiteSpace else NamedClass.space.set
  | word => if unicode then wordCharacter else NamedClass.word.set

namespace SetNode

mutual

/-- The members of a set under the modes. -/
def toSet (modes : Modes) : SetNode → Except SyntaxFault IntervalSet
  | empty => .ok .empty
  | literal l => do
    let c ← modes.member l
    return .range c c
  | range first last => do
    let lo ← modes.member first
    let hi ← modes.member last
    return .range lo hi
  | letterClass kind negated => .ok (modes.negate negated (kind.set modes.unicode))
  | namedClass kind negated => .ok (modes.negate negated (modes.fold kind.set))
  | property name negated => modes.property name negated
  | bracket negated inside => do
    let set ← toSet modes inside
    return modes.negate negated (modes.fold set)
  | union items => toUnion modes items
  | combine operation left right => do
    let l ← toSet modes left
    let r ← toSet modes right
    let l := modes.fold l
    let r := modes.fold r
    return match operation with
      | .intersection => l.inter r
      | .difference => l.diff r
      | .symmetricDifference => l.symmDiff r

/-- The members of any of the sets. -/
def toUnion (modes : Modes) : List SetNode → Except SyntaxFault IntervalSet
  | [] => .ok .empty
  | item :: items => do
    let set ← toSet modes item
    let rest ← toUnion modes items
    return set.union rest

end

end SetNode

namespace Regex

/-- A character under the modes. -/
def ofLiteral (modes : Modes) (l : Literal) : Regex :=
  if modes.unicode then
    let c := l.char.toNat
    if modes.ignoreCase then ofCharClass (.chars (IntervalSet.range c c).foldCase)
    else literal (String.utf8EncodeChar l.char)
  else if l.isByte ∧ 0x80 ≤ l.char.toNat then literal [UInt8.ofNat l.char.toNat]
  else if modes.ignoreCase ∧ l.char.toNat < 0x80 then
    ofCharClass (.bytes (IntervalSet.range l.char.toNat l.char.toNat).foldAscii)
  else literal (String.utf8EncodeChar l.char)

/-- The dot under the modes: anything, or anything but what ends a line. -/
def dot (modes : Modes) : Regex :=
  let lineEnds : IntervalSet :=
    if modes.dotAll then .empty
    else if modes.crlf then .ofList [(0x0A, 0x0A), (0x0D, 0x0D)]
    else .range 0x0A 0x0A
  ofCharClass (modes.classOf (lineEnds.complement modes.top))

/-- A condition under the modes. -/
def ofAssertion (modes : Modes) : Assertion → Regex
  | .startLine => look (if modes.multiLine then .lineStart modes.crlf else .textStart)
  | .endLine => look (if modes.multiLine then .lineEnd modes.crlf else .textEnd)
  | .startText => look .textStart
  | .endText => look .textEnd
  | .wordBoundary => look (.word modes.unicode .boundary)
  | .notWordBoundary => look (.word modes.unicode .notBoundary)
  | .wordStart => look (.word modes.unicode .start)
  | .wordEnd => look (.word modes.unicode .stop)
  | .wordStartHalf => look (.word modes.unicode .startHalf)
  | .wordEndHalf => look (.word modes.unicode .endHalf)

mutual

/-- What a node means, and the modes after it. -/
def ofNode (modes : Modes) : Node → Except SyntaxFault (Regex × Modes)
  | .empty => .ok (empty, modes)
  | .settings settings => .ok (empty, modes.setAll settings)
  | .literal l => .ok (ofLiteral modes l, modes)
  | .dot => .ok (dot modes, modes)
  | .assertion a => .ok (ofAssertion modes a, modes)
  | .letterClass kind negated =>
    .ok (ofCharClass (modes.classOf (modes.negate negated (kind.set modes.unicode))), modes)
  | .property name negated => do
    let set ← modes.property name negated
    return (ofCharClass (modes.classOf set), modes)
  | .bracket negated inside => do
    let set ← inside.toSet modes
    return (ofCharClass (modes.classOf (modes.negate negated (modes.fold set))), modes)
  | .repetition inside least most greedy => do
    let (regex, modes) ← ofNode modes inside
    return (repetition regex least most (greedy != modes.swapGreed), modes)
  | .group (.capture index) inside => do
    let (regex, _) ← ofNode modes inside
    return (capture index regex, modes)
  | .group (.plain settings) inside => do
    let (regex, _) ← ofNode (modes.setAll settings) inside
    return (regex, modes)
  | .alternation branches => do
    let (regexes, modes) ← ofNodes modes branches
    return (branching regexes, modes)
  | .concat items => do
    let (regexes, modes) ← ofNodes modes items
    return (row regexes, modes)

/-- What nodes mean one after the other, and the modes after them. -/
def ofNodes (modes : Modes) : List Node → Except SyntaxFault (List Regex × Modes)
  | [] => .ok ([], modes)
  | node :: nodes => do
    let (regex, modes) ← ofNode modes node
    let (regexes, modes) ← ofNodes modes nodes
    return (regex :: regexes, modes)

end

/-- The expression that a pattern text means. -/
def parse (text : String) (modes : Modes) : Except SyntaxFault Regex := do
  let node ← Node.parse text
  let (regex, _) ← ofNode modes node
  return regex

end Regex

end BytePattern
