/-
Replacement texts and the references in them: `\$` is a dollar sign, `$N` and `${N}` are the text of
group `N`, and everything else stands for itself.
-/
import BytePattern.Operations

namespace BytePattern

/-- The byte of an ASCII character. -/
def ascii (c : Char) : UInt8 :=
  c.toUInt8

/-- Whether a byte is an ASCII digit. -/
def isDigitByte (b : UInt8) : Bool :=
  ascii '0' ≤ b && b ≤ ascii '9'

/-- The number that a row of ASCII digits writes. -/
def decimalValue (digits : Bytes) : Nat :=
  digits.foldl (fun value digit => 10 * value + (digit - ascii '0').toNat) 0

/-- What a reference stands for. -/
inductive ReferenceKind where
  /-- A dollar sign. -/
  | dollar
  /-- A group by its bare number. -/
  | group (index : Nat)
  /-- A group by its number in braces. -/
  | braced (index : Nat)
deriving DecidableEq, Repr, Inhabited

/-- The group referred to, if it is one. -/
def ReferenceKind.group? : ReferenceKind → Option Nat
  | dollar => none
  | group index => some index
  | braced index => some index

/-- A reference and the place where it is written. -/
structure Reference where
  span : Span
  kind : ReferenceKind
deriving DecidableEq, Repr, Inhabited

namespace Reference

/-- The length of the reference that the bytes start with. -/
def lengthAt : Bytes → Option Nat
  | first :: rest =>
    if first = ascii '\\' then
      if rest.head? = some (ascii '$') then some 2 else none
    else if first = ascii '$' then
      match rest with
      | [] => none
      | second :: more =>
        if second = ascii '\x7b' then
          let digits := more.takeWhile isDigitByte
          if digits ≠ [] ∧ (more.drop digits.length).head? = some (ascii '\x7d') then
            some (digits.length + 3)
          else none
        else
          let digits := rest.takeWhile isDigitByte
          if digits ≠ [] then some (digits.length + 1) else none
    else none
  | [] => none

/-- A group number.  One too large for a word names a group that cannot exist. -/
def groupNumber (digits : Bytes) : Nat :=
  min (decimalValue digits) everyGroup

/-- What the text of a reference says. -/
def kindOf : Bytes → ReferenceKind
  | first :: rest =>
    if first = ascii '\\' then .dollar
    else
      match rest with
      | [] => .dollar
      | second :: more =>
        if second = ascii '\x7b' then .braced (groupNumber more.dropLast)
        else .group (groupNumber rest)
  | [] => .dollar

/-- The program that finds the next reference. -/
def program : Program :=
  .leftmost 1 fun _ subject => (lengthAt subject).map fun length => ⟨[some ⟨0, length⟩]⟩

/-- The pattern of references. -/
def pattern : Pattern where
  text := "\\\\\\$|\\$[[:digit:]]+|\\$\\\x7b[[:digit:]]+\\\x7d"
  flags := .extended ||| .enhanced
  compiled := some
    { program := program
      outerGroups := []
      expanded := "\\\\\\$|\\$[[:digit:]]+|\\$\\\x7b[[:digit:]]+\\\x7d" }

/-- The reference that a match in the text stands for. -/
def ofMatch (text : Bytes) (caps : Captures) : Reference :=
  ⟨caps.range, kindOf (text.slice caps.range)⟩

/-- The references that a pattern finds in a text. -/
def allIn (pattern : Pattern) (text : Bytes) : List Reference :=
  ((pattern.capturesIter text).map (List.map (ofMatch text))).value

end Reference

/-- A replacement text with its references, in order. -/
structure Template where
  text : Bytes
  references : List Reference
deriving DecidableEq, Repr, Inhabited

namespace Template

/-- Finds the references of a replacement text.  Without a dollar sign there is none. -/
def parse (text : Bytes) : Template where
  text := text
  references :=
    if text.contains (ascii '$') then Reference.allIn Reference.pattern text else []

/-- The groups referred to, in order. -/
def groups (template : Template) : List Nat :=
  template.references.filterMap (·.kind.group?)

/-- How many groups a match has to report for the template. -/
def wantGroups (template : Template) : Nat :=
  match template.groups with
  | [] => 1
  | first :: others => min (others.foldl max first + 1) everyGroup

/-- The text that a reference expands to; a group that is missing or unset gives nothing. -/
def expandKind (haystack : Bytes) (caps : Captures) (kind : ReferenceKind) : Bytes :=
  match kind.group? with
  | none => [ascii '$']
  | some index => (caps.text? haystack index).getD []

/-- The template with every reference expanded against a match in the haystack. -/
def expansion (template : Template) (haystack : Bytes) (caps : Captures) : Bytes :=
  template.text.splice 0 <|
    template.references.map fun ref => (ref.span, expandKind haystack caps ref.kind)

/-- Appends the expansion to a buffer. -/
def expand (template : Template) (haystack : Bytes) (caps : Captures) (buffer : Bytes) : Bytes :=
  buffer ++ template.expansion haystack caps

end Template

end BytePattern
