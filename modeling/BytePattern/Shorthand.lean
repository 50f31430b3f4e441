/-
Shorthand classes such as `\d`, expanded to bracket expressions one rule after the other.  A
shorthand is live if an odd run of backslashes ends at its letter.
-/
import BytePattern.Substitution

namespace BytePattern

/-- A shorthand letter and the bracket expression it stands for. -/
structure Shorthand where
  letter : Char
  bracket : String
deriving DecidableEq, Repr, Inhabited

namespace Shorthand

/-- The shorthands in the order of their rules. -/
def all : List Shorthand :=
  [⟨'w', "[[:alnum:]]"⟩, ⟨'W', "[^[:alnum:]]"⟩, ⟨'d', "[[:digit:]]"⟩, ⟨'D', "[^[:digit:]]"⟩,
   ⟨'s', "[[:space:]]"⟩, ⟨'S', "[^[:space:]]"⟩]

/-- The number of backslashes that the bytes start with, if it is odd and the letter follows. -/
def liveRun (letter : UInt8) (subject : Bytes) : Option Nat :=
  let run := subject.takeWhile (· == ascii '\\')
  if run.length % 2 = 1 ∧ (subject.drop run.length).head? = some letter then some run.length
  else none

/-- The captures of a live shorthand after `before` bytes and a run of backslashes: group 1 is all
but the last backslash and the letter. -/
def captures (before run : Nat) : Captures :=
  ⟨[some ⟨0, before + run + 1⟩, some ⟨0, before + run - 1⟩]⟩

/-- A match of a rule at this position: a live shorthand at the start of the subject, or one after a
byte that is no backslash. -/
def matchAt (letter : UInt8) (atStart : Bool) (subject : Bytes) : Option Captures :=
  let here := if atStart then (liveRun letter subject).map (captures 0) else none
  here <|>
    match subject with
    | [] => none
    | first :: rest => if first = ascii '\\' then none else (liveRun letter rest).map (captures 1)

/-- The text of the rule's pattern. -/
def ruleText (shorthand : Shorthand) : String :=
  "((?:^|[^\\\\])(?:\\\\\\\\)*)\\\\" ++ shorthand.letter.toString

/-- The program that finds the next live occurrence of a shorthand. -/
def program (shorthand : Shorthand) : Program :=
  .leftmost 2 (matchAt (ascii shorthand.letter))

/-- The pattern of the live occurrences of a shorthand. -/
def pattern (shorthand : Shorthand) : Pattern where
  text := shorthand.ruleText
  flags := .extended ||| .enhanced
  compiled := some
    { program := shorthand.program
      outerGroups := [1]
      expanded := shorthand.ruleText }

/-- The rule that expands a shorthand to its bracket expression. -/
def rule (shorthand : Shorthand) : Substitution where
  pattern := shorthand.pattern
  template := .parse (.ofString ("$1" ++ shorthand.bracket))

/-- Expands the live occurrences of one shorthand. -/
def apply (shorthand : Shorthand) (text : Bytes) : Bytes :=
  (shorthand.rule.exec text).value

/-- Applies rules to a text, one after the other. -/
def applyRules (rules : List Substitution) (text : String) : Except CompileError String :=
  let bytes := rules.foldl (fun bytes rule => (rule.exec bytes).value) (Bytes.ofString text)
  match bytes.toString? with
  | some expanded => .ok expanded
  | none => .error .notUtf8

/-- Expands every live shorthand.  A text without a backslash has none. -/
def expand (text : String) : Except CompileError String :=
  if text.toList.contains '\\' then applyRules (all.map rule) text else .ok text

end Shorthand

end BytePattern
