/-
How often the part before is to be repeated, and whether rather often or rather seldom.
-/
import BytePattern.Dialect.Node
import BytePattern.Dialect.Spacing

namespace BytePattern

/-- How often something is repeated. -/
structure Repetition where
  least : Nat
  most : Option Nat
  greedy : Bool
deriving DecidableEq, Repr, Inhabited

namespace Repetition

/-- Whether the bounds are in order. -/
def isValid (repetition : Repetition) : Bool :=
  match repetition.most with
  | none => true
  | some most => repetition.least ≤ most

end Repetition

/-- The largest number that may be written as a bound. -/
def largestBound : Nat := 0xFFFFFFFF

/-- Reads a bound.  Blanks may stand around it. -/
def readBound (verbose : Bool) (text : List Char) : Except SyntaxFault (Nat × List Char) :=
  let (digits, after) := takeSpaced verbose Char.isDigit (text.dropWhile isBlank)
  let bound := Nat.ofDigitChars 10 digits 0
  if digits.isEmpty ∨ largestBound < bound then .error .repetitionCountInvalid
  else .ok (bound, after.dropWhile isBlank)

/-- Reads the question mark that makes a repetition a reluctant one. -/
def readGreed (least : Nat) (most : Option Nat) : List Char → Repetition × List Char
  | '?' :: rest => (⟨least, most, false⟩, rest)
  | text => (⟨least, most, true⟩, text)

/-- Reads what follows the bounds: the closing brace and the greed. -/
def readBraceEnd (verbose : Bool) (least : Nat) (most : Option Nat) (text : List Char) :
    Except SyntaxFault (Repetition × List Char) :=
  match text with
  | '\x7d' :: rest =>
    let (repetition, after) := readGreed least most (skipSpace verbose rest)
    if repetition.isValid then .ok (repetition, after) else .error .repetitionBoundsReversed
  | _ => .error .repetitionUnclosed

/-- Reads the bounds of a repetition after the opening brace. -/
def readBraces (verbose : Bool) (text : List Char) : Except SyntaxFault (Repetition × List Char) :=
  match readBound verbose (skipSpace verbose text) with
  | .error fault => .error fault
  | .ok (least, ',' :: rest) =>
    match skipSpace verbose rest with
    | '\x7d' :: after => readBraceEnd verbose least none ('\x7d' :: after)
    | text =>
      match readBound verbose text with
      | .error fault => .error fault
      | .ok (most, after) => readBraceEnd verbose least (some most) after
  | .ok (least, text) => readBraceEnd verbose least (some least) text

/-- Reads the repetition that the character `c` begins, if it begins one. -/
def readRepetition? (verbose : Bool) (c : Char) (rest : List Char) :
    Option (Except SyntaxFault (Repetition × List Char)) :=
  match c with
  | '?' => some (.ok (readGreed 0 (some 1) rest))
  | '*' => some (.ok (readGreed 0 none rest))
  | '+' => some (.ok (readGreed 1 none rest))
  | '\x7b' => some (readBraces verbose rest)
  | _ => none

theorem length_readGreed_le (least : Nat) (most : Option Nat) (text : List Char) :
    (readGreed least most text).2.length ≤ text.length := by
  unfold readGreed
  split <;> simp

theorem length_readBound_le {verbose : Bool} {text after : List Char} {bound : Nat}
    (h : readBound verbose text = .ok (bound, after)) : after.length ≤ text.length := by
  have h1 := length_takeSpaced_le verbose Char.isDigit (text.dropWhile isBlank)
  have h2 := (List.dropWhile_suffix isBlank (l := text)).length_le
  have h3 := (List.dropWhile_suffix isBlank
    (l := (takeSpaced verbose Char.isDigit (text.dropWhile isBlank)).2)).length_le
  simp only [readBound] at h
  split at h
  · simp at h
  · simp only [Except.ok.injEq, Prod.mk.injEq] at h
    rw [← h.2]
    omega

theorem length_readBraceEnd_le {verbose : Bool} {least : Nat} {most : Option Nat}
    {text after : List Char} {repetition : Repetition}
    (h : readBraceEnd verbose least most text = .ok (repetition, after)) :
    after.length ≤ text.length := by
  unfold readBraceEnd at h
  split at h
  · next rest =>
    have h1 := length_skipSpace_le verbose rest
    have h2 := length_readGreed_le least most (skipSpace verbose rest)
    simp only at h
    split at h
    · simp only [Except.ok.injEq, Prod.mk.injEq] at h
      rw [← h.2]
      simp only [List.length_cons]
      omega
    · simp at h
  · simp at h

theorem length_readBraces_le {verbose : Bool} {text after : List Char} {repetition : Repetition}
    (h : readBraces verbose text = .ok (repetition, after)) : after.length ≤ text.length := by
  have hs := length_skipSpace_le verbose text
  unfold readBraces at h
  split at h
  · simp at h
  · next least rest heq =>
    have h1 := length_readBound_le heq
    have h2 := length_skipSpace_le verbose rest
    simp only [List.length_cons] at h1
    split at h
    · next heq' =>
      have h3 := length_readBraceEnd_le h
      rw [heq'] at h2
      omega
    · split at h
      · simp at h
      · next heq' =>
        have h3 := length_readBound_le heq'
        have h4 := length_readBraceEnd_le h
        omega
  · next heq =>
    have h1 := length_readBound_le heq
    have h2 := length_readBraceEnd_le h
    omega

theorem length_readRepetition?_le {verbose : Bool} {c : Char} {rest after : List Char}
    {repetition : Repetition}
    (h : readRepetition? verbose c rest = some (.ok (repetition, after))) :
    after.length ≤ rest.length := by
  unfold readRepetition? at h
  split at h
  · have := length_readGreed_le 0 (some 1) rest
    simp_all
  · have := length_readGreed_le 0 none rest
    simp_all
  · have := length_readGreed_le 1 none rest
    simp_all
  · exact length_readBraces_le (Option.some.inj h)
  · simp at h

end BytePattern
