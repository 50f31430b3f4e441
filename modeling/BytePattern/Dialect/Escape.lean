/-
Characters, classes and conditions that are written with a backslash.
-/
import BytePattern.Dialect.Node
import BytePattern.Dialect.Spacing

namespace BytePattern

/-- What an escape can stand for. -/
inductive Primitive where
  | literal (literal : Literal)
  | assertion (assertion : Assertion)
  | letterClass (kind : LetterClass) (negated : Bool)
  | property (name : String) (negated : Bool)
deriving Repr, Inhabited

/-- The value of a hexadecimal digit. -/
def hexValue? (c : Char) : Option Nat :=
  if c.isDigit then some (c.toNat - '0'.toNat)
  else if 'a' ≤ c ∧ c ≤ 'f' then some (c.toNat - 'a'.toNat + 10)
  else if 'A' ≤ c ∧ c ≤ 'F' then some (c.toNat - 'A'.toNat + 10)
  else none

/-- The character with this code point, if it has one. -/
def charOf? (codePoint : Nat) : Option Char :=
  if codePoint.isValidChar then some (Char.ofNat codePoint) else none

/-- The character that hexadecimal digits name. -/
def charOfHex (digits : List Char) : Except SyntaxFault Char :=
  match charOf? (digits.foldl (fun value c => 16 * value + (hexValue? c).getD 0) 0) with
  | some c => .ok c
  | none => .error .hexInvalid

/-- Reads a fixed number of hexadecimal digits, which may be spaced out. -/
def readHexDigits (verbose : Bool) : Nat → List Char → Except SyntaxFault (List Char × List Char)
  | 0, text => .ok ([], text)
  | _ + 1, [] => .error .escapeUnfinished
  | n + 1, c :: rest =>
    if (hexValue? c).isSome then
      match readHexDigits verbose n (skipSpace verbose rest) with
      | .ok (digits, after) => .ok (c :: digits, after)
      | .error fault => .error fault
    else .error .hexInvalid

/-- The number of digits that a letter asks for. -/
def hexLength (letter : Char) : Nat :=
  if letter = 'x' then 2 else if letter = 'u' then 4 else 8

/-- Reads the code point after `\x`, `\u` or `\U`. -/
def readHex (verbose : Bool) (letter : Char) (text : List Char) :
    Except SyntaxFault (Literal × List Char) :=
  match skipSpace verbose text with
  | [] => .error .escapeUnfinished
  | '\x7b' :: rest =>
    match takeSpaced verbose (fun c => (hexValue? c).isSome) (skipSpace verbose rest) with
    | ([], _) => .error .hexInvalid
    | (digits, '\x7d' :: after) =>
      match charOfHex digits with
      | .ok c => .ok (⟨c, false⟩, skipSpace verbose after)
      | .error fault => .error fault
    | _ => .error .hexInvalid
  | text =>
    match readHexDigits verbose (hexLength letter) text with
    | .error fault => .error fault
    | .ok (digits, after) =>
      match charOfHex digits with
      | .ok c => .ok (⟨c, decide (letter = 'x' ∧ c.toNat < 256)⟩, after)
      | .error fault => .error fault

/-- Reads the name of a property after `\p` or `\P`. -/
def readProperty (verbose : Bool) (text : List Char) : Except SyntaxFault (String × List Char) :=
  match skipSpace verbose text with
  | [] => .error .escapeUnfinished
  | '\x7b' :: rest =>
    match takeSpaced verbose (· != '\x7d') (skipSpace verbose rest) with
    | (name, '\x7d' :: after) => .ok (String.ofList name, after)
    | _ => .error .escapeUnfinished
  | c :: rest =>
    if c = '\\' then .error .propertyInvalid else .ok (c.toString, skipSpace verbose rest)

/-- Whether a character can belong to the name of a word boundary. -/
def isBoundaryLetter (c : Char) : Bool :=
  c.isAlpha || c == '-'

/-- The word boundaries by name. -/
def boundaryOf? (name : String) : Option Assertion :=
  [("start", Assertion.wordStart), ("end", .wordEnd), ("start-half", .wordStartHalf),
    ("end-half", .wordEndHalf)].lookup name

/-- Reads the name in braces that may follow `\b`.  Braces that hold no name are left alone. -/
def readBoundary (verbose : Bool) (text : List Char) : Except SyntaxFault (Assertion × List Char) :=
  match text with
  | '\x7b' :: rest =>
    match skipSpace verbose rest with
    | [] => .error .boundaryUnclosed
    | c :: more =>
      if isBoundaryLetter c then
        match takeSpaced verbose isBoundaryLetter (c :: more) with
        | (name, '\x7d' :: after) =>
          match boundaryOf? (String.ofList name) with
          | some boundary => .ok (boundary, after)
          | none => .error .boundaryUnknown
        | _ => .error .boundaryUnclosed
      else .ok (.wordBoundary, text)
  | _ => .ok (.wordBoundary, text)

/-- Whether a backslash takes the meaning from a character: any ASCII character but letters, digits
and angle brackets. -/
def isEscapable (c : Char) : Bool :=
  c.toNat < 128 && !c.isAlphanum && c != '<' && c != '>'

/-- The letters that stand for a control character. -/
def controlOf? : Char → Option Char
  | 'a' => some '\x07'
  | 'f' => some '\x0c'
  | 't' => some '\t'
  | 'n' => some '\n'
  | 'r' => some '\r'
  | 'v' => some '\x0b'
  | _ => none

/-- The characters that stand for a condition. -/
def assertionOf? : Char → Option Assertion
  | 'A' => some .startText
  | 'z' => some .endText
  | 'B' => some .notWordBoundary
  | '<' => some .wordStart
  | '>' => some .wordEnd
  | _ => none

/-- The letters that stand for a class. -/
def letterClassOf? : Char → Option (LetterClass × Bool)
  | 'd' => some (.digit, false)
  | 'D' => some (.digit, true)
  | 's' => some (.space, false)
  | 'S' => some (.space, true)
  | 'w' => some (.word, false)
  | 'W' => some (.word, true)
  | _ => none

/-- Reads what follows a backslash. -/
def readEscape (verbose : Bool) : List Char → Except SyntaxFault (Primitive × List Char)
  | [] => .error .escapeUnfinished
  | c :: rest =>
    if c.isDigit then .error .backreferenceUnsupported
    else if c = 'x' ∨ c = 'u' ∨ c = 'U' then
      match readHex verbose c rest with
      | .ok (literal, after) => .ok (.literal literal, after)
      | .error fault => .error fault
    else if c = 'p' ∨ c = 'P' then
      match readProperty verbose rest with
      | .ok (name, after) => .ok (.property name (c == 'P'), after)
      | .error fault => .error fault
    else if c = 'b' then
      match readBoundary verbose rest with
      | .ok (boundary, after) => .ok (.assertion boundary, after)
      | .error fault => .error fault
    else
      match letterClassOf? c, controlOf? c, assertionOf? c with
      | some (kind, negated), _, _ => .ok (.letterClass kind negated, rest)
      | _, some control, _ => .ok (.literal ⟨control, false⟩, rest)
      | _, _, some assertion => .ok (.assertion assertion, rest)
      | none, none, none =>
        if isEscapable c then .ok (.literal ⟨c, false⟩, rest) else .error .escapeUnknown

theorem length_readHexDigits_le {verbose : Bool} {n : Nat} {text digits after : List Char}
    (h : readHexDigits verbose n text = .ok (digits, after)) : after.length ≤ text.length := by
  induction n generalizing text digits with
  | zero => simp_all [readHexDigits]
  | succ n ih =>
    cases text with
    | nil => simp [readHexDigits] at h
    | cons c rest =>
      have := length_skipSpace_le verbose rest
      simp only [readHexDigits] at h
      split at h
      · split at h
        · next heq =>
          simp only [Except.ok.injEq, Prod.mk.injEq] at h
          have := ih (h.2 ▸ heq)
          simp only [List.length_cons]
          omega
        · simp at h
      · simp at h

theorem length_readHex_le {verbose : Bool} {letter : Char} {text after : List Char}
    {literal : Literal} (h : readHex verbose letter text = .ok (literal, after)) :
    after.length ≤ text.length := by
  have hs := length_skipSpace_le verbose text
  unfold readHex at h
  split at h
  · simp at h
  · next rest heq =>
    have h1 := length_skipSpace_le verbose rest
    have h2 := length_takeSpaced_le verbose (fun c => (hexValue? c).isSome) (skipSpace verbose rest)
    split at h
    · simp at h
    · next after' _ heq' =>
      have h3 := length_skipSpace_le verbose after'
      split at h
      · simp_all
        omega
      · simp at h
    · simp at h
  · split at h
    · simp at h
    · next heq =>
      have h1 := length_readHexDigits_le heq
      split at h
      · simp_all
        omega
      · simp at h

theorem length_readProperty_le {verbose : Bool} {text after : List Char} {name : String}
    (h : readProperty verbose text = .ok (name, after)) : after.length ≤ text.length := by
  have hs := length_skipSpace_le verbose text
  unfold readProperty at h
  split at h
  · simp at h
  · next rest heq =>
    have h1 := length_skipSpace_le verbose rest
    have h2 := length_takeSpaced_le verbose (· != '\x7d') (skipSpace verbose rest)
    split at h
    · simp_all
      omega
    · simp at h
  · next c rest _ heq =>
    have h1 := length_skipSpace_le verbose rest
    split at h
    · simp at h
    · simp_all
      omega

theorem length_readBoundary_le {verbose : Bool} {text after : List Char} {boundary : Assertion}
    (h : readBoundary verbose text = .ok (boundary, after)) : after.length ≤ text.length := by
  unfold readBoundary at h
  split at h
  · next rest =>
    have hs := length_skipSpace_le verbose rest
    split at h
    · simp at h
    · next c more heq =>
      have h2 := length_takeSpaced_le verbose isBoundaryLetter (c :: more)
      split at h
      · split at h
        · split at h
          · simp_all
            omega
          · simp at h
        · simp at h
      · simp_all
  · simp_all

theorem length_readEscape_le {verbose : Bool} {text after : List Char} {primitive : Primitive}
    (h : readEscape verbose text = .ok (primitive, after)) : after.length ≤ text.length := by
  cases text with
  | nil => simp [readEscape] at h
  | cons c rest =>
    simp only [readEscape] at h
    split at h
    · simp at h
    · split at h
      · split at h
        · next heq =>
          have := length_readHex_le heq
          simp_all
          omega
        · simp at h
      · split at h
        · split at h
          · next heq =>
            have := length_readProperty_le heq
            simp_all
            omega
          · simp at h
        · split at h
          · split at h
            · next heq =>
              have := length_readBoundary_le heq
              simp_all
              omega
            · simp at h
          · split at h
            · simp_all
            · simp_all
            · simp_all
            · split at h
              · simp_all
              · simp at h

end BytePattern
