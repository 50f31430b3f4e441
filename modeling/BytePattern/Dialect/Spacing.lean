/-
Blanks and comments between the parts of a pattern, which a verbose pattern may have.
-/
import BytePattern.Unicode.Listed

namespace BytePattern

/-- White space. -/
def isBlank (c : Char) : Bool :=
  whiteSpace.hasChar c

/-- Skips blanks, and comments up to the end of their line. -/
def skipComments (inComment : Bool) : List Char → List Char
  | [] => []
  | c :: rest =>
    if inComment then skipComments (c != '\n') rest
    else if isBlank c then skipComments false rest
    else if c = '#' then skipComments true rest
    else c :: rest

/-- Skips what a verbose pattern may have between its parts. -/
def skipSpace (verbose : Bool) (text : List Char) : List Char :=
  if verbose then skipComments false text else text

/-- The first character that is neither a blank nor the sign of the first comment. -/
def peekComments (inComment : Bool) : List Char → Option Char
  | [] => none
  | c :: rest =>
    if isBlank c then peekComments inComment rest
    else if c = '#' && !inComment then peekComments true rest
    else some c

/-- The character that stands next, looked for beyond blanks in a verbose pattern. -/
def peekSpace (verbose : Bool) (text : List Char) : Option Char :=
  if verbose then peekComments false text <|> text.head? else text.head?

theorem length_skipComments_le (inComment : Bool) (text : List Char) :
    (skipComments inComment text).length ≤ text.length := by
  induction text generalizing inComment with
  | nil => simp [skipComments]
  | cons c rest ih =>
    unfold skipComments
    split
    · exact Nat.le_succ_of_le (ih _)
    · split
      · exact Nat.le_succ_of_le (ih _)
      · split
        · exact Nat.le_succ_of_le (ih _)
        · exact Nat.le_refl _

theorem length_skipSpace_le (verbose : Bool) (text : List Char) :
    (skipSpace verbose text).length ≤ text.length := by
  unfold skipSpace
  split
  · exact length_skipComments_le _ _
  · exact Nat.le_refl _

@[simp] theorem skipSpace_false (text : List Char) : skipSpace false text = text := rfl

/-- The longest row of accepted characters, which may be spaced out, and what follows it. -/
def takeSpaced (verbose : Bool) (accept : Char → Bool) : List Char → List Char × List Char
  | [] => ([], [])
  | c :: rest =>
    if accept c then
      let (taken, after) := takeSpaced verbose accept (skipSpace verbose rest)
      (c :: taken, after)
    else ([], c :: rest)
termination_by text => text.length
decreasing_by
  exact Nat.lt_succ_of_le (length_skipSpace_le verbose rest)

theorem length_takeSpaced_le (verbose : Bool) (accept : Char → Bool) (text : List Char) :
    (takeSpaced verbose accept text).2.length ≤ text.length := by
  fun_induction takeSpaced verbose accept text with
  | case1 => simp
  | case2 c rest _ taken after heq ih =>
    have := length_skipSpace_le verbose rest
    simp only [heq] at ih
    simp only [List.length_cons]
    omega
  | case3 => simp

end BytePattern
