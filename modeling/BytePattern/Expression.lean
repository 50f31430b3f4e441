/-
Substitution expressions such as `/pattern/replacement/flags`, delimited by their first character.
-/
import BytePattern.Error
import BytePattern.Flags

namespace BytePattern

/-- A substitution expression taken apart. -/
structure Expression where
  pattern : String
  replacement : String
  flags : Flags
deriving DecidableEq, Repr, Inhabited

namespace Expression

/-- The parts of a text between the occurrences of a delimiter. -/
def parts (delimiter : Char) : List Char → List (List Char)
  | [] => [[]]
  | c :: rest =>
    if c = delimiter then [] :: parts delimiter rest
    else
      match parts delimiter rest with
      | [] => [[c]]
      | first :: others => (c :: first) :: others

/-- Reads an expression.  The flags part may be left out. -/
def parse (text : String) : Except ExpressionError Expression :=
  match text.toList with
  | [] => .error .empty
  | delimiter :: rest =>
    match parts delimiter rest with
    | [pattern, replacement] =>
      .ok ⟨String.ofList pattern, String.ofList replacement, .withLetters ""⟩
    | [pattern, replacement, letters] =>
      .ok ⟨String.ofList pattern, String.ofList replacement, .withLetters (String.ofList letters)⟩
    | pieces => .error (.parts delimiter pieces.length)

theorem parts_ne_nil (delimiter : Char) (text : List Char) : parts delimiter text ≠ [] := by
  cases text with
  | nil => simp [parts]
  | cons c rest =>
    unfold parts
    split
    · simp
    · split <;> simp

/-- There is one part more than there are delimiters. -/
theorem length_parts (delimiter : Char) (text : List Char) :
    (parts delimiter text).length = text.count delimiter + 1 := by
  induction text with
  | nil => rfl
  | cons c rest ih =>
    unfold parts
    split
    · next h => simp [h, ih]
    · next h =>
      have hne := parts_ne_nil delimiter rest
      split
      · contradiction
      · next heq =>
        rw [heq] at ih
        simpa [List.count_cons, h] using ih

end Expression

end BytePattern
