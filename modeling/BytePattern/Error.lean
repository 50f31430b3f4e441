/-
What can go wrong, by cause, and the words for it.
-/
namespace BytePattern

/-- Why a pattern text does not belong to the dialect. -/
inductive SyntaxFault where
  | groupUnclosed
  | groupUnopened
  | groupNameInvalid
  | groupNameEmpty
  | groupNameDuplicate
  | lookAroundUnsupported
  | flagUnknown
  | flagRepeated
  | flagDangling
  | flagsUnclosed
  | repetitionMissing
  | repetitionUnclosed
  | repetitionCountInvalid
  | repetitionBoundsReversed
  | escapeUnfinished
  | escapeUnknown
  | backreferenceUnsupported
  | hexInvalid
  | boundaryUnclosed
  | boundaryUnknown
  | propertyInvalid
  | propertyUnknown
  | classUnclosed
  | classItemInvalid
  | classRangeReversed
  | nestTooDeep
  | unicodeNotAllowed
deriving DecidableEq, Repr, Inhabited

/-- Why a pattern could not be compiled. -/
inductive CompileError where
  /-- The text is not of the dialect. -/
  | malformed (fault : SyntaxFault)
  /-- The expanded text is no text. -/
  | notUtf8
  /-- An engine has reasons of its own. -/
  | engine (reason : String)
deriving DecidableEq, Repr, Inhabited

/-- All faults of the text share one message. -/
def CompileError.message : CompileError → String
  | malformed _ => "error parsing regex"
  | notUtf8 => "rewritten pattern is not valid UTF-8"
  | engine reason => reason

/-- Why a search was given up. -/
inductive ExecError where
  /-- The subject needs more room than the search may take. -/
  | tooLong (length : Nat)
  /-- An engine has reasons of its own. -/
  | engine (reason : String)
deriving DecidableEq, Repr, Inhabited

/-- The words for a failed search. -/
def ExecError.message : ExecError → String
  | tooLong length => "haystack of length " ++ toString length ++ " is too long"
  | engine reason => reason

/-- Why a text is no substitution expression. -/
inductive ExpressionError where
  | empty
  | parts (delimiter : Char) (count : Nat)
deriving DecidableEq, Repr, Inhabited

/-- The words for a malformed substitution expression. -/
def ExpressionError.message : ExpressionError → String
  | empty => "empty substitution expression"
  | parts delimiter count =>
    let d := delimiter.toString
    "expected `" ++ d ++ "pattern" ++ d ++ "replacement" ++ d ++ "flags`, found "
      ++ toString count ++ " part(s)"

end BytePattern
