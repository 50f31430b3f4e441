/-
What stands between an opening parenthesis and the inside of its group: a name, inline flags, or
nothing.
-/
import BytePattern.Dialect.Node
import BytePattern.Dialect.Spacing
import BytePattern.Unicode.Newer

namespace BytePattern

/-- What an opening parenthesis turns out to begin. -/
inductive GroupHead where
  /-- Flags for the rest of the group around, closed already. -/
  | settings (settings : FlagSettings)
  /-- A group that captures nothing, with flags of its own. -/
  | plain (settings : FlagSettings)
  /-- A group that captures, and may have a name. -/
  | capture (name : Option String)
deriving DecidableEq, Repr, Inhabited

/-- The inline flag of a letter. -/
def InlineFlag.ofLetter? : Char → Option InlineFlag
  | 'i' => some .ignoreCase
  | 'm' => some .multiLine
  | 's' => some .dotAll
  | 'U' => some .swapGreed
  | 'u' => some .unicode
  | 'R' => some .crlf
  | 'x' => some .verbose
  | _ => none

/-- Reads inline flags up to a colon or a closing parenthesis.  `negated` tells that the hyphen has
been read, and `dangling` that no flag has followed it yet; `settings` are the flags read so far,
last first. -/
def readFlags (negated dangling : Bool) (settings : FlagSettings) :
    List Char → Except SyntaxFault (GroupHead × List Char)
  | [] => .error .flagsUnclosed
  | c :: rest =>
    if c = ':' ∨ c = ')' then
      if dangling then .error .flagDangling
      else if c = ':' then .ok (.plain settings.reverse, rest)
      else if settings.isEmpty then .error .repetitionMissing
      else .ok (.settings settings.reverse, rest)
    else if c = '-' then
      if negated then .error .flagRepeated else readFlags true true settings rest
    else
      match InlineFlag.ofLetter? c with
      | none => .error .flagUnknown
      | some flag =>
        if settings.any (·.1 == flag) then .error .flagRepeated
        else readFlags negated false ((flag, !negated) :: settings) rest

/-- Whether a character may stand in the name of a group; the first one must be a letter or an
underscore. -/
def isNameChar (isFirst : Bool) (c : Char) : Bool :=
  c == '_' ||
    if isFirst then nameStart.hasChar c
    else c == '.' || c == '[' || c == ']' || namePart.hasChar c

/-- Reads the name of a group up to its closing angle bracket. -/
def readName (isFirst : Bool) : List Char → Except SyntaxFault (List Char × List Char)
  | [] => .error .groupNameInvalid
  | c :: rest =>
    if c = '>' then .ok ([], rest)
    else if isNameChar isFirst c then
      match readName false rest with
      | .ok (name, after) => .ok (c :: name, after)
      | .error fault => .error fault
    else .error .groupNameInvalid

/-- Reads a group with a name. -/
def readNamedGroup (text : List Char) : Except SyntaxFault (GroupHead × List Char) :=
  match readName true text with
  | .error fault => .error fault
  | .ok ([], _) => .error .groupNameEmpty
  | .ok (name, after) => .ok (.capture (some (String.ofList name)), after)

/-- Reads what follows an opening parenthesis. -/
def readGroupHead (verbose : Bool) (text : List Char) :
    Except SyntaxFault (GroupHead × List Char) :=
  match skipSpace verbose text with
  | '?' :: rest =>
    match rest with
    | '=' :: _ => .error .lookAroundUnsupported
    | '!' :: _ => .error .lookAroundUnsupported
    | '<' :: '=' :: _ => .error .lookAroundUnsupported
    | '<' :: '!' :: _ => .error .lookAroundUnsupported
    | 'P' :: '<' :: after => readNamedGroup after
    | '<' :: after => readNamedGroup after
    | _ => readFlags false false [] rest
  | text => .ok (.capture none, text)

theorem length_readFlags_le {negated dangling : Bool} {settings : FlagSettings}
    {text after : List Char} {head : GroupHead}
    (h : readFlags negated dangling settings text = .ok (head, after)) :
    after.length ≤ text.length := by
  induction text generalizing negated dangling settings with
  | nil => simp [readFlags] at h
  | cons c rest ih =>
    simp only [readFlags] at h
    split at h
    · split at h
      · simp at h
      · split at h
        · simp_all
        · split at h <;> simp_all
    · split at h
      · split at h
        · simp at h
        · exact Nat.le_succ_of_le (ih h)
      · split at h
        · simp at h
        · split at h
          · simp at h
          · exact Nat.le_succ_of_le (ih h)

theorem length_readName_le {isFirst : Bool} {text name after : List Char}
    (h : readName isFirst text = .ok (name, after)) : after.length ≤ text.length := by
  induction text generalizing isFirst name with
  | nil => simp [readName] at h
  | cons c rest ih =>
    simp only [readName] at h
    split at h
    · simp_all
    · split at h
      · split at h
        · next heq =>
          simp only [Except.ok.injEq, Prod.mk.injEq] at h
          exact Nat.le_succ_of_le (ih (h.2 ▸ heq))
        · simp at h
      · simp at h

theorem length_readNamedGroup_le {text after : List Char} {head : GroupHead}
    (h : readNamedGroup text = .ok (head, after)) : after.length ≤ text.length := by
  unfold readNamedGroup at h
  split at h
  · simp at h
  · simp at h
  · next heq =>
    have := length_readName_le heq
    simp_all

theorem length_readGroupHead_le {verbose : Bool} {text after : List Char} {head : GroupHead}
    (h : readGroupHead verbose text = .ok (head, after)) : after.length ≤ text.length := by
  have hs := length_skipSpace_le verbose text
  unfold readGroupHead at h
  split at h
  · next rest heq =>
    rw [heq] at hs
    simp only [List.length_cons] at hs
    split at h
    · simp at h
    · simp at h
    · simp at h
    · simp at h
    · have := length_readNamedGroup_le h
      simp only [List.length_cons] at hs
      omega
    · have := length_readNamedGroup_le h
      simp only [List.length_cons] at hs
      omega
    · have := length_readFlags_le h
      omega
  · simp_all

end BytePattern
