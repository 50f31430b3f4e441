/-
Conditions on a position: what they ask of the bytes and characters on both sides of it.
-/
import BytePattern.Regex.Basic
import BytePattern.Unicode.Derived
import BytePattern.Utf8

namespace BytePattern

/-- Whether a byte is an ASCII word character. -/
def isWordByte (byte : UInt8) : Bool :=
  (0x30 ≤ byte && byte ≤ 0x39) || (0x41 ≤ byte && byte ≤ 0x5A) || byte == 0x5F
    || (0x61 ≤ byte && byte ≤ 0x7A)

/-- What stands on one side of a position. -/
inductive Side where
  /-- Nothing, for the subject ends there. -/
  | edge
  /-- No whole character. -/
  | broken
  /-- A character, which is a word character or not. -/
  | char (isWord : Bool)
deriving DecidableEq, Repr, Inhabited

namespace Side

/-- Whether a word character stands there. -/
def isWord : Side → Bool
  | char isWord => isWord
  | _ => false

/-- A side of bytes. -/
def ofByte : Option UInt8 → Side
  | none => edge
  | some byte => char (isWordByte byte)

/-- A side of characters, `atEdge` telling that the subject ends there. -/
def ofChar (atEdge : Bool) : Option Nat → Side
  | some c => char (wordCharacter.contains c)
  | none => if atEdge then edge else broken

/-- What stands before a position. -/
def before (unicode : Bool) (subject : Array UInt8) (pos : Nat) : Side :=
  if unicode then ofChar (pos == 0) (Utf8.charBefore subject pos)
  else if pos = 0 then edge
  else ofByte subject[pos - 1]?

/-- What stands after a position. -/
def after (unicode : Bool) (subject : Array UInt8) (pos : Nat) : Side :=
  if unicode then ofChar (subject.size ≤ pos) (Utf8.charAt subject pos) else ofByte subject[pos]?

end Side

/-- Whether the condition holds between the two sides.  A condition that asks for no word character
does not hold where there is no whole character. -/
def WordCondition.holds (before after : Side) : WordCondition → Bool
  | boundary => before.isWord != after.isWord
  | notBoundary =>
    before != .broken && after != .broken && before.isWord == after.isWord
  | start => !before.isWord && after.isWord
  | stop => before.isWord && !after.isWord
  | startHalf => before != .broken && !before.isWord
  | endHalf => after != .broken && !after.isWord

/-- Whether a condition holds at a position. -/
def Look.holds (subject : Array UInt8) (pos : Nat) : Look → Bool
  | textStart => pos == 0
  | textEnd => pos == subject.size
  | lineStart false => pos == 0 || subject[pos - 1]? == some 0x0A
  | lineStart true =>
    pos == 0 || subject[pos - 1]? == some 0x0A
      || (subject[pos - 1]? == some 0x0D && subject[pos]? != some 0x0A)
  | lineEnd false => pos == subject.size || subject[pos]? == some 0x0A
  | lineEnd true =>
    pos == subject.size || subject[pos]? == some 0x0D
      || (subject[pos]? == some 0x0A && (pos == 0 || subject[pos - 1]? != some 0x0D))
  | word unicode condition =>
    condition.holds (Side.before unicode subject pos) (Side.after unicode subject pos)

end BytePattern
