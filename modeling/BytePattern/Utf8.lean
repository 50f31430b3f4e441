/-
Characters in a byte string that need not be UTF-8 throughout.
-/
namespace BytePattern

namespace Utf8

/-- The number of bytes that an encoding with this first byte has. -/
def lengthOf? (first : UInt8) : Option Nat :=
  if first < 0x80 then some 1
  else if first < 0xC0 then none
  else if first < 0xE0 then some 2
  else if first < 0xF0 then some 3
  else if first < 0xF8 then some 4
  else none

/-- Whether a byte can only stand inside an encoding. -/
def isContinuation (byte : UInt8) : Bool :=
  byte &&& 0xC0 == 0x80

/-- The value that the bytes of an encoding add up to, given the value so far. -/
def continued? (value : Nat) : List UInt8 → Option Nat
  | [] => some value
  | byte :: rest =>
    if isContinuation byte then continued? (64 * value + (byte &&& 0x3F).toNat) rest else none

/-- The code point that an encoding of this length writes, which must not be longer than needed nor
name a surrogate. -/
def codePoint? (first : UInt8) (rest : List UInt8) : Option Nat :=
  match rest.length with
  | 0 => some first.toNat
  | 1 => (continued? (first &&& 0x1F).toNat rest).filter (0x80 ≤ ·)
  | 2 => (continued? (first &&& 0x0F).toNat rest).filter fun c =>
      0x800 ≤ c && (c < 0xD800 || 0xDFFF < c)
  | _ => (continued? (first &&& 0x07).toNat rest).filter fun c => 0x10000 ≤ c && c ≤ 0x10FFFF

/-- The code point of the character at a position whose encoding ends before `limit`, and the length
of its encoding. -/
def decode (subject : Array UInt8) (pos limit : Nat) : Option (Nat × Nat) := do
  let first ← subject[pos]?
  let length ← lengthOf? first
  let rest := (subject.extract (pos + 1) (min (pos + length) limit)).toList
  if rest.length + 1 = length then
    let c ← codePoint? first rest
    return (c, length)
  else none

/-- The nearest of at most `n` positions before `pos` that does not stand inside an encoding. -/
def leadBefore (subject : Array UInt8) : Nat → Nat → Nat
  | 0, pos => pos
  | n + 1, pos =>
    if (subject[pos]?).any isContinuation && 0 < pos then leadBefore subject n (pos - 1) else pos

/-- The character at a position. -/
def charAt (subject : Array UInt8) (pos : Nat) : Option Nat :=
  (decode subject pos subject.size).map (·.1)

/-- The character before a position, which starts at most four bytes before it. -/
def charBefore (subject : Array UInt8) (pos : Nat) : Option Nat :=
  if pos = 0 then none
  else (decode subject (leadBefore subject 3 (pos - 1)) pos).map (·.1)

end Utf8

end BytePattern
