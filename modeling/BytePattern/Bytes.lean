/-
Byte strings and the half-open spans that name parts of them.  A span that is reversed or leaves the
byte string names no text.
-/
namespace BytePattern

/-- How many positions a machine word tells apart. -/
def wordCount : Nat := 0x10000000000000000

/-- Haystacks, replacement texts and matched texts are byte strings. -/
abbrev Bytes := List UInt8

/-- The UTF-8 encoding of a text. -/
def Bytes.ofString (text : String) : Bytes :=
  text.toUTF8.data.toList

/-- The text with this UTF-8 encoding, if there is one. -/
def Bytes.toString? (bytes : Bytes) : Option String :=
  String.fromUTF8? ⟨bytes.toArray⟩

/-- How many positions of a byte string are told apart.  A byte string in memory is shorter than a
word can count, and a longer one is given as many positions as it has. -/
def Bytes.positions (bytes : Bytes) : Nat :=
  max wordCount (bytes.length + 1)

/-- The positions from `start` up to, and without, `stop`. -/
structure Span where
  start : Nat
  stop : Nat
deriving DecidableEq, Repr, Inhabited

namespace Span

/-- Whether the span holds no position. -/
def isEmpty (span : Span) : Bool :=
  span.stop ≤ span.start

/-- The span moved to the right. -/
def shift (span : Span) (offset : Nat) : Span :=
  ⟨span.start + offset, span.stop + offset⟩

/-- The span moved to the right among `count` positions, behind the last of which comes the first
again. -/
def wrap (span : Span) (count offset : Nat) : Span :=
  ⟨(span.start + offset) % count, (span.stop + offset) % count⟩

/-- Whether the span can be moved to the right without leaving the positions there are. -/
def Fits (span : Span) (count offset : Nat) : Prop :=
  span.start + offset < count ∧ span.stop + offset < count

/-- A span that runs forward and ends inside a text of this length. -/
def Within (span : Span) (length : Nat) : Prop :=
  span.start ≤ span.stop ∧ span.stop ≤ length

instance (span : Span) (length : Nat) : Decidable (span.Within length) :=
  inferInstanceAs (Decidable (_ ∧ _))

@[simp] theorem shift_start (span : Span) (offset : Nat) :
    (span.shift offset).start = span.start + offset := rfl

@[simp] theorem shift_stop (span : Span) (offset : Nat) :
    (span.shift offset).stop = span.stop + offset := rfl

@[simp] theorem shift_zero (span : Span) : span.shift 0 = span := rfl

theorem shift_shift (span : Span) (i j : Nat) :
    (span.shift i).shift j = span.shift (i + j) := by
  simp [shift, Nat.add_assoc]

theorem wrap_of_fits {span : Span} {count offset : Nat} (hfits : span.Fits count offset) :
    span.wrap count offset = span.shift offset := by
  rw [wrap, shift, Nat.mod_eq_of_lt hfits.1, Nat.mod_eq_of_lt hfits.2]

theorem isEmpty_shift (span : Span) (offset : Nat) :
    (span.shift offset).isEmpty = span.isEmpty := by
  simp [isEmpty]

end Span

namespace Bytes

theorem length_lt_positions (bytes : Bytes) : bytes.length < bytes.positions :=
  Nat.lt_of_succ_le (Nat.le_max_right _ _)

/-- What is left behind an offset has no fewer positions than are left. -/
theorem positions_sub_le (bytes : Bytes) (offset : Nat) :
    bytes.positions - offset ≤ positions (bytes.drop offset) := by
  simp only [positions, List.length_drop]
  omega

/-- The bytes that a span covers, as far as they exist. -/
def slice (bytes : Bytes) (span : Span) : Bytes :=
  (bytes.drop span.start).take (span.stop - span.start)

/-- The text of a span, or nothing if the span is not within the bytes. -/
def text? (bytes : Bytes) (span : Span) : Option Bytes :=
  if span.Within bytes.length then some (bytes.slice span) else none

theorem text?_eq_some_iff {bytes text : Bytes} {span : Span} :
    bytes.text? span = some text ↔ span.Within bytes.length ∧ bytes.slice span = text := by
  simp [text?]

/-- A text cut at a forward span gives the text back. -/
theorem take_append_slice_append_drop (bytes : Bytes) {span : Span} (h : span.start ≤ span.stop) :
    bytes.take span.start ++ bytes.slice span ++ bytes.drop span.stop = bytes := by
  obtain ⟨k, hk⟩ := Nat.exists_eq_add_of_le h
  rw [slice, hk, Nat.add_sub_cancel_left, ← List.drop_drop, List.append_assoc,
    List.take_append_drop, List.take_append_drop]

end Bytes

end BytePattern
