/-
The search for the leftmost match.  Ways through the code are explored depth first, and each pair of
an instruction and a position at most once: what failed there before would fail there again.
-/
import BytePattern.Bytes
import BytePattern.Regex.Code
import BytePattern.Regex.Look

namespace BytePattern

/-- A way through the code as far as it has gone. -/
structure Thread where
  /-- The instruction to come. -/
  place : Nat
  /-- The position where the way began. -/
  start : Nat
  /-- The position reached in the subject. -/
  pos : Nat
  /-- The positions where the groups were last entered and last left, two slots for each group.
  What has no slot is not noted. -/
  slots : List (Option Nat)
deriving Repr, Inhabited

/-- What an instruction makes of a thread. -/
inductive Move where
  | stop
  | go (next : Thread)
  | split (first second : Thread)
  | accept (slots : List (Option Nat))
deriving Repr, Inhabited

namespace Thread

/-- The way that begins at a position. -/
def initial (slotCount start : Nat) : Thread :=
  ⟨0, start, start, List.replicate slotCount none⟩

/-- The thread `count` bytes further on, at the next instruction. -/
def take (thread : Thread) (count : Nat) : Thread :=
  { thread with place := thread.place + 1, pos := thread.pos + count }

/-- The thread at another instruction. -/
def goTo (thread : Thread) (distance : Int) : Thread :=
  { thread with place := (thread.place + distance).toNat }

/-- The length of the member of a class that stands at a position. -/
def classLength? (subject : Array UInt8) (pos : Nat) : CharClass → Option Nat
  | .bytes set => (subject[pos]?).bind fun byte => if set.contains byte.toNat then some 1 else none
  | .chars set => (Utf8.decode subject pos subject.size).bind fun (c, length) =>
      if set.contains c then some length else none

/-- Notes the position in a slot. -/
def mark (thread : Thread) (slot : Nat) : Thread :=
  { thread with
    place := thread.place + 1
    slots := thread.slots.set slot (some thread.pos) }

/-- The slots when the way ends in a match, the first two being for all of it. -/
def result (thread : Thread) : List (Option Nat) :=
  (thread.slots.set 0 (some thread.start)).set 1 (some thread.pos)

/-- Acts on the instruction to come. -/
def step (subject : Array UInt8) (thread : Thread) : Inst → Move
  | .byte byte => if subject[thread.pos]? = some byte then .go (thread.take 1) else .stop
  | .charClass charClass =>
    match classLength? subject thread.pos charClass with
    | some length => .go (thread.take length)
    | none => .stop
  | .look look => if look.holds subject thread.pos then .go (thread.take 0) else .stop
  | .fork first second => .split (thread.goTo first) (thread.goTo second)
  | .jump distance => .go (thread.goTo distance)
  | .enter group => .go (thread.mark (2 * group))
  | .leave group => .go (thread.mark (2 * group + 1))
  | .accept => .accept thread.result

end Thread

/-- The pairs of a position and an instruction that have been met, as rows of bits.  Each position
has `width` words of them. -/
structure Visited where
  width : Nat
  words : Array Nat

namespace Visited

/-- The number of bits in a word. -/
def wordSize : Nat := 32

/-- Nothing has been met, with room for so many positions and instructions. -/
def none (positions places : Nat) : Visited :=
  let width := places / wordSize + 1
  ⟨width, Array.replicate (positions * width) 0⟩

/-- The word that holds the bit of a pair. -/
def wordOf (visited : Visited) (pos place : Nat) : Nat :=
  pos * visited.width + place / wordSize

/-- Whether the instruction has been met at the position. -/
def contains (visited : Visited) (pos place : Nat) : Bool :=
  (visited.words.getD (visited.wordOf pos place) 0).testBit (place % wordSize)

/-- Notes that the instruction is met at the position. -/
def insert (visited : Visited) (pos place : Nat) : Visited :=
  { visited with
    words := visited.words.modify (visited.wordOf pos place) (· ||| 1 <<< (place % wordSize)) }

end Visited

/-- What an exploration leaves behind: a match or none, what it met, and how much may yet be met. -/
structure Exploration where
  found : Option (List (Option Nat))
  visited : Visited
  budget : Nat

/-- Explores threads, earlier ones before later ones, until one of them is accepted.  No pair is met
twice, so that a budget of as many pairs as there are is never used up. -/
def explore (code : Array Inst) (subject : Array UInt8) (budget : Nat) (visited : Visited)
    (threads : List Thread) : Exploration :=
  match threads with
  | [] => ⟨none, visited, budget⟩
  | thread :: rest =>
    if visited.contains thread.pos thread.place then explore code subject budget visited rest
    else
      match budget with
      | 0 => ⟨none, visited, 0⟩
      | budget + 1 =>
        let visited := visited.insert thread.pos thread.place
        match code[thread.place]? with
        | none => explore code subject budget visited rest
        | some inst =>
          match thread.step subject inst with
          | .stop => explore code subject budget visited rest
          | .go next => explore code subject budget visited (next :: rest)
          | .split first second => explore code subject budget visited (first :: second :: rest)
          | .accept slots => ⟨some slots, visited, budget⟩
termination_by 2 * budget + threads.length

/-- Explores from one starting position after the other, `tries` of them. -/
def exploreFrom (code : Array Inst) (subject : Array UInt8) (slotCount : Nat) :
    Nat → Nat → Nat → Visited → Option (List (Option Nat))
  | 0, _, _, _ => none
  | tries + 1, start, budget, visited =>
    let result := explore code subject budget visited [.initial slotCount start]
    match result.found with
    | some slots => some slots
    | none => exploreFrom code subject slotCount tries (start + 1) result.budget result.visited

/-- The slots of the leftmost match in a subject, if so many of them are kept. -/
def Code.search (code : Array Inst) (slotCount : Nat) (subject : Bytes) :
    Option (List (Option Nat)) :=
  let subject := subject.toArray
  let positions := subject.size + 1
  exploreFrom code subject slotCount positions 0 (code.size * positions)
    (.none positions code.size)

end BytePattern
