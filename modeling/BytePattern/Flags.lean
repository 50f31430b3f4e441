/-
Compile flags, a set of bits.  Bits without a meaning are kept, because flags are part of the key
under which a compiled pattern is stored.
-/
namespace BytePattern

/-- The flags a pattern is compiled with. -/
structure Flags where
  bits : UInt32
deriving DecidableEq, Repr, Inhabited

namespace Flags

/-- No flag at all. -/
def none : Flags := ⟨0⟩

/-- Extended syntax, the only flag of the default. -/
def extended : Flags := ⟨1⟩

/-- Letters match both cases. -/
def ignoreCase : Flags := ⟨2⟩

/-- Line anchors match at lines and the dot leaves out the line feed. -/
def newline : Flags := ⟨4⟩

/-- Shorthand classes are left to the engine. -/
def enhanced : Flags := ⟨8⟩

instance : OrOp Flags := ⟨fun f g => ⟨f.bits ||| g.bits⟩⟩

/-- Whether every bit of `other` is set. -/
def contains (flags other : Flags) : Bool :=
  flags.bits &&& other.bits == other.bits

/-- The flag that a letter of a substitution expression stands for. -/
def ofLetter : Char → Flags
  | 'i' => ignoreCase
  | 'm' => newline
  | _ => none

/-- The flags that any of the letters stands for. -/
def ofLetters (letters : String) : Flags :=
  letters.toList.foldl (fun flags c => flags ||| ofLetter c) none

/-- The default flags with those of the letters added. -/
def withLetters (letters : String) : Flags :=
  extended ||| ofLetters letters

/-- The letters that stand for the flags. -/
def letters (flags : Flags) : String :=
  (if flags.contains ignoreCase then "i" else "") ++ (if flags.contains newline then "m" else "")

/-- The named flags in the order in which they are listed. -/
def named : List (String × Flags) :=
  [("EXTENDED", extended), ("ICASE", ignoreCase), ("NEWLINE", newline), ("ENHANCED", enhanced)]

/-- A bit set in lower case hexadecimal. -/
def hex (bits : UInt32) : String :=
  "0x" ++ String.ofList (Nat.toDigits 16 bits.toNat)

/-- The flags by name, unknown bits last in hexadecimal. -/
def describe (flags : Flags) : String :=
  let known := (named.filter fun entry => flags.contains entry.2).map (·.1)
  let unknown := flags.bits &&& ~~~ 15
  let parts := if unknown == 0 then known else known ++ [hex unknown]
  "CompileFlags(" ++ (if parts.isEmpty then hex 0 else " | ".intercalate parts) ++ ")"

end Flags

end BytePattern
