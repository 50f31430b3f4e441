/-
The store of compiled patterns.  Each key is compiled at most once for as long as its result is
kept, and nothing that compiled is ever given up.
-/
import BytePattern.Expression
import BytePattern.OuterGroups
import BytePattern.Regex.Engine
import BytePattern.Shelves
import BytePattern.Shorthand

namespace BytePattern

namespace Key

/-- The text that the engine is given: shorthands are expanded unless it knows them itself.  The
rules they are expanded by are taken as made; `Session` makes them where they are needed first. -/
def expanded (key : Key) : Except CompileError String :=
  if key.flags.contains .enhanced then .ok key.text else Shorthand.expand key.text

/-- The warning that a failed compilation gives rise to. -/
def warning (key : Key) (error : CompileError) : String :=
  "Regex compilation error: " ++ error.message ++ ", in pattern \"" ++ key.text ++ "\" (flags "
    ++ key.flags.describe ++ ")"

end Key

/-- The outer groups of an expanded text that a program with this many groups has. -/
def Compiled.groupsOf (expanded : String) (flags : Flags) (groupLen : Nat) : List Nat :=
  ((outerGroups? expanded flags).getD (scanOuterGroups expanded)).filter (· < groupLen)

/-- The warnings that a compilation of a key gives rise to. -/
def Key.warnings (key : Key) : Except CompileError Compiled → List String
  | .ok _ => []
  | .error error => [key.warning error]

/-- What came of compiling a key.  The serial number is that of the slot that holds it, and tells
compilations of one store apart. -/
structure Compilation where
  serial : Nat
  result : Except CompileError Compiled

/-- Whether a compilation went well. -/
def Compilation.succeeded (compilation : Compilation) : Bool :=
  match compilation.result with
  | .ok _ => true
  | .error _ => false

/-- A store of compilations, with the requests its engine has had so far, latest first.  A key is
given a slot before it is compiled, and the slot is filled once. -/
structure Store where
  engine : Engine
  /-- The largest number of keys that are kept; there is none by default. -/
  capacity : Option Nat := none
  /-- Whether failures are kept too. -/
  keepsFailures : Bool := false
  /-- The slots that are kept. -/
  shelves : Shelves := .empty
  /-- What the slots made so far hold, kept or not; one that is not filled yet holds nothing. -/
  slots : List (Option (Except CompileError Compiled)) := []
  requests : List Request := []

/-- What a look-up gives: the store after it, the compilation, and the warnings. -/
structure Lookup where
  store : Store
  compilation : Compilation
  warnings : List String

namespace Store

/-- What is in a slot, once it is filled. -/
def content? (store : Store) (slot : Nat) : Option Compilation :=
  store.slots[slot]?.join.map (⟨slot, ·⟩)

/-- What is kept under a key. -/
def get? (store : Store) (key : Key) : Option Compilation :=
  (store.shelves.slot? key).bind store.content?

/-- Whether anything is kept under a key. -/
def contains (store : Store) (key : Key) : Bool :=
  (store.get? key).isSome

/-- The number of keys kept. -/
def size (store : Store) : Nat :=
  store.shelves.count

/-- Whether another key may be kept. -/
def hasRoom (store : Store) : Bool :=
  store.capacity.all (store.size < ·)

/-- What comes of compiling a key once its text is expanded, and the requests that the engine has
had after it. -/
def compiledFrom (store : Store) (key : Key) (expanded : Except CompileError String) :
    Except CompileError Compiled × List Request :=
  match expanded with
  | .error error => (.error error, store.requests)
  | .ok text =>
    let request : Request := ⟨text, key.flags⟩
    match store.engine.compile store.requests request with
    | .error error => (.error error, request :: store.requests)
    | .ok program =>
      (.ok ⟨program, Compiled.groupsOf text key.flags program.groupLen, text⟩,
        request :: store.requests)

/-- What comes of compiling a key, with rules that are made already, and the requests that the
engine has had after it.  A session makes the rules when it first needs them. -/
def compiled (store : Store) (key : Key) : Except CompileError Compiled × List Request :=
  store.compiledFrom key key.expanded

/-- The slot of a key, which is a new one if the key has none.  It is kept only if there is room for
it. -/
def insertSlot (store : Store) (key : Key) : Store × Nat :=
  match store.shelves.slot? key with
  | some slot => (store, slot)
  | none =>
    let slot := store.slots.length
    let shelves := if store.hasRoom then store.shelves.insert key slot else store.shelves
    ({ store with shelves := shelves, slots := store.slots ++ [none] }, slot)

/-- Forgets the slot of a key, if it is the one expected, and tells whether it was. -/
def removeSlot (store : Store) (key : Key) (expected : Nat) : Store × Bool :=
  match store.shelves.slot? key with
  | some slot =>
    if slot = expected then ({ store with shelves := store.shelves.remove key }, true)
    else (store, false)
  | none => (store, false)

/-- The slot of a key, made for it if it has none. -/
def openSlot (store : Store) (key : Key) : Store × Nat :=
  match store.shelves.slot? key with
  | some slot => (store, slot)
  | none => store.insertSlot key

/-- Fills a slot with what comes of compiling the key once its text is expanded. -/
def fillFrom (store : Store) (key : Key) (slot : Nat) (expanded : Except CompileError String) :
    Lookup :=
  let (result, requests) := store.compiledFrom key expanded
  { store := { store with slots := store.slots.set slot (some result), requests := requests }
    compilation := ⟨slot, result⟩
    warnings := key.warnings result }

/-- Fills a slot by compiling the key, unless the slot is filled already. -/
def fill (store : Store) (key : Key) (slot : Nat) : Lookup :=
  match store.content? slot with
  | some compilation => ⟨store, compilation, []⟩
  | none => store.fillFrom key slot key.expanded

end Store

/-- The look-up with the slot of the key taken back if it holds a failure, unless failures are kept
too. -/
def Lookup.close (found : Lookup) (key : Key) (slot : Nat) : Lookup :=
  { found with
    store :=
      if found.compilation.succeeded || found.store.keepsFailures then found.store
      else (found.store.removeSlot key slot).1 }

namespace Store

/-- Looks a key up, compiling it if it is not kept.  A failure is not kept for longer than that,
unless failures are kept too. -/
def lookup (store : Store) (key : Key) : Lookup :=
  let (opened, slot) := store.openSlot key
  (opened.fill key slot).close key slot

/-- Forgets the failure kept under a key, if there is one, and tells whether there was. -/
def invalidate (store : Store) (key : Key) : Store × Bool :=
  match store.get? key with
  | some compilation =>
    if compilation.succeeded then (store, false) else store.removeSlot key compilation.serial
  | none => (store, false)

end Store

/-- The pattern of a key; it is absent if the compilation failed. -/
def Pattern.ofCompilation (key : Key) (compilation : Compilation) : Pattern :=
  ⟨key.text, key.flags, compilation.result.toOption⟩

namespace Lookup

/-- The pattern that was looked up, absent if it failed to compile. -/
def pattern (lookup : Lookup) (key : Key) : Pattern :=
  .ofCompilation key lookup.compilation

/-- The pattern that was looked up, or why it failed to compile. -/
def pattern? (lookup : Lookup) (key : Key) : Except CompileError Pattern :=
  lookup.compilation.result.map fun compiled => ⟨key.text, key.flags, some compiled⟩

end Lookup

namespace Expression

/-- The key of the pattern in an expression. -/
def key (expression : Expression) : Key :=
  ⟨expression.flags, expression.pattern⟩

/-- The substitution that an expression stands for, given its pattern. -/
def substitution (expression : Expression) (pattern : Pattern) : Substitution :=
  ⟨pattern, .parse (.ofString expression.replacement)⟩

end Expression

namespace Store

/-- Reads a substitution expression and looks its pattern up.  If it cannot be read nothing is
looked up. -/
def substitution? (store : Store) (text : String) :
    Except ExpressionError (Lookup × Substitution) :=
  match Expression.parse text with
  | .error error => .error error
  | .ok expression =>
    let found := store.lookup expression.key
    .ok (found, expression.substitution (found.pattern expression.key))

end Store

end BytePattern
