/-
Descriptions of patterns and stores for a reader of messages.
-/
import BytePattern.Quoted
import BytePattern.Store

namespace BytePattern

/-- A description of a value that may be missing. -/
def describeOption (description : Option String) : String :=
  match description with
  | some text => "Some(" ++ text ++ ")"
  | none => "None"

/-- A name with described fields. -/
def describeFields (name : String) (fields : List String) : String :=
  name ++ " \x7b " ++ ", ".intercalate fields ++ " \x7d"

/-- A description of a compiled pattern. -/
def Compiled.describe (compiled : Compiled) : String :=
  describeFields "Compiled"
    ["rewritten: " ++ Quoted.encode compiled.expanded,
     "group_len: " ++ toString compiled.program.groupLen,
     "outer_groups: [" ++ ", ".intercalate (compiled.outerGroups.map toString) ++ "]",
     ".."]

/-- A description of a pattern. -/
def Pattern.describe (pattern : Pattern) : String :=
  describeFields "Pattern"
    ["text: " ++ Quoted.encode pattern.text,
     "flags: " ++ pattern.flags.describe,
     "compiled: " ++ describeOption (pattern.compiled.map Compiled.describe)]

/-- A description of a store. -/
def Store.describe (store : Store) : String :=
  describeFields "PatternCache"
    ["len: " ++ toString store.size,
     "capacity: " ++ describeOption (store.capacity.map toString),
     "cache_failures: " ++ toString store.keepsFailures,
     ".."]

end BytePattern
