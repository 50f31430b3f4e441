/-
A session: a store of its own beside the common one.  The pattern of references and the rules of the
shorthands are looked up in the common store where they are needed first, and are made only once.
-/
import BytePattern.Store

namespace BytePattern

/-- The key of the pattern of references. -/
def Reference.key : Key :=
  ⟨pattern.flags, pattern.text⟩

/-- The key of the rule of a shorthand. -/
def Shorthand.key (shorthand : Shorthand) : Key :=
  ⟨shorthand.pattern.flags, shorthand.ruleText⟩

/-- The common store, which has the default engine, and what is made with it. -/
structure Commons where
  store : Store := { engine := ({} : SearchOptions).engine }
  /-- The pattern of references, once it is made. -/
  references : Option Pattern := none
  /-- The rules of the shorthands, once they are made. -/
  rules : Option (List Substitution) := none
  /-- What the store warned of while these were made. -/
  warnings : List String := []

namespace Commons

/-- Looks up a pattern whose text the engine is given as it is. -/
def pattern (commons : Commons) (key : Key) : Pattern × Commons :=
  let found := commons.store.lookup key
  (found.pattern key,
    { commons with store := found.store, warnings := commons.warnings ++ found.warnings })

/-- The pattern of references, which is made if it is needed for the first time. -/
def referencePattern (commons : Commons) : Pattern × Commons :=
  match commons.references with
  | some pattern => (pattern, commons)
  | none =>
    let (pattern, commons) := commons.pattern Reference.key
    (pattern, { commons with references := some pattern })

/-- Finds the references of a replacement text.  Without a dollar sign there is none, and the
pattern is not needed. -/
def template (commons : Commons) (text : Bytes) : Template × Commons :=
  if text.contains (ascii '$') then
    let (pattern, commons) := commons.referencePattern
    (⟨text, Reference.allIn pattern text⟩, commons)
  else (⟨text, []⟩, commons)

/-- Makes the rule of a shorthand. -/
def rule (commons : Commons) (shorthand : Shorthand) : Substitution × Commons :=
  let (pattern, commons) := commons.pattern shorthand.key
  let (template, commons) := commons.template (.ofString ("$1" ++ shorthand.bracket))
  (⟨pattern, template⟩, commons)

/-- Makes the rules of shorthands, one after the other. -/
def makeRules (commons : Commons) : List Shorthand → List Substitution × Commons
  | [] => ([], commons)
  | shorthand :: others =>
    let (rule, commons) := commons.rule shorthand
    let (rules, commons) := commons.makeRules others
    (rule :: rules, commons)

/-- The rules of all shorthands, which are made if they are needed for the first time. -/
def allRules (commons : Commons) : List Substitution × Commons :=
  match commons.rules with
  | some rules => (rules, commons)
  | none =>
    let (rules, commons) := commons.makeRules Shorthand.all
    (rules, { commons with rules := some rules })

/-- Expands every live shorthand.  A text without a backslash has none, and the rules are not
needed. -/
def expand (commons : Commons) (text : String) : Except CompileError String × Commons :=
  if text.toList.contains '\\' then
    let (rules, commons) := commons.allRules
    (Shorthand.applyRules rules text, commons)
  else (.ok text, commons)

/-- The text that the engine is given for a key. -/
def expanded (commons : Commons) (key : Key) : Except CompileError String × Commons :=
  if key.flags.contains .enhanced then (.ok key.text, commons) else commons.expand key.text

end Commons

/-- The stores of a session. -/
inductive Place where
  | own
  | common
deriving DecidableEq, Repr

/-- A store of one's own, and what every session has. -/
structure Session where
  own : Store
  commons : Commons := {}

namespace Session

/-- The store at a place. -/
def storeAt (session : Session) : Place → Store
  | .own => session.own
  | .common => session.commons.store

/-- The session with a store put at a place. -/
def withStore (session : Session) (store : Store) : Place → Session
  | .own => { session with own := store }
  | .common => { session with commons := { session.commons with store := store } }

/-- Looks a key up.  While its slot waits to be filled, the rules are made if they are needed to
expand the text. -/
def lookup (session : Session) (place : Place) (key : Key) : Lookup × Session :=
  let (opened, slot) := (session.storeAt place).openSlot key
  match opened.content? slot with
  | some compilation =>
    let found := (⟨opened, compilation, []⟩ : Lookup).close key slot
    (found, session.withStore found.store place)
  | none =>
    let session := session.withStore opened place
    let (expanded, commons) := session.commons.expanded key
    let session := { session with commons := commons }
    let found := ((session.storeAt place).fillFrom key slot expanded).close key slot
    (found, session.withStore found.store place)

/-- Looks the pattern of a key up and reads its replacement. -/
def substitute (session : Session) (place : Place) (key : Key) (replacement : Bytes) :
    (Lookup × Substitution) × Session :=
  let (found, session) := session.lookup place key
  let (template, commons) := session.commons.template replacement
  ((found, ⟨found.pattern key, template⟩), { session with commons := commons })

/-- Reads a substitution expression and looks its pattern up.  If it cannot be read nothing is
looked up. -/
def substitution? (session : Session) (place : Place) (text : String) :
    Except ExpressionError ((Lookup × Substitution) × Session) :=
  match Expression.parse text with
  | .error error => .error error
  | .ok expression =>
    .ok (session.substitute place expression.key (.ofString expression.replacement))

/-- Forgets the failure kept under a key, if there is one, and tells whether there was. -/
def invalidate (session : Session) (place : Place) (key : Key) : Bool × Session :=
  let (store, dropped) := (session.storeAt place).invalidate key
  (dropped, session.withStore store place)

end Session

end BytePattern
