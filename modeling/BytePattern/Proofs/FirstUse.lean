/-
What is made where it is needed first: the pattern of references and the rules of the shorthands.
Their keys are looked up in the common store, and what is made of them is what replacement texts are
read and patterns are expanded with.
-/
import BytePattern.Proofs.ReferenceSearch
import BytePattern.Proofs.RuleSearch
import BytePattern.Proofs.Waiting

namespace BytePattern

/-- The key that is looked up for the references of a text, if their pattern is not made yet. -/
def Reference.keys (made : Bool) : List Key :=
  if made then [] else [Reference.key]

/-- The keys that are looked up for the rules of shorthands.  The first of them needs the pattern of
references for its replacement. -/
def Shorthand.keys (made : Bool) : List Shorthand → List Key
  | [] => []
  | shorthand :: others => shorthand.key :: (Reference.keys made ++ Shorthand.keys true others)

theorem Shorthand.enhanced_key (shorthand : Shorthand) :
    shorthand.key.flags.contains .enhanced = true := by
  have henhanced : (Flags.extended ||| Flags.enhanced).contains .enhanced = true := by decide
  exact henhanced

/-- A rule refers to what stands before the shorthand. -/
theorem Shorthand.contains_dollar {shorthand : Shorthand} (hmem : shorthand ∈ Shorthand.all) :
    (Bytes.ofString ("$1" ++ shorthand.bracket)).contains (ascii '$') = true := by
  have htext : Bytes.ofString ("$1" ++ shorthand.bracket) = _ :=
    congrArg Template.text (wellFormed_of_mem shorthand hmem).template_eq
  rw [htext]
  rfl

namespace Commons

/-- The keys that are looked up for the rules, if these are not made yet. -/
def ruleKeys (commons : Commons) : List Key :=
  if commons.rules.isSome then []
  else Shorthand.keys commons.references.isSome Shorthand.all

/-- The keys that are looked up before a key is compiled: those of the rules, unless the engine
knows shorthands itself or the text has no backslash. -/
def needs (commons : Commons) (key : Key) : List Key :=
  if key.flags.contains .enhanced then []
  else if key.text.toList.contains '\\' then commons.ruleKeys
  else []

variable {waiting : Key → Option Nat} {rest : Store} {commons : Commons} {key : Key}

/-- What is made is what it should be, and the store is `rest` but for the slots that wait. -/
structure Ready (waiting : Key → Option Nat) (rest : Store) (commons : Commons) : Prop where
  awaiting : Store.Awaiting waiting rest commons.store
  settled : rest.Settled
  genuine : rest.Genuine
  settings : ({} : Commons).store.SameSettings rest
  references : ∀ pattern, commons.references = some pattern → pattern = Reference.pattern
  rules : ∀ rules, commons.rules = some rules → rules = Shorthand.all.map Shorthand.rule
  silent : commons.warnings = []

/-- What is made, and that keys are looked up for it. -/
structure Makes {α : Type} (waiting : Key → Option Nat) (rest : Store) (keys : List Key) (value : α)
    (made : α × Commons) : Prop where
  value : made.1 = value
  ready : made.2.Ready waiting (rest.lookUp keys)

theorem references_referencePattern (commons : Commons) :
    commons.referencePattern.2.references.isSome = true := by
  unfold referencePattern
  split
  · next hreferences => exact Option.isSome_of_eq_some hreferences
  · rfl

theorem references_rule {shorthand : Shorthand} (hmem : shorthand ∈ Shorthand.all)
    (commons : Commons) : (commons.rule shorthand).2.references.isSome = true := by
  change ((commons.pattern shorthand.key).2.template
    (.ofString ("$1" ++ shorthand.bracket))).2.references.isSome = true
  rw [template, if_pos (Shorthand.contains_dollar hmem)]
  exact references_referencePattern _

section Makes

variable (hready : commons.Ready waiting rest)
include hready

theorem Ready.pattern {compiled : Compiled} (hother : waiting key = none)
    (hcompiled : ∀ before : Store, before.engine = ({} : SearchOptions).engine →
      (before.compiled key).1 = .ok compiled) :
    Makes waiting rest [key] ⟨key.text, key.flags, some compiled⟩ (commons.pattern key) := by
  have hchange := Store.lookup_change hready.settled key
  obtain ⟨hcompilation, hwarnings, hawaiting⟩ :=
    hready.awaiting.lookup hready.settled hready.settings.capacity hother
  obtain ⟨hresult, hsilent⟩ := hready.genuine.lookup_of_compiled hready.settled
    fun before hengine => hcompiled before (hengine.trans hready.settings.engine)
  refine ⟨?_, hawaiting, hchange.settled hready.settled,
    hchange.genuine hready.settled hready.genuine, hready.settings.trans hchange.settings,
    hready.references, hready.rules, ?_⟩
  · change Pattern.ofCompilation key (commons.store.lookup key).compilation = _
    rw [Pattern.ofCompilation, hcompilation, hresult]
    rfl
  · change commons.warnings ++ (commons.store.lookup key).warnings = []
    rw [hready.silent, hwarnings, hsilent, List.nil_append]

variable (hfree : ∀ key : Key, key.flags.contains .enhanced = true → waiting key = none)
include hfree

theorem Ready.referencePattern :
    Makes waiting rest (Reference.keys commons.references.isSome) Reference.pattern
      commons.referencePattern := by
  unfold Commons.referencePattern
  cases hreferences : commons.references with
  | some pattern => exact ⟨hready.references pattern hreferences, hready⟩
  | none =>
      obtain ⟨hvalue, hmade⟩ :=
        hready.pattern (hfree Reference.key rfl) fun before => Reference.compiled_key
      refine ⟨hvalue, hmade.awaiting, hmade.settled, hmade.genuine, hmade.settings, ?_,
        hmade.rules, hmade.silent⟩
      rintro pattern hpattern
      exact (Option.some.inj hpattern).symm.trans hvalue

theorem Ready.template (text : Bytes) :
    Makes waiting rest
      (if text.contains (ascii '$') then Reference.keys commons.references.isSome else [])
      (Template.parse text) (commons.template text) := by
  unfold Commons.template
  rw [Template.parse]
  split
  · obtain ⟨hvalue, hmade⟩ := hready.referencePattern hfree
    exact ⟨congrArg (fun pattern => Template.mk text (Reference.allIn pattern text)) hvalue, hmade⟩
  · exact ⟨rfl, hready⟩

theorem Ready.rule {shorthand : Shorthand} (hmem : shorthand ∈ Shorthand.all) :
    Makes waiting rest (shorthand.key :: Reference.keys commons.references.isSome) shorthand.rule
      (commons.rule shorthand) := by
  obtain ⟨hpattern, hmade⟩ := hready.pattern (hfree shorthand.key shorthand.enhanced_key)
    fun before hengine => Shorthand.compiled_key hengine hmem
  obtain ⟨htemplate, hdone⟩ := hmade.template hfree (.ofString ("$1" ++ shorthand.bracket))
  rw [if_pos (Shorthand.contains_dollar hmem)] at hdone
  exact ⟨congrArg₂ Substitution.mk hpattern htemplate, hdone⟩

/-- Rules are made one after the other, and each looks up the key of its own. -/
theorem Ready.makeRules {shorthands : List Shorthand}
    (hmem : ∀ shorthand ∈ shorthands, shorthand ∈ Shorthand.all) :
    Makes waiting rest (Shorthand.keys commons.references.isSome shorthands)
      (shorthands.map Shorthand.rule) (commons.makeRules shorthands) := by
  induction shorthands generalizing rest commons with
  | nil => exact ⟨rfl, hready⟩
  | cons shorthand others ih =>
      obtain ⟨hfirst, hothers⟩ := List.forall_mem_cons.mp hmem
      obtain ⟨hrule, hmade⟩ := hready.rule hfree hfirst
      obtain ⟨hrules, hdone⟩ := ih hmade hothers
      -- The first rule leaves the pattern of references made, so that no other looks it up.
      rw [references_rule hfirst, ← Store.lookUp_append] at hdone
      exact ⟨congrArg₂ List.cons hrule hrules, hdone⟩

theorem Ready.allRules :
    Makes waiting rest commons.ruleKeys (Shorthand.all.map Shorthand.rule) commons.allRules := by
  unfold Commons.allRules ruleKeys
  cases hrules : commons.rules with
  | some rules => exact ⟨hready.rules rules hrules, hready⟩
  | none =>
      obtain ⟨hvalue, hmade⟩ :=
        hready.makeRules hfree (fun _ => id : ∀ shorthand ∈ Shorthand.all, _)
      refine ⟨hvalue, hmade.awaiting, hmade.settled, hmade.genuine, hmade.settings,
        hmade.references, ?_, hmade.silent⟩
      rintro rules hmaderules
      exact (Option.some.inj hmaderules).symm.trans hvalue

theorem Ready.expand (text : String) :
    Makes waiting rest (if text.toList.contains '\\' then commons.ruleKeys else [])
      (Shorthand.expand text) (commons.expand text) := by
  unfold Commons.expand
  rw [Shorthand.expand]
  split
  · obtain ⟨hvalue, hmade⟩ := hready.allRules hfree
    exact ⟨congrArg (Shorthand.applyRules · text) hvalue, hmade⟩
  · exact ⟨rfl, hready⟩

end Makes

/-- A key that the engine is given as it is needs nothing, so its own slot may wait. -/
theorem Ready.expanded (hready : commons.Ready waiting rest) (key : Key)
    (hfree : key.flags.contains .enhanced = false →
      ∀ other : Key, other.flags.contains .enhanced = true → waiting other = none) :
    Makes waiting rest (commons.needs key) key.expanded (commons.expanded key) := by
  unfold Commons.expanded needs
  rw [Key.expanded]
  split
  · exact ⟨rfl, hready⟩
  · next hflags => exact hready.expand (hfree (Bool.eq_false_of_not_eq_true hflags)) key.text

theorem expand_of_made (hrules : commons.rules.isSome = true) (text : String) :
    (commons.expand text).2 = commons := by
  obtain ⟨rules, hmade⟩ := Option.isSome_iff_exists.mp hrules
  unfold Commons.expand Commons.allRules
  split
  · rw [hmade]
  · rfl

theorem expanded_of_made (hrules : commons.rules.isSome = true) (key : Key) :
    (commons.expanded key).2 = commons := by
  unfold Commons.expanded
  split
  · rfl
  · exact expand_of_made hrules key.text

theorem made_of_needs (hneeds : commons.needs key ≠ []) :
    (commons.expanded key).2.rules.isSome = true := by
  unfold needs at hneeds
  unfold Commons.expanded Commons.expand Commons.allRules
  split at hneeds
  · contradiction
  · next hflags =>
    rw [if_neg hflags]
    split at hneeds
    · next hbackslash =>
      rw [if_pos hbackslash]
      cases hrules : commons.rules with
      | some rules => exact Option.isSome_of_eq_some hrules
      | none => rfl
    · contradiction

theorem needs_of_made (hrules : commons.rules.isSome = true) (key : Key) :
    commons.needs key = [] := by
  rw [needs, ruleKeys, if_pos hrules]
  split
  · rfl
  · split <;> rfl

theorem rules_template (commons : Commons) (text : Bytes) :
    (commons.template text).2.rules = commons.rules := by
  unfold Commons.template Commons.referencePattern
  split
  · cases commons.references <;> rfl
  · rfl

/-- Between calls no slot of the common store waits, and all that is made is as it should be. -/
def Idle (commons : Commons) : Prop :=
  commons.Ready Store.noneWaiting commons.store

theorem Ready.idle (hready : commons.Ready Store.noneWaiting rest) : commons.Idle :=
  ⟨Store.awaiting_self _, hready.awaiting.settled hready.settled,
    hready.awaiting.genuine hready.genuine, hready.settings.trans hready.awaiting.settings,
    hready.references, hready.rules, hready.silent⟩

theorem Idle.expanded (hidle : commons.Idle) (key : Key) :
    Makes Store.noneWaiting commons.store (commons.needs key) key.expanded
      (commons.expanded key) :=
  Ready.expanded hidle key fun _ _ _ => rfl

/-- A change of the store that is left when no slot waits leaves the commons idle. -/
theorem Ready.change {after : Store} (hready : commons.Ready waiting rest)
    (hchange : rest.Change after) : Idle { commons with store := after } :=
  ⟨Store.awaiting_self _, hchange.settled hready.settled,
    hchange.genuine hready.settled hready.genuine, hready.settings.trans hchange.settings,
    hready.references, hready.rules, hready.silent⟩

/-- The commons with the slot of a key opened in the common store. -/
def opened (commons : Commons) (key : Key) : Commons :=
  { commons with store := commons.store.opened key }

theorem Idle.opened (hidle : commons.Idle) (hslot : commons.store.shelves.slot? key = none) :
    (commons.opened key).Ready (Store.waitingAt key commons.store.slots.length)
      commons.store.numbered :=
  ⟨Store.awaiting_opened hidle.settings.capacity hslot, hidle.settled.numbered,
    hidle.genuine.numbered, hidle.settings.trans (Store.alike_numbered _).settings,
    hidle.references, hidle.rules, hidle.silent⟩

theorem idle_new : Idle {} :=
  ⟨Store.awaiting_self _, Store.fresh_settled .., Store.fresh_genuine _ _ _, ⟨rfl, rfl, rfl⟩,
    nofun, nofun, rfl⟩

end Commons

end BytePattern
