/-
What a store keeps.  A pattern that compiled is kept for ever, and a key that is not kept is
compiled once and kept only if there is room for it and its result is of a kind that is kept.
-/
import BytePattern.Proofs.Expansion
import BytePattern.Proofs.History

namespace BytePattern

/-- What the engine is given for a key: its text if the flags say that the engine knows shorthands,
and otherwise the text with the shorthands expanded. -/
theorem Key.exists_expanded (key : Key) : ∃ text, key.expanded = .ok text ∧
    if key.flags.contains .enhanced then text = key.text
    else Shorthand.expand key.text = .ok text := by
  rw [expanded]
  split
  · exact ⟨key.text, rfl, rfl⟩
  · obtain ⟨text, htext⟩ := Shorthand.exists_expand key.text
    exact ⟨text, htext, htext⟩

namespace Store

variable {store after : Store} {key : Key}

section Kept

variable {serial : Nat} {compiled : Compiled}

/-- A key is kept with a compiled pattern.  Every look-up of the key gives this very one, with no
request to the engine and no warning, and it cannot be forgotten. -/
structure Keeps (store : Store) (key : Key) (serial : Nat) (compiled : Compiled) : Prop where
  kept : store.get? key = some ⟨serial, .ok compiled⟩
  contained : store.contains key = true
  lookup : store.lookup key = ⟨store, ⟨serial, .ok compiled⟩, []⟩
  /-- The handle, also of a key that might be absent, is one on this pattern. -/
  pattern : (store.lookup key).pattern key = ⟨key.text, key.flags, some compiled⟩
  pattern? : (store.lookup key).pattern? key = .ok ⟨key.text, key.flags, some compiled⟩
  substitution : ∀ text expression, Expression.parse text = .ok expression → expression.key = key →
    store.substitution? text = .ok (⟨store, ⟨serial, .ok compiled⟩, []⟩,
      expression.substitution ⟨key.text, key.flags, some compiled⟩)
  invalidate : store.invalidate key = (store, false)
  /-- The serial number is that of no compilation of another key. -/
  apart : ∀ other, other ≠ key → (store.lookup other).compilation.serial ≠ serial

/-- No change gives up a pattern that compiled. -/
theorem Change.get?_eq (hsettled : store.Settled) (hchange : store.Change after)
    (hkept : store.get? key = some ⟨serial, .ok compiled⟩) :
    after.get? key = some ⟨serial, .ok compiled⟩ := by
  cases hchange with
  | same => exact hkept
  | missed key' slot found hslot hmissed =>
      have hother : key ≠ key' := by
        rintro rfl
        rw [(get?_eq_some_iff.mp hkept).1] at hslot
        contradiction
      rw [hmissed.get?_eq hsettled, if_neg fun hnew => hother hnew.1, hkept]
  | forgot key' compilation hkept' hfailed =>
      have hother : key ≠ key' := by
        rintro rfl
        obtain rfl := Option.some.inj (hkept.symm.trans hkept')
        contradiction
      rw [get?_remove, if_neg hother, hkept]

theorem Settled.serial_ne (hsettled : store.Settled)
    (hkept : store.get? key = some ⟨serial, .ok compiled⟩) {other : Key} (hother : other ≠ key) :
    (store.lookup other).compilation.serial ≠ serial := by
  obtain ⟨hslot, hcontent⟩ := get?_eq_some_iff.mp hkept
  cases hfound : store.get? other with
  | some compilation =>
      rw [lookup_of_kept hsettled hfound]
      intro hserial
      have hsame := (get?_eq_some_iff.mp hfound).1
      rw [hserial] at hsame
      exact hother (hsettled.apart key other serial hslot hsame)
  | none =>
      rw [(lookup_missed (hsettled.slot?_of_unkept hfound)).compilation]
      have hlt : serial < store.slots.length :=
        lt_of_content? (by rw [hcontent]; rfl)
      exact Nat.ne_of_gt hlt

theorem Settled.keeps (hsettled : store.Settled)
    (hkept : store.get? key = some ⟨serial, .ok compiled⟩) :
    store.Keeps key serial compiled := by
  have hlookup := lookup_of_kept hsettled hkept
  refine ⟨hkept, ?_, hlookup, ?_, ?_, ?_, ?_, fun other => hsettled.serial_ne hkept⟩
  · rw [contains, hkept]
    rfl
  · rw [hlookup]
    rfl
  · rw [hlookup]
    rfl
  · rintro text expression hparse rfl
    rw [substitution?, hparse]
    simp only [hlookup]
    rfl
  · exact invalidate_of_succeeded hkept rfl

/-- Once a pattern has compiled and is kept, it is kept whatever is asked of the store later, and
whatever the engine answers. -/
theorem keeps_run (engine : Engine) (capacity : Option Nat) (keepsFailures : Bool)
    (before later : List Operation)
    (hkept : ((fresh engine capacity keepsFailures).run before).get? key =
      some ⟨serial, .ok compiled⟩) :
    (((fresh engine capacity keepsFailures).run before).run later).Keeps key serial compiled := by
  have hbefore := (settings_run engine capacity keepsFailures before).1
  have hstep (store after : Store) (hsettled : store.Settled) (hchange : store.Change after)
      (hkept : store.get? key = some ⟨serial, .ok compiled⟩) :
      after.get? key = some ⟨serial, .ok compiled⟩ := hchange.get?_eq hsettled hkept
  obtain ⟨hsettled, hlater⟩ := run_preserves hstep hbefore hkept later
  exact hsettled.keeps hlater

/-- An engine that answers every other request. -/
def alternating : Engine where
  compile := fun before _ =>
    if before.length % 2 = 0 then .ok Reference.program else .error (.engine "busy")

/-- The only place of a store is taken by a pattern, and other keys are looked up and forgotten in
vain. -/
theorem keeps_run_alternating : ∃ compiled,
    ((fresh alternating (some 1) true).run [.lookup ⟨.extended, "a"⟩]).get? ⟨.extended, "a"⟩ =
      some ⟨0, .ok compiled⟩ ∧
    (((fresh alternating (some 1) true).run [.lookup ⟨.extended, "a"⟩]).run
      [.lookup ⟨.extended, "b"⟩, .invalidate ⟨.extended, "a"⟩, .substitution "/b/c/i",
        .lookup ⟨.extended, "a"⟩]).Keeps ⟨.extended, "a"⟩ 0 compiled := by
  have hkept : ((fresh alternating (some 1) true).run [.lookup ⟨.extended, "a"⟩]).get?
      ⟨.extended, "a"⟩ = some ⟨0, .ok _⟩ := rfl
  exact ⟨_, hkept, keeps_run alternating (some 1) true _ _ hkept⟩

end Kept

section Counted

/-- A key was compiled by one request to the engine, and its result is kept, beside all that was
kept, if it may be. -/
structure CompiledOnce (store : Store) (key : Key) (found : Lookup) : Prop where
  /-- The engine was asked once, and what it made of the text was given out. -/
  asked : ∃ text,
    (if key.flags.contains .enhanced then text = key.text
      else Shorthand.expand key.text = .ok text) ∧
    found.store.requests = ⟨text, key.flags⟩ :: store.requests ∧
    found.compilation.result =
      (store.engine.compile store.requests ⟨text, key.flags⟩).map fun program =>
        ⟨program, Compiled.groupsOf text key.flags program.groupLen, text⟩
  /-- Nothing that was kept is changed. -/
  stored : ∀ other, found.store.get? other =
    if other = key ∧ store.admits found.compilation = true then some found.compilation
    else store.get? other
  size : found.store.size =
    store.size + if store.admits found.compilation = true then 1 else 0

theorem compiled_eq_of_expanded {text : String} (hexpanded : key.expanded = .ok text) :
    store.compiled key =
      ((store.engine.compile store.requests ⟨text, key.flags⟩).map fun program =>
          ⟨program, Compiled.groupsOf text key.flags program.groupLen, text⟩,
        ⟨text, key.flags⟩ :: store.requests) := by
  rw [Store.compiled, hexpanded, compiledFrom]
  cases store.engine.compile store.requests ⟨text, key.flags⟩ <;> rfl

theorem Missed.compiledOnce {slot : Nat} {found : Lookup} (hsettled : store.Settled)
    (hslot : store.shelves.slot? key = none) (hmissed : store.Missed key slot found) :
    store.CompiledOnce key found := by
  obtain ⟨text, hexpanded, htext⟩ := key.exists_expanded
  have hcompiled : store.compiled key = _ := compiled_eq_of_expanded hexpanded
  refine ⟨⟨text, htext, ?_, ?_⟩, hmissed.get?_eq hsettled, hmissed.size_eq hslot⟩
  · rw [hmissed.requests, hcompiled]
  · rw [hmissed.compilation, hcompiled]

theorem get?_eq_none_of_not_contains (hunkept : store.contains key = false) :
    store.get? key = none :=
  Option.not_isSome_iff_eq_none.mp (ne_true_of_eq_false hunkept)

theorem Settled.compiledOnce (hsettled : store.Settled) (hunkept : store.contains key = false) :
    store.CompiledOnce key (store.lookup key) := by
  have hslot := hsettled.slot?_of_unkept (get?_eq_none_of_not_contains hunkept)
  exact (lookup_missed hslot).compiledOnce hsettled hslot

end Counted

end Store

end BytePattern
