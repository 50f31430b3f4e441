/-
The rules that expand shorthands do not get into each other's way.  In whatever order they are
applied they give the same text, and in that text none of them finds anything more to expand.
-/
import BytePattern.Proofs.Expansion

namespace BytePattern

namespace Shorthand

theorem eq_of_letter : ∀ first ∈ all, ∀ second ∈ all,
    ascii first.letter = ascii second.letter → first = second := by
  decide

section Rules

variable {rules : List Shorthand} (hrules : ∀ shorthand ∈ rules, shorthand ∈ all)

include hrules

/-- What rules put in for a byte is the bracket expression of the one rule for it. -/
theorem bytesOf_eq_some_iff {byte : UInt8} {text : Bytes} :
    bytesOf rules byte = some text ↔ ∃ shorthand ∈ rules,
      ascii shorthand.letter = byte ∧ Bytes.ofString shorthand.bracket = text := by
  have hsome {shorthand : Shorthand} : tableOf (ascii shorthand.letter)
      (Bytes.ofString shorthand.bracket) byte = some text ↔
        ascii shorthand.letter = byte ∧ Bytes.ofString shorthand.bracket = text := by
    rw [tableOf, Option.ite_none_right_eq_some, Option.some.injEq]
    exact and_congr_left' eq_comm
  constructor
  · intro htext
    obtain ⟨shorthand, hmem, hfound⟩ := List.exists_of_findSome?_eq_some htext
    exact ⟨shorthand, hmem, hsome.mp hfound⟩
  · rintro ⟨shorthand, hmem, rfl, rfl⟩
    -- The first rule for the byte is this one, as no two rules have one letter.
    cases hfirst : bytesOf rules (ascii shorthand.letter) with
    | none =>
        have hnone := List.findSome?_eq_none_iff.mp hfirst shorthand hmem
        simp [tableOf] at hnone
    | some first =>
        obtain ⟨other, hother, hfound⟩ := List.exists_of_findSome?_eq_some hfirst
        obtain ⟨hletter, htext⟩ := Option.ite_none_right_eq_some.mp hfound
        obtain rfl := eq_of_letter _ (hrules _ hmem) _ (hrules _ hother) hletter
        exact congrArg some (Option.some.inj htext).symm

theorem wellFormed_of_rules : ∀ shorthand ∈ rules, shorthand.WellFormed :=
  fun shorthand hmem => wellFormed_of_mem shorthand (hrules shorthand hmem)

end Rules

/-- What rules make of a text depends on which they are only, not on their order nor on how often
each of them is applied. -/
theorem foldl_apply_of_mem_iff {rules : List Shorthand}
    (hsame : ∀ shorthand, shorthand ∈ rules ↔ shorthand ∈ all) (text : Bytes) :
    rules.foldl (fun bytes shorthand => shorthand.apply bytes) text =
      all.foldl (fun bytes shorthand => shorthand.apply bytes) text := by
  have hrules : ∀ shorthand ∈ rules, shorthand ∈ all := fun _ => (hsame _).mp
  have htable : bytesOf rules = bytesOf all := by
    funext byte
    apply Option.ext
    intro text
    rw [bytesOf_eq_some_iff hrules, bytesOf_eq_some_iff fun _ => id]
    simp only [hsame]
  rw [foldl_apply_eq (wellFormed_of_rules hrules), foldl_apply_eq wellFormed_of_mem, htable]

/-- A text, and what the rules make of it however they are applied. -/
structure Settles (text expanded : String) : Prop where
  anyOrder : ∀ rules : List Shorthand, rules.Perm all →
    rules.foldl (fun bytes shorthand => shorthand.apply bytes) (Bytes.ofString text) =
      Bytes.ofString expanded
  /-- Rules that are applied first, some or all and as often as one likes, change nothing about what
  comes of the text. -/
  early : ∀ rules : List Shorthand, (∀ shorthand ∈ rules, shorthand ∈ all) →
    all.foldl (fun bytes shorthand => shorthand.apply bytes)
        (rules.foldl (fun bytes shorthand => shorthand.apply bytes) (Bytes.ofString text)) =
      Bytes.ofString expanded
  late : ∀ shorthand ∈ all, shorthand.apply (Bytes.ofString expanded) = Bytes.ofString expanded
  again : expand expanded = .ok expanded

/-- Every text expands, and the rules settle on what it expands to. -/
theorem settles_expand (text : String) :
    ∃ expanded, expand text = .ok expanded ∧ Settles text expanded := by
  obtain ⟨expanded, hexpand⟩ := exists_expand text
  have hexpanded := expand_eq_ok_iff.mp hexpand
  have hlate : ∀ rules : List Shorthand, (∀ shorthand ∈ rules, shorthand ∈ all) →
      rules.foldl (fun bytes shorthand => shorthand.apply bytes) (Bytes.ofString expanded) =
        Bytes.ofString expanded := by
    intro rules hrules
    rw [← hexpanded, ← List.foldl_append]
    apply foldl_apply_of_mem_iff
    exact fun _ => List.mem_append.trans (or_iff_left_of_imp (hrules _))
  refine ⟨expanded, hexpand, ?_, ?_, ?_, ?_⟩
  · intro rules hperm
    rw [← hexpanded]
    apply foldl_apply_of_mem_iff
    exact fun _ => hperm.mem_iff
  · intro rules hrules
    rw [← hexpanded, ← List.foldl_append]
    apply foldl_apply_of_mem_iff
    exact fun _ => List.mem_append.trans (or_iff_right_of_imp (hrules _))
  · intro shorthand hmem
    exact hlate [shorthand] (List.forall_mem_singleton.mpr hmem)
  · exact expand_eq_ok_iff.mpr (hlate all fun _ => id)

end Shorthand

end BytePattern
