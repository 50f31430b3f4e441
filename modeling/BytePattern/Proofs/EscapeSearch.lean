/-
The search of a shorthand's rule finds what a reader of escapes finds: the first letter whose
backslash is not itself escaped.
-/
import BytePattern.Proofs.LiveRun
import BytePattern.Proofs.OnePass
import Mathlib.Data.Nat.Init

namespace BytePattern

section Runs

variable {α : Type} {mark letter : α}

/-- What a cut finds behind a front of copied symbols. -/
def behindFront (front : List α) (cut : Option (List α × List α)) : Option (List α × List α) :=
  cut.map fun (before, after) => (front ++ before, after)

variable [DecidableEq α]

/-- In a run of marks each second one is escaped, so that the last is live if the run is odd. -/
theorem cutEscape_run (run : Nat) {rest : List α} (hrest : rest.head? ≠ some mark)
    (hletter : letter ≠ mark) :
    cutEscape mark letter (List.replicate run mark ++ rest) =
      if run % 2 = 1 ∧ rest.head? = some letter
      then some (List.replicate (run - 1) mark, rest.tail)
      else behindFront (List.replicate run mark) (cutEscape mark letter rest) := by
  induction run using Nat.twoStepInduction with
  | zero =>
      rw [List.replicate_zero, List.nil_append, if_neg (by simp)]
      cases cutEscape mark letter rest <;> rfl
  | one =>
      cases rest with
      | nil => rfl
      | cons first rest =>
          have hfirst : first ≠ mark := by simpa using hrest
          rw [List.replicate_one, List.singleton_append, cutEscape_pair,
            cutEscape_single _ _ hfirst]
          by_cases hlive : first = letter
          · rw [if_pos hlive, if_pos ⟨rfl, by rw [hlive]; rfl⟩]
            rfl
          · rw [if_neg hlive, if_neg (by simpa using hlive)]
            cases cutEscape mark letter rest <;> rfl
  | more run ih _ =>
      rw [List.replicate_succ, List.replicate_succ, List.cons_append, List.cons_append,
        cutEscape_pair, if_neg (Ne.symm hletter), ih]
      have hparity : (run + 2) % 2 = run % 2 := Nat.add_mod_right run 2
      rw [hparity]
      by_cases hlive : run % 2 = 1 ∧ rest.head? = some letter
      · have hrun : run + 2 - 1 = run - 1 + 2 := by omega
        rw [if_pos hlive, if_pos hlive, hrun]
        rfl
      · rw [if_neg hlive, if_neg hlive]
        cases cutEscape mark letter rest <;> rfl

end Runs

namespace Shorthand

/-- A search from a position meets the escape that a reader of escapes cuts at: the match ends
behind the letter, and its group ends before the backslash. -/
inductive Locates (pos : Nat) : Option Captures → Option (Bytes × Bytes) → Prop where
  | absent : Locates pos none none
  | found (skipped : Nat) (before after : Bytes) (hskipped : skipped ≤ before.length) :
      Locates pos
        (some ⟨[some ⟨pos + skipped, pos + before.length + 2⟩,
          some ⟨pos + skipped, pos + before.length⟩]⟩)
        (some (before, after))

theorem Locates.behind {pos : Nat} {caps : Option Captures} {cut : Option (Bytes × Bytes)}
    (front : Bytes) (hlocates : Locates (pos + front.length) caps cut) :
    Locates pos caps (behindFront front cut) := by
  cases hlocates with
  | absent => exact Locates.absent
  | found skipped before after hskipped =>
      have hfound : Locates pos _ _ :=
        Locates.found (front.length + skipped) (front ++ before) after
          (by rw [List.length_append]; omega)
      rwa [List.length_append, ← Nat.add_assoc, ← Nat.add_assoc] at hfound

/-- A live run behind a front of copied bytes is cut before its last backslash. -/
theorem Locates.live (pos pairs : Nat) (front after : Bytes) :
    Locates pos (some ((captures front.length (2 * pairs + 1)).shift pos))
      (some (front ++ List.replicate (2 * pairs) (ascii '\\'), after)) := by
  have hfound : Locates pos _ _ := Locates.found 0
    (front ++ List.replicate (2 * pairs) (ascii '\\')) after (Nat.zero_le _)
  rw [List.length_append, List.length_replicate] at hfound
  have hstop : front.length + (2 * pairs + 1) + 1 + pos =
      pos + (front.length + 2 * pairs) + 2 := by omega
  have hgroup : front.length + (2 * pairs + 1) - 1 + pos =
      pos + (front.length + 2 * pairs) := by omega
  simp only [captures, Captures.shift, List.map_cons, List.map_nil, Option.map_some, Span.shift,
    hstop, hgroup, Nat.zero_add]
  exact hfound

section Search

variable {letter : UInt8}

/-- Behind its first byte a run of backslashes is passed over. -/
theorem firstMatch_run (pos run : Nat) (rest : Bytes) :
    Program.firstMatch (matchAt letter) (pos + 1) (List.replicate run (ascii '\\') ++ rest) =
      Program.firstMatch (matchAt letter) (pos + 1 + run) rest := by
  induction run generalizing pos with
  | zero => rfl
  | succ run ih =>
      rw [List.replicate_succ, List.cons_append, Program.firstMatch]
      have hnext := ih (pos + 1)
      rw [Nat.add_right_comm (pos + 1) 1 run] at hnext
      exact hnext

/-- The last backslash of a live run is where the cut is made. -/
theorem cutEscape_of_live {run : Nat} {text : Bytes} (hletter : letter ≠ ascii '\\')
    (hlive : liveRun letter text = some run) :
    ∃ after, cutEscape (ascii '\\') letter text =
      some (List.replicate (run - 1) (ascii '\\'), after) := by
  obtain ⟨length, rest, rfl, hrest⟩ := exists_run text
  rw [liveRun_run length hrest] at hlive
  simp only [Option.ite_none_right_eq_some, Option.some.injEq] at hlive
  obtain ⟨hodd, rfl⟩ := hlive
  exact ⟨rest.tail, by rw [cutEscape_run length hrest hletter, if_pos hodd]⟩

theorem cutEscape_of_not_live {run : Nat} {rest : Bytes} (hletter : letter ≠ ascii '\\')
    (hrest : rest.head? ≠ some (ascii '\\'))
    (hlive : liveRun letter (List.replicate run (ascii '\\') ++ rest) = none) :
    cutEscape (ascii '\\') letter (List.replicate run (ascii '\\') ++ rest) =
      behindFront (List.replicate run (ascii '\\')) (cutEscape (ascii '\\') letter rest) := by
  rw [liveRun_run run hrest] at hlive
  have hdead : ¬(run % 2 = 1 ∧ rest.head? = some letter) := by simpa using hlive
  rw [cutEscape_run run hrest hletter, if_neg hdead]

theorem matchAt_cons {first : UInt8} (atStart : Bool) (rest : Bytes)
    (hfirst : first ≠ ascii '\\') :
    matchAt letter atStart (first :: rest) = (liveRun letter rest).map (captures 1) := by
  have hrun : liveRun letter (first :: rest) = none :=
    (liveRun_run 0 (by simpa using hfirst)).trans (if_neg (by simp))
  cases atStart <;> simp [matchAt, hrun, hfirst]

theorem matchAt_backslash (rest : Bytes) :
    matchAt letter true (ascii '\\' :: rest) =
      (liveRun letter (ascii '\\' :: rest)).map (captures 0) := by
  simp [matchAt]

/-- From a byte that is no backslash the search meets the next escape of the letter. -/
theorem locates_of_head (hletter : letter ≠ ascii '\\') (pos : Nat) {text : Bytes}
    (htext : text.head? ≠ some (ascii '\\')) :
    Locates pos (Program.firstMatch (matchAt letter) pos text)
      (cutEscape (ascii '\\') letter text) := by
  -- A run of backslashes that is passed over ends at a byte from which the search goes on likewise.
  induction hlength : text.length using Nat.strongRecOn generalizing pos text with
  | ind length ih =>
      cases text with
      | nil =>
          have hhere (atStart : Bool) : matchAt letter atStart [] = none := by
            cases atStart <;> rfl
          rw [Program.firstMatch, hhere]
          exact Locates.absent
      | cons first rest =>
          have hfirst : first ≠ ascii '\\' := by simpa using htext
          rw [Program.firstMatch, matchAt_cons _ _ hfirst, cutEscape_single _ _ hfirst]
          cases hlive : liveRun letter rest with
          | some run =>
              obtain ⟨pairs, _, rfl, _⟩ := (liveRun_eq_some_iff hletter).mp hlive
              obtain ⟨after, hcut⟩ := cutEscape_of_live hletter hlive
              rw [hcut]
              exact Locates.live pos pairs [first] after
          | none =>
              obtain ⟨run, tail, rfl, htail⟩ := exists_run rest
              rw [cutEscape_of_not_live hletter htail hlive]
              apply Locates.behind [first]
              apply Locates.behind (List.replicate run (ascii '\\'))
              simp only [Option.map_none, List.length_singleton, List.length_replicate,
                firstMatch_run]
              refine ih tail.length ?_ _ htail rfl
              simp only [← hlength, List.length_append, List.length_cons]
              omega

/-- The search of a rule meets the first escape of its letter. -/
theorem locates_start (hletter : letter ≠ ascii '\\') (text : Bytes) :
    Locates 0 (Program.firstMatch (matchAt letter) 0 text)
      (cutEscape (ascii '\\') letter text) := by
  obtain ⟨run, rest, rfl, hrest⟩ := exists_run text
  cases run with
  | zero => exact locates_of_head hletter 0 hrest
  | succ run =>
      cases hlive : liveRun letter (List.replicate (run + 1) (ascii '\\') ++ rest) with
      | some length =>
          obtain ⟨after, hcut⟩ := cutEscape_of_live hletter hlive
          obtain ⟨pairs, _, rfl, _⟩ := (liveRun_eq_some_iff hletter).mp hlive
          rw [hcut]
          rw [List.replicate_succ, List.cons_append] at hlive ⊢
          rw [Program.firstMatch, beq_self_eq_true, matchAt_backslash, hlive]
          exact Locates.live 0 pairs [] after
      | none =>
          rw [cutEscape_of_not_live hletter hrest hlive]
          apply Locates.behind
          rw [List.replicate_succ, List.cons_append] at hlive ⊢
          rw [Program.firstMatch, beq_self_eq_true, matchAt_backslash, hlive]
          simp only [Option.map_none, firstMatch_run, List.length_cons, List.length_replicate]
          rw [Nat.add_assoc, Nat.add_comm 1 run]
          exact locates_of_head hletter _ hrest

end Search

end Shorthand

end BytePattern
