/-
Cutting a haystack at spans that follow one another.  No slice is out of bounds, and the pieces
give the haystack back.
-/
import BytePattern.Operations
import Mathlib.Data.List.Chain

namespace BytePattern

namespace Matches

theorem stop_le_resume (span : Span) : span.stop ≤ resume span := by
  unfold resume
  split <;> omega

theorem resume_of_lt {span : Span} (hspan : span.start < span.stop) : resume span = span.stop :=
  if_neg (by simp only [Span.isEmpty, decide_eq_true_eq, Nat.not_le, hspan])

theorem start_lt_resume {span : Span} (hforward : span.start ≤ span.stop) :
    span.start < resume span := by
  by_cases hempty : span.stop ≤ span.start
  · simp only [resume, Span.isEmpty, hempty, decide_true, ↓reduceIte]
    omega
  · simp only [resume, Span.isEmpty, hempty, decide_false, Bool.false_eq_true, ↓reduceIte]
    omega

end Matches

namespace Span

/-- A span ends before another starts, and if it is empty a byte lies between them. -/
def Precedes (first second : Span) : Prop :=
  first.stop ≤ second.start ∧ (first.isEmpty = true → first.stop < second.start)

/-- Spans inside a text of this length, each where the walk may look for it after the one before;
the first of them may begin at `pos`. -/
inductive Ascending (length : Nat) : Nat → List Span → Prop where
  | nil (pos : Nat) : Ascending length pos []
  | cons {pos : Nat} {span : Span} {spans : List Span} (hstart : pos ≤ span.start)
      (hwithin : span.Within length) (hrest : Ascending length (Matches.resume span) spans) :
      Ascending length pos (span :: spans)

theorem precedes_iff_resume_le {first second : Span} :
    first.Precedes second ↔ Matches.resume first ≤ second.start := by
  by_cases hempty : first.isEmpty = true
  · simp only [Precedes, Matches.resume, hempty, ↓reduceIte, forall_const]
    omega
  · simp [Precedes, Matches.resume, hempty]

namespace Ascending

variable {length pos : Nat} {spans : List Span}

theorem within (hspans : Ascending length pos spans) : ∀ span ∈ spans, span.Within length := by
  induction hspans with
  | nil => simp
  | cons _ hwithin _ ih =>
      intro span hmem
      rcases List.mem_cons.mp hmem with rfl | hmem
      · exact hwithin
      · exact ih span hmem

theorem isChain (hspans : Ascending length pos spans) : spans.IsChain Precedes := by
  induction hspans with
  | nil => exact .nil
  | cons _ _ hrest ih =>
      cases hrest with
      | nil => exact .singleton _
      | cons hstart => exact .cons_cons (precedes_iff_resume_le.mpr hstart) ih

theorem of_initial {first : List Span} (hspans : Ascending length pos spans)
    (hinitial : first <+: spans) : Ascending length pos first := by
  induction hspans generalizing first with
  | nil =>
      rw [List.prefix_nil.mp hinitial]
      exact .nil _
  | cons hstart hwithin hrest ih =>
      cases first with
      | nil => exact .nil _
      | cons span others =>
          obtain ⟨rfl, hothers⟩ := List.cons_prefix_cons.mp hinitial
          exact .cons hstart hwithin (ih hothers)

end Ascending

end Span

namespace Bytes

/-- `gaps` with every slice checked. -/
def gaps? (haystack : Bytes) : Nat → List Span → Option (List Bytes)
  | last, [] => (haystack.text? ⟨last, haystack.length⟩).map ([·])
  | last, span :: spans => do
    let gap ← haystack.text? ⟨last, span.start⟩
    let others ← gaps? haystack span.stop spans
    return gap :: others

/-- `splice` with every slice checked. -/
def splice? (haystack : Bytes) : Nat → List (Span × Bytes) → Option Bytes
  | last, [] => haystack.text? ⟨last, haystack.length⟩
  | last, (span, text) :: rest => do
    let gap ← haystack.text? ⟨last, span.start⟩
    let others ← splice? haystack span.stop rest
    return gap ++ (text ++ others)

theorem text?_of_within {haystack : Bytes} {span : Span} (hwithin : span.Within haystack.length) :
    haystack.text? span = some (haystack.slice span) :=
  text?_eq_some_iff.mpr ⟨hwithin, rfl⟩

theorem slice_to_end (haystack : Bytes) (last : Nat) :
    haystack.slice ⟨last, haystack.length⟩ = haystack.drop last := by
  rw [slice, ← List.length_drop, List.take_length]

theorem take_append_slice (haystack : Bytes) {start stop : Nat} (hle : start ≤ stop) :
    haystack.take start ++ haystack.slice ⟨start, stop⟩ = haystack.take stop := by
  obtain ⟨k, rfl⟩ := Nat.exists_eq_add_of_le hle
  rw [slice, Nat.add_sub_cancel_left, ← List.take_add]

theorem slice_append_drop (haystack : Bytes) {start stop : Nat} (hle : start ≤ stop) :
    haystack.slice ⟨start, stop⟩ ++ haystack.drop stop = haystack.drop start := by
  obtain ⟨k, rfl⟩ := Nat.exists_eq_add_of_le hle
  rw [slice, Nat.add_sub_cancel_left, ← List.drop_drop, List.take_append_drop]

theorem gaps?_eq_some {haystack : Bytes} {pos last : Nat} {spans : List Span}
    (hspans : Span.Ascending haystack.length pos spans) (hpos : last ≤ pos)
    (hlast : last ≤ haystack.length) :
    haystack.gaps? last spans = some (haystack.gaps last spans) := by
  induction hspans generalizing last with
  | nil pos =>
      rw [gaps?, gaps, text?_of_within ⟨hlast, Nat.le_refl _⟩, slice_to_end]
      rfl
  | @cons pos span spans hstart hwithin hrest ih =>
      have hgap : (⟨last, span.start⟩ : Span).Within haystack.length :=
        ⟨Nat.le_trans hpos hstart, Nat.le_trans hwithin.1 hwithin.2⟩
      rw [gaps?, gaps, text?_of_within hgap, ih (Matches.stop_le_resume span) hwithin.2]
      rfl

theorem splice?_eq_some {haystack : Bytes} {pos last : Nat} {edits : List (Span × Bytes)}
    (hspans : Span.Ascending haystack.length pos (edits.map Prod.fst)) (hpos : last ≤ pos)
    (hlast : last ≤ haystack.length) :
    haystack.splice? last edits = some (haystack.splice last edits) := by
  induction edits generalizing pos last with
  | nil => rw [splice?, splice, text?_of_within ⟨hlast, Nat.le_refl _⟩, slice_to_end]
  | cons edit rest ih =>
      obtain ⟨span, text⟩ := edit
      cases hspans with
      | cons hstart hwithin hrest =>
          have hgap : (⟨last, span.start⟩ : Span).Within haystack.length :=
            ⟨Nat.le_trans hpos hstart, Nat.le_trans hwithin.1 hwithin.2⟩
          rw [splice?, splice, text?_of_within hgap,
            ih hrest (Matches.stop_le_resume span) hwithin.2]
          rfl

/-- Pieces with texts between them. -/
def interleave : List Bytes → List Bytes → Bytes
  | piece :: pieces, text :: texts => piece ++ (text ++ interleave pieces texts)
  | pieces, [] => pieces.flatten
  | [], texts => texts.flatten

theorem length_gaps (haystack : Bytes) (last : Nat) (spans : List Span) :
    (haystack.gaps last spans).length = spans.length + 1 := by
  induction spans generalizing last with
  | nil => rfl
  | cons span spans ih => simp [gaps, ih]

/-- Exchanging spans for texts puts the texts between the gaps. -/
theorem splice_eq_interleave (haystack : Bytes) (last : Nat) (edits : List (Span × Bytes)) :
    haystack.splice last edits =
      interleave (haystack.gaps last (edits.map Prod.fst)) (edits.map Prod.snd) := by
  induction edits generalizing last with
  | nil => simp [splice, gaps, interleave]
  | cons edit rest ih => simp [splice, gaps, interleave, ih]

/-- The gaps with the spans' own texts between them are the haystack. -/
theorem interleave_gaps {haystack : Bytes} {pos last : Nat} {spans : List Span}
    (hspans : Span.Ascending haystack.length pos spans) (hpos : last ≤ pos) :
    interleave (haystack.gaps last spans) (spans.map haystack.slice) = haystack.drop last := by
  induction hspans generalizing last with
  | nil => simp [gaps, interleave]
  | @cons pos span spans hstart hwithin hrest ih =>
      rw [gaps, List.map_cons, interleave, ih (Matches.stop_le_resume span),
        slice_append_drop haystack hwithin.1,
        slice_append_drop haystack (Nat.le_trans hpos hstart)]

/-- Exchanging each span for its own text changes nothing. -/
theorem splice_slice {haystack : Bytes} {pos : Nat} {edits : List (Span × Bytes)}
    (hspans : Span.Ascending haystack.length pos (edits.map Prod.fst))
    (htexts : ∀ edit ∈ edits, edit.2 = haystack.slice edit.1) :
    haystack.splice 0 edits = haystack := by
  have hmap : edits.map Prod.snd = (edits.map Prod.fst).map haystack.slice := by
    rw [List.map_map]
    exact List.map_congr_left htexts
  rw [splice_eq_interleave, hmap, interleave_gaps hspans (Nat.zero_le _), List.drop_zero]

end Bytes

end BytePattern
