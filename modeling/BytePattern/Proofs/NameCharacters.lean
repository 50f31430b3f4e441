/-
What the name of a group cannot hold.  The categories are one long table, of which only the runs of
the first code points decide about an ASCII character.
-/
import BytePattern.Dialect.Opening
import Mathlib.Data.List.Basic

namespace BytePattern

namespace IntervalSet

/-- Intervals that do not hold a number.  One of them may be empty, but begins just behind its
end then. -/
def Avoid (n : Nat) (intervals : List (Nat × Nat)) : Prop :=
  ∀ interval ∈ intervals, interval.1 ≤ interval.2 + 1 ∧ (n < interval.1 ∨ interval.2 < n)

instance (n : Nat) (intervals : List (Nat × Nat)) : Decidable (Avoid n intervals) :=
  inferInstanceAs (Decidable (∀ interval ∈ intervals, _))

variable {n : Nat}

/-- Intervals that touch are melted together, which adds nothing between them. -/
theorem Avoid.insertInto {intervals : List (Nat × Nat)} {lo hi : Nat} (hforward : lo ≤ hi + 1)
    (houtside : n < lo ∨ hi < n) (hrest : Avoid n intervals) :
    Avoid n (insertInto lo hi intervals) := by
  induction intervals generalizing lo hi with
  | nil => exact List.forall_mem_singleton.mpr ⟨hforward, houtside⟩
  | cons interval rest ih =>
      obtain ⟨a, b⟩ := interval
      obtain ⟨⟨hab, hn⟩, hrest⟩ := List.forall_mem_cons.mp hrest
      dsimp only at hab hn
      rw [IntervalSet.insertInto]
      split
      · exact List.forall_mem_cons.mpr
          ⟨⟨hforward, houtside⟩, List.forall_mem_cons.mpr ⟨⟨hab, hn⟩, hrest⟩⟩
      · split
        · exact List.forall_mem_cons.mpr ⟨⟨hab, hn⟩, ih hforward houtside hrest⟩
        · exact ih (by omega) (by omega) hrest

theorem Avoid.ofList {intervals : List (Nat × Nat)} (hintervals : Avoid n intervals) :
    Avoid n (ofList intervals).intervals := by
  induction intervals with
  | nil => exact hintervals
  | cons interval rest ih =>
      obtain ⟨hinterval, hrest⟩ := List.forall_mem_cons.mp hintervals
      exact (ih hrest).insertInto hinterval.1 hinterval.2

theorem Avoid.union {s t : IntervalSet} (hs : Avoid n s.intervals) (ht : Avoid n t.intervals) :
    Avoid n (s.union t).intervals := by
  apply Avoid.ofList
  intro interval hmem
  rcases List.mem_merge.mp hmem with hmem | hmem
  · exact hs interval hmem
  · exact ht interval hmem

theorem Avoid.contains_eq_false {set : IntervalSet} (hset : Avoid n set.intervals) :
    set.contains n = false := by
  rw [IntervalSet.contains, List.any_eq_false]
  intro interval hmem
  have houtside := (hset interval hmem).2
  simp only [Bool.and_eq_true, decide_eq_true_eq, not_and]
  omega

end IntervalSet

namespace Run

theorem readFromEnd_append (front : List Char) {back : List Char} {runs : List Run}
    (hback : readFromEnd back = ([], [], runs)) :
    readFromEnd (front ++ back) =
      ((readFromEnd front).1, (readFromEnd front).2.1, (readFromEnd front).2.2 ++ runs) := by
  induction front with
  | nil => exact hback
  | cons c front ih =>
      rw [List.cons_append, readFromEnd, readFromEnd, ih]
      dsimp only
      split
      · rfl
      · split <;> rfl

/-- A table can be cut before a capital, and its parts read one by one. -/
theorem readTable_append {front back : String} {c : Char} {text : List Char}
    (hback : back.toList = c :: text) (hdigit : c.isDigit = false) (hupper : c.isUpper = true) :
    readTable (front ++ back) = readTable front ++ readTable back := by
  have hread : readFromEnd back.toList = ([], [], readTable back) := by
    rw [readTable, hback, readFromEnd, hdigit, hupper]
    rfl
  rw [readTable, String.toList_append, readFromEnd_append front.toList hread]
  rfl

/-- The number of code points that runs cover. -/
def covered : List Run → Nat
  | [] => 0
  | run :: runs => run.length + covered runs

variable {n place : Nat} (names : List String)

/-- Runs do not hold what lies before them. -/
theorem avoid_intervals (runs : List Run) (hplace : n < place) :
    IntervalSet.Avoid n (intervals names place runs) := by
  induction runs generalizing place with
  | nil => exact List.forall_mem_nil _
  | cons run runs ih =>
      have hrest := ih (Nat.lt_add_right run.length hplace)
      rw [intervals]
      split
      · exact List.forall_mem_cons.mpr ⟨⟨by dsimp only; omega, .inl hplace⟩, hrest⟩
      · exact hrest

/-- Only the runs up to a number decide about it. -/
theorem avoid_intervals_append (front back : List Run)
    (hplace : n < place + covered front)
    (hfront : IntervalSet.Avoid n (intervals names place front)) :
    IntervalSet.Avoid n (intervals names place (front ++ back)) := by
  induction front generalizing place with
  | nil => exact avoid_intervals names back hplace
  | cons run front ih =>
      rw [covered, ← Nat.add_assoc] at hplace
      rw [List.cons_append, intervals]
      rw [intervals] at hfront
      split
      · next hrun =>
        rw [if_pos hrun] at hfront
        obtain ⟨hfirst, hfront⟩ := List.forall_mem_cons.mp hfront
        exact List.forall_mem_cons.mpr ⟨hfirst, ih hplace hfront⟩
      · next hrun =>
        rw [if_neg hrun] at hfront
        exact ih hplace hfront

end Run

/-- Characters that the bracket expressions of shorthands begin with, and the backslash. -/
def nameless : List Char := [':', '^', '[', '\\']

/-- What is decided about these characters is decided one by one, and not about all there are. -/
theorem forall_nameless {holds : Char → Prop} [DecidablePred holds]
    (hall : nameless.all (fun c => decide (holds c)) = true) : ∀ c ∈ nameless, holds c :=
  fun c hc => of_decide_eq_true (List.all_eq_true.mp hall c hc)

theorem avoid_ofCategories : ∀ c ∈ nameless,
    IntervalSet.Avoid c.toNat (ofCategories alphabeticCategories).intervals ∧
      IntervalSet.Avoid c.toNat (ofCategories numberCategories).intervals := by
  have hfront : ∃ front back, categoryRuns = front ++ back ∧ ∀ c ∈ nameless,
      c.toNat < 0 + Run.covered front ∧
        IntervalSet.Avoid c.toNat (Run.intervals alphabeticCategories 0 front) ∧
        IntervalSet.Avoid c.toNat (Run.intervals numberCategories 0 front) := by
    rw [categoryRuns, categoryTable, String.join_cons, String.join_cons]
    refine ⟨_, _, Run.readTable_append (String.toList_append.trans rfl) rfl rfl,
      forall_nameless ?_⟩
    decide +kernel
  obtain ⟨front, back, hruns, hfront⟩ := hfront
  intro c hc
  obtain ⟨hplace, halphabetic, hnumber⟩ := hfront c hc
  rw [ofCategories, ofCategories, hruns]
  exact ⟨(Run.avoid_intervals_append _ front back hplace halphabetic).ofList,
    (Run.avoid_intervals_append _ front back hplace hnumber).ofList⟩

theorem avoid_nameStart {c : Char} (hc : c ∈ nameless) :
    IntervalSet.Avoid c.toNat nameStart.intervals := by
  have hnewer : ∀ c ∈ nameless, IntervalSet.Avoid c.toNat newerAlphabetic.intervals :=
    forall_nameless (by decide +kernel)
  exact (avoid_ofCategories c hc).1.union (hnewer c hc)

theorem avoid_namePart {c : Char} (hc : c ∈ nameless) :
    IntervalSet.Avoid c.toNat namePart.intervals := by
  have hnewer : ∀ c ∈ nameless, IntervalSet.Avoid c.toNat newerDigit.intervals :=
    forall_nameless (by decide +kernel)
  have hempty : IntervalSet.Avoid c.toNat IntervalSet.empty.intervals := List.forall_mem_nil _
  exact (avoid_nameStart hc).union ((avoid_ofCategories c hc).2.union ((hnewer c hc).union hempty))

theorem isNameChar_eq_false {c : Char} (hc : c = '\\' ∨ c = ':' ∨ c = '^') (isFirst : Bool) :
    isNameChar isFirst c = false := by
  have hmem : c ∈ nameless := by
    rcases hc with rfl | rfl | rfl <;> decide
  have hstart : nameStart.hasChar c = false := (avoid_nameStart hmem).contains_eq_false
  have hpart : namePart.hasChar c = false := (avoid_namePart hmem).contains_eq_false
  rw [isNameChar, hstart, hpart]
  rcases hc with rfl | rfl | rfl <;> cases isFirst <;> rfl

theorem isNameChar_bracket : isNameChar true '[' = false := by
  have hstart : nameStart.hasChar '[' = false :=
    (avoid_nameStart (by decide : '[' ∈ nameless)).contains_eq_false
  rw [isNameChar, hstart]
  rfl

end BytePattern
