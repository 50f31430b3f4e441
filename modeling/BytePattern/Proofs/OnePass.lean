/-
One pass over a text with escapes.  A mark and the symbol behind it are taken together, so that an
escaped mark escapes nothing.
-/
import Mathlib.Data.List.Basic

namespace BytePattern

variable {α : Type} [DecidableEq α]

/-- Where a mark stands before a symbol of the table, both are exchanged for what the table holds.
Everything else is copied. -/
def onePass (mark : α) (table : α → Option (List α)) : List α → List α
  | first :: second :: rest =>
    if first = mark then (table second).getD [first, second] ++ onePass mark table rest
    else first :: onePass mark table (second :: rest)
  | rest => rest

/-- The text before the first escape of a letter, and the text behind it. -/
def cutEscape (mark letter : α) : List α → Option (List α × List α)
  | first :: second :: rest =>
    if first = mark then
      if second = letter then some ([], rest)
      else
        (cutEscape mark letter rest).map fun (before, after) => (first :: second :: before, after)
    else
      (cutEscape mark letter (second :: rest)).map fun (before, after) => (first :: before, after)
  | _ => none

/-- A text is read token by token: a mark with the symbol behind it, or a symbol alone. -/
@[elab_as_elim]
theorem token_induction (mark : α) {motive : List α → Prop} (nil : motive [])
    (lone : motive [mark])
    (pair : ∀ second rest, motive rest → motive (mark :: second :: rest))
    (single : ∀ first rest, first ≠ mark → motive rest → motive (first :: rest))
    (text : List α) : motive text := by
  induction hlength : text.length using Nat.strongRecOn generalizing text with
  | ind length ih =>
      have hshorter (rest : List α) (hrest : rest.length < text.length) : motive rest :=
        ih rest.length (hlength ▸ hrest) rest rfl
      cases text with
      | nil => exact nil
      | cons first rest =>
          by_cases hfirst : first = mark
          · subst first
            cases rest with
            | nil => exact lone
            | cons second rest =>
                refine pair second rest (hshorter rest ?_)
                simp only [List.length_cons]
                omega
          · exact single first rest hfirst (hshorter rest (Nat.lt_succ_self _))

section OnePass

variable {mark : α} {table : α → Option (List α)}

theorem onePass_pair (second : α) (rest : List α) :
    onePass mark table (mark :: second :: rest) =
      (table second).getD [mark, second] ++ onePass mark table rest := by
  rw [onePass, if_pos rfl]

theorem onePass_single {first : α} (rest : List α) (hfirst : first ≠ mark) :
    onePass mark table (first :: rest) = first :: onePass mark table rest := by
  cases rest with
  | nil => rfl
  | cons second rest => rw [onePass, if_neg hfirst]

/-- A text without marks is copied. -/
theorem onePass_append {text : List α} (rest : List α) (htext : mark ∉ text) :
    onePass mark table (text ++ rest) = text ++ onePass mark table rest := by
  induction text with
  | nil => rfl
  | cons first text ih =>
      rw [List.mem_cons, not_or] at htext
      rw [List.cons_append, onePass_single _ (Ne.symm htext.1), ih htext.2, List.cons_append]

theorem onePass_of_not_mem {text : List α} (htext : mark ∉ text) :
    onePass mark table text = text := by
  have happend : onePass mark table (text ++ []) = _ := onePass_append [] htext
  simpa [onePass] using happend

theorem onePass_none (text : List α) : onePass mark (fun _ => none) text = text := by
  induction text using token_induction mark with
  | nil => rfl
  | lone => rfl
  | pair second rest ih => simp [onePass_pair, ih]
  | single first rest hfirst ih => rw [onePass_single _ hfirst, ih]

/-- Two passes are one if what the first puts in has no marks. -/
theorem onePass_onePass {other : α → Option (List α)}
    (hclean : ∀ symbol text, table symbol = some text → mark ∉ text) (text : List α) :
    onePass mark other (onePass mark table text) =
      onePass mark (fun symbol => table symbol <|> other symbol) text := by
  induction text using token_induction mark with
  | nil => rfl
  | lone => rfl
  | pair second rest ih =>
      rw [onePass_pair, onePass_pair, ← ih]
      cases htable : table second with
      | none => exact onePass_pair second _
      | some text => exact onePass_append _ (hclean second text htable)
  | single first rest hfirst ih =>
      rw [onePass_single _ hfirst, onePass_single _ hfirst, onePass_single _ hfirst, ih]

/-- The table of one letter. -/
def tableOf (letter : α) (text : List α) (symbol : α) : Option (List α) :=
  if symbol = letter then some text else none

theorem cutEscape_pair (letter second : α) (rest : List α) :
    cutEscape mark letter (mark :: second :: rest) =
      if second = letter then some ([], rest)
      else (cutEscape mark letter rest).map
        fun (before, after) => (mark :: second :: before, after) := by
  rw [cutEscape, if_pos rfl]

theorem cutEscape_single (letter : α) {first : α} (rest : List α) (hfirst : first ≠ mark) :
    cutEscape mark letter (first :: rest) =
      (cutEscape mark letter rest).map fun (before, after) => (first :: before, after) := by
  cases rest with
  | nil => rfl
  | cons second rest => rw [cutEscape, if_neg hfirst]

/-- Without an escape of the letter nothing changes. -/
theorem onePass_of_cutEscape_none {letter : α} {text : List α} (replacement : List α)
    (hcut : cutEscape mark letter text = none) :
    onePass mark (tableOf letter replacement) text = text := by
  induction text using token_induction mark with
  | nil => rfl
  | lone => rfl
  | pair second rest ih =>
      rw [cutEscape_pair] at hcut
      by_cases hsecond : second = letter
      · simp [hsecond] at hcut
      · rw [if_neg hsecond, Option.map_eq_none_iff] at hcut
        rw [onePass_pair, ih hcut, tableOf, if_neg hsecond]
        rfl
  | single first rest hfirst ih =>
      rw [cutEscape_single _ _ hfirst, Option.map_eq_none_iff] at hcut
      rw [onePass_single _ hfirst, ih hcut]

/-- The first escape of the letter is exchanged, and the pass goes on behind it. -/
theorem onePass_of_cutEscape_some {letter : α} {text before after : List α} (replacement : List α)
    (hcut : cutEscape mark letter text = some (before, after)) :
    text = before ++ mark :: letter :: after ∧
      onePass mark (tableOf letter replacement) text =
        before ++ (replacement ++ onePass mark (tableOf letter replacement) after) := by
  induction text using token_induction mark generalizing before with
  | nil => simp [cutEscape] at hcut
  | lone => simp [cutEscape] at hcut
  | pair second rest ih =>
      rw [cutEscape_pair] at hcut
      by_cases hsecond : second = letter
      · simp only [hsecond, ↓reduceIte, Option.some.injEq, Prod.mk.injEq] at hcut
        obtain ⟨rfl, rfl⟩ := hcut
        rw [onePass_pair, tableOf, if_pos hsecond, hsecond]
        exact ⟨rfl, rfl⟩
      · rw [if_neg hsecond] at hcut
        obtain ⟨⟨front, back⟩, hrest, heq⟩ := Option.map_eq_some_iff.mp hcut
        obtain ⟨rfl, rfl⟩ := Prod.mk.inj heq
        obtain ⟨htext, hpass⟩ := ih hrest
        rw [onePass_pair, hpass, tableOf, if_neg hsecond]
        exact ⟨congrArg (mark :: second :: ·) htext, rfl⟩
  | single first rest hfirst ih =>
      rw [cutEscape_single _ _ hfirst] at hcut
      obtain ⟨⟨front, back⟩, hrest, heq⟩ := Option.map_eq_some_iff.mp hcut
      obtain ⟨rfl, rfl⟩ := Prod.mk.inj heq
      obtain ⟨htext, hpass⟩ := ih hrest
      rw [onePass_single _ hfirst, hpass]
      exact ⟨congrArg (first :: ·) htext, rfl⟩

end OnePass

end BytePattern
