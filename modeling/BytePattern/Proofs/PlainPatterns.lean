/-
Plain patterns, which have neither brackets nor braces nor groups that begin with a question mark.
Their parentheses tell the same outer groups as their meaning.
-/
import BytePattern.Proofs.Meaning

namespace BytePattern

/-- The characters that do not stand for themselves.  A bracket or a brace that closes nothing
does. -/
def specialChars : List Char :=
  ['\\', '.', '^', '$', '(', ')', '[', '\x7b', '*', '+', '?', '|']

/-- The characters that more has to follow. -/
def openingChars : List Char := ['\\', '(', '[', '\x7b']

/-- The texts of plain patterns. -/
inductive PlainText : List Char → Prop where
  | empty : PlainText []
  | literal {c : Char} (hc : c ∉ specialChars) : PlainText [c]
  /-- A backslash before a sign, which is anything but a letter or a digit. -/
  | escape {c : Char} (hc : c.isAlphanum = false) : PlainText ['\\', c]
  | dot : PlainText ['.']
  | startLine : PlainText ['^']
  | endLine : PlainText ['$']
  /-- A group captures, as no question mark follows its parenthesis. -/
  | group {inside : List Char} (hinside : PlainText inside) (hhead : inside.head? ≠ some '?') :
      PlainText ('(' :: (inside ++ [')']))
  | append {first second : List Char} (hfirst : PlainText first) (hsecond : PlainText second) :
      PlainText (first ++ second)
  | branch {first second : List Char} (hfirst : PlainText first) (hsecond : PlainText second) :
      PlainText (first ++ '|' :: second)
  | star {inside : List Char} (hinside : PlainText inside) : PlainText (inside ++ ['*'])
  | plus {inside : List Char} (hinside : PlainText inside) : PlainText (inside ++ ['+'])
  | optional {inside : List Char} (hinside : PlainText inside) : PlainText (inside ++ ['?'])

/-- What may be left of a plain pattern where the next part of it begins. -/
inductive PlainRest : List Char → Prop where
  | nil : PlainRest []
  | escape {c : Char} {rest : List Char} (hc : c.isAlphanum = false) (hrest : PlainRest rest) :
      PlainRest ('\\' :: c :: rest)
  | opening {rest : List Char} (hhead : rest.head? ≠ some '?') (hrest : PlainRest rest) :
      PlainRest ('(' :: rest)
  | other {c : Char} {rest : List Char} (hc : c ∉ openingChars) (hrest : PlainRest rest) :
      PlainRest (c :: rest)

theorem PlainText.followed {text rest : List Char} (htext : PlainText text)
    (hrest : PlainRest rest) : PlainRest (text ++ rest) := by
  induction htext generalizing rest with
  | empty => exact hrest
  | literal hc =>
      have hspecial : openingChars ⊆ specialChars := by decide
      exact .other (fun hmem => hc (hspecial hmem)) hrest
  | escape hc => exact .escape hc hrest
  | dot | startLine | endLine => exact .other (by decide) hrest
  | @group inside _ hhead ih =>
      rw [List.cons_append, List.append_assoc]
      refine .opening ?_ (ih (.other (by decide) hrest))
      cases inside with
      | nil => simp
      | cons c inside => exact hhead
  | append _ _ ihFirst ihSecond =>
      rw [List.append_assoc]
      exact ihFirst (ihSecond hrest)
  | branch _ _ ihFirst ihSecond =>
      rw [List.append_assoc]
      exact ihFirst (.other (by decide) (ihSecond hrest))
  | star _ ih | plus _ ih | optional _ ih =>
      rw [List.append_assoc]
      exact ih (.other (by decide) hrest)

theorem PlainText.rest {text : List Char} (htext : PlainText text) : PlainRest text := by
  simpa using htext.followed .nil

section Scan

variable (count depth : Nat)

theorem scanParens_escape (c : Char) (rest : List Char) :
    scanParens count depth ('\\' :: c :: rest) = scanParens count depth rest := by
  rw [scanParens]

theorem scanParens_opening (rest : List Char) :
    scanParens count depth ('(' :: rest) =
      (if depth = 0 then [count + 1] else []) ++ scanParens (count + 1) (depth + 1) rest := by
  rw [scanParens]
  split <;> rfl

theorem scanParens_closing (rest : List Char) :
    scanParens count depth (')' :: rest) = scanParens count (depth - 1) rest := by
  rw [scanParens]

theorem scanParens_other {c : Char} (hc : c ∉ ['\\', '(', ')']) (rest : List Char) :
    scanParens count depth (c :: rest) = scanParens count depth rest := by
  simp only [List.mem_cons, List.not_mem_nil, or_false, not_or] at hc
  rw [scanParens]
  · simp [hc.1]
  · exact hc.2.1
  · exact hc.2.2

end Scan

namespace Node

variable (inner : Bool)

theorem capturesAll_eq_flatMap (nodes : List Node) :
    capturesAll inner nodes = nodes.flatMap (captures inner) := by
  induction nodes with
  | nil => rfl
  | cons node nodes ih => rw [capturesAll, ih, List.flatMap_cons]

theorem captures_ofItems : ∀ items : List Node,
    (ofItems items).captures inner = items.flatMap (captures inner)
  | [] => rfl
  | [_] => (List.append_nil _).symm
  | _ :: _ :: _ => capturesAll_eq_flatMap inner _

theorem captures_ofBranches : ∀ branches : List Node,
    (ofBranches branches).captures inner = branches.flatMap (captures inner)
  | [] => rfl
  | [_] => (List.append_nil _).symm
  | _ :: _ :: _ => capturesAll_eq_flatMap inner _

end Node

namespace Level

/-- The outer captures on a level so far. -/
def outer (level : Level) : List Nat :=
  level.branches.reverse.flatMap (Node.captures false) ++
    level.items.reverse.flatMap (Node.captures false)

theorem outer_push (level : Level) (item : Node) :
    (level.push item).outer = level.outer ++ item.captures false := by
  rw [outer, outer, push, List.reverse_cons, List.flatMap_append, List.flatMap_singleton,
    List.append_assoc]

theorem outer_branch (level : Level) : level.branch.outer = level.outer := by
  rw [outer, branch, List.reverse_cons, List.flatMap_append, List.flatMap_singleton,
    Node.captures_ofItems]
  exact List.append_nil _

theorem captures_node (level : Level) : level.node.captures false = level.outer := by
  rw [node, Node.captures_ofBranches, List.reverse_cons, List.flatMap_append,
    List.flatMap_singleton, Node.captures_ofItems]
  rfl

/-- Repeating the latest item keeps its captures, unless it is repeated zero times. -/
theorem outer_again {level : Level} {item : Node} {items : List Node} {repetition : Repetition}
    (hitems : level.items = item :: items)
    (hbounds : ¬(repetition.least = 0 ∧ repetition.most = some 0)) :
    outer { level with
      items := .repetition item repetition.least repetition.most repetition.greedy :: items } =
        level.outer := by
  rw [outer, outer, hitems, List.reverse_cons, List.reverse_cons, List.flatMap_append,
    List.flatMap_append, List.flatMap_singleton, List.flatMap_singleton, Node.captures,
    if_neg hbounds]

end Level

section Parts

variable {verbose : Bool} {c : Char} {rest after : List Char}

/-- A backslash and a sign are read as a whole. -/
theorem eq_of_readEscape {primitive : Primitive} (hc : c.isAlphanum = false)
    (hread : readEscape verbose (c :: rest) = .ok (primitive, after)) : after = rest := by
  have hne (d : Char) (hd : d.isAlphanum = true) : c ≠ d := by
    rintro rfl
    rw [hc] at hd
    contradiction
  have hdigit : c.isDigit = false := (Bool.or_eq_false_iff.mp hc).2
  have hx : ¬(c = 'x' ∨ c = 'u' ∨ c = 'U') := by simp [hne]
  have hp : ¬(c = 'p' ∨ c = 'P') := by simp [hne]
  have hb : c ≠ 'b' := by simp [hne]
  simp only [readEscape, hdigit, hx, hp, hb, ↓reduceIte, Bool.false_eq_true] at hread
  split at hread
  · exact (Prod.mk.inj (Except.ok.inj hread)).2.symm
  · exact (Prod.mk.inj (Except.ok.inj hread)).2.symm
  · exact (Prod.mk.inj (Except.ok.inj hread)).2.symm
  · split at hread
    · exact (Prod.mk.inj (Except.ok.inj hread)).2.symm
    · contradiction

/-- Without a question mark behind its parenthesis a group captures. -/
theorem readGroupHead_of_head? (hhead : rest.head? ≠ some '?') :
    readGroupHead false rest = .ok (.capture none, rest) := by
  unfold readGroupHead
  rw [skipSpace_false]
  split
  · exact absurd rfl hhead
  · rfl

/-- No part of a plain pattern is repeated zero times. -/
theorem exists_readGreed {result : Except SyntaxFault (Repetition × List Char)}
    (hc : c ∉ openingChars) (hread : readRepetition? verbose c rest = some result) :
    ∃ least most, result = .ok (readGreed least most rest) ∧ ¬(least = 0 ∧ most = some 0) := by
  unfold readRepetition? at hread
  split at hread
  · exact ⟨0, some 1, (Option.some.inj hread).symm, by decide⟩
  · exact ⟨0, none, (Option.some.inj hread).symm, by decide⟩
  · exact ⟨1, none, (Option.some.inj hread).symm, by decide⟩
  · exact absurd (by decide) hc
  · contradiction

theorem readGreed_plain {least : Nat} {most : Option Nat} {repetition : Repetition}
    (hrest : PlainRest rest) (hread : readGreed least most rest = (repetition, after)) :
    repetition.least = least ∧ repetition.most = most ∧ PlainRest after ∧
      ∀ count depth, scanParens count depth rest = scanParens count depth after := by
  unfold readGreed at hread
  split at hread
  · next mark =>
    obtain ⟨rfl, rfl⟩ := Prod.mk.inj hread
    cases hrest with
    | other _ hafter =>
        exact ⟨rfl, rfl, hafter, fun count depth => scanParens_other count depth (by decide) mark⟩
  · obtain ⟨rfl, rfl⟩ := Prod.mk.inj hread
    exact ⟨rfl, rfl, hrest, fun _ _ => rfl⟩

end Parts

namespace Reading

/-- The outer captures so far, if those on the innermost level are outer ones.  They are not while a
group is open, which is one itself unless it lies in another. -/
def outerAround (innermost : List Nat) : List OpenGroup → List Nat
  | [] => innermost
  | group :: groups => outerAround (group.around.outer ++ group.opening.opened) groups

/-- The outer captures so far. -/
def outer (reading : Reading) : List Nat :=
  outerAround reading.level.outer reading.groups

/-- Nothing is spaced out and all open groups capture. -/
structure Plain (reading : Reading) : Prop where
  verbose : reading.verbose = false
  groups : ∀ group ∈ reading.groups,
    group.verbose = false ∧ ∃ index, group.opening = .capture index

/-- What reading one part of a plain pattern does.  Only parentheses change how many groups are
open, and of what is left of the text they alone matter to the count. -/
inductive PlainStep (reading : Reading) : List Char → Reading → List Char → Prop where
  | opened {rest : List Char} (hrest : PlainRest rest) :
      PlainStep reading ('(' :: rest)
        (({ reading with captures := reading.captures + 1 } : Reading).enter
          (.capture (reading.captures + 1)) reading.verbose) rest
  | closed {rest : List Char} (group : OpenGroup) (groups : List OpenGroup)
      (hgroups : reading.groups = group :: groups) (hrest : PlainRest rest) :
      PlainStep reading (')' :: rest)
        { reading with
          level := group.around.push (.group group.opening reading.level.node)
          groups := groups
          verbose := group.verbose } rest
  | inside {text after : List Char} (level : Level) (hlevel : level.outer = reading.level.outer)
      (hafter : PlainRest after)
      (hscan : ∀ count depth, scanParens count depth text = scanParens count depth after) :
      PlainStep reading text { reading with level := level } after

variable {reading next : Reading} {text after : List Char}

theorem PlainStep.plain (hstep : reading.PlainStep text next after) (hplain : reading.Plain) :
    next.Plain ∧ PlainRest after := by
  cases hstep with
  | opened hrest =>
      refine ⟨⟨hplain.verbose, List.forall_mem_cons.mpr ⟨⟨hplain.verbose, _, rfl⟩, ?_⟩⟩, hrest⟩
      exact hplain.groups
  | closed group groups hgroups hrest =>
      obtain ⟨hgroup, hothers⟩ := List.forall_mem_cons.mp (hgroups ▸ hplain.groups)
      exact ⟨⟨hgroup.1, hothers⟩, hrest⟩
  | inside level hlevel hafter => exact ⟨⟨hplain.verbose, hplain.groups⟩, hafter⟩

/-- The outer captures so far and those that the parentheses to come tell stay the same. -/
theorem PlainStep.outer_append (hstep : reading.PlainStep text next after)
    (hplain : reading.Plain) :
    reading.outer ++ scanParens reading.captures reading.groups.length text =
      next.outer ++ scanParens next.captures next.groups.length after := by
  cases hstep with
  | opened hrest =>
      -- The group is an outer one only if it is the first to be open.
      rw [scanParens_opening, ← List.append_assoc]
      congr 1
      change _ = outerAround (reading.level.outer ++ [reading.captures + 1]) reading.groups
      rw [outer]
      cases reading.groups with
      | nil => rfl
      | cons group groups => exact List.append_nil _
  | closed group groups hgroups hrest =>
      obtain ⟨index, hindex⟩ := (hplain.groups group (hgroups ▸ List.mem_cons_self)).2
      rw [scanParens_closing, outer, outer, hgroups, outerAround, Level.outer_push, hindex]
      rfl
  | inside level hlevel hafter hscan =>
      rw [hscan, outer, outer, hlevel]

section Steps

variable {c : Char} {rest : List Char}

theorem plainStep_push {item : Node} (hitem : item.captures false = []) (hafter : PlainRest after)
    (hscan : ∀ count depth, scanParens count depth text = scanParens count depth after) :
    reading.PlainStep text (reading.push item) after := by
  refine .inside (reading.level.push item) ?_ hafter hscan
  rw [Level.outer_push, hitem, List.append_nil]

/-- A character that is an item of its own. -/
theorem plainStep_item {item : Node} (hitem : item.captures false = [])
    (hc : c ∉ ['\\', '(', ')']) (hrest : PlainRest rest)
    (hstep : (.ok (reading.push item, rest) : Except SyntaxFault (Reading × List Char)) =
      .ok (next, after)) : reading.PlainStep (c :: rest) next after := by
  obtain ⟨rfl, rfl⟩ := Prod.mk.inj (Except.ok.inj hstep)
  exact plainStep_push hitem hrest fun count depth => scanParens_other count depth hc _

theorem captures_itemOf (primitive : Primitive) : (itemOf primitive).captures false = [] := by
  cases primitive <;> rfl

theorem plainStep_backslash (hc : c.isAlphanum = false) (hrest : PlainRest rest)
    (hstep : reading.step '\\' (c :: rest) = .ok (next, after)) :
    reading.PlainStep ('\\' :: c :: rest) next after := by
  have hread : readSetPrimitive reading.verbose '\\' (c :: rest) =
      readEscape reading.verbose (c :: rest) := if_pos rfl
  rw [step_backslash, hread] at hstep
  cases hescape : readEscape reading.verbose (c :: rest) with
  | error fault =>
      rw [hescape] at hstep
      contradiction
  | ok found =>
      rw [hescape] at hstep
      obtain ⟨rfl, rfl⟩ := Prod.mk.inj (Except.ok.inj hstep)
      obtain rfl : found.2 = rest := eq_of_readEscape hc hescape
      exact plainStep_push (captures_itemOf _) hrest fun count depth =>
        scanParens_escape count depth c _

theorem plainStep_parenthesis (hplain : reading.Plain) (hhead : rest.head? ≠ some '?')
    (hrest : PlainRest rest) (hstep : reading.step '(' rest = .ok (next, after)) :
    reading.PlainStep ('(' :: rest) next after := by
  rw [step_parenthesis, hplain.verbose, readGroupHead_of_head? hhead] at hstep
  obtain ⟨rfl, rfl⟩ := Prod.mk.inj (Except.ok.inj hstep)
  exact .opened hrest

theorem plainStep_repeatLast {repetition : Repetition}
    (hbounds : ¬(repetition.least = 0 ∧ repetition.most = some 0))
    (hrepeat : reading.repeatLast repetition = .ok next) (hafter : PlainRest after)
    (hscan : ∀ count depth, scanParens count depth text = scanParens count depth after) :
    reading.PlainStep text next after := by
  unfold repeatLast at hrepeat
  split at hrepeat
  · contradiction
  · contradiction
  · next item items _ hitems =>
    obtain rfl := Except.ok.inj hrepeat
    exact .inside _ (Level.outer_again hitems hbounds) hafter hscan

theorem plainStep_of_not_sign (hc : c ∉ openingChars) (hsign : c ∉ signs) (hrest : PlainRest rest)
    (hstep : reading.step c rest = .ok (next, after)) :
    reading.PlainStep (c :: rest) next after := by
  have hparens : ['\\', '(', ')'] ⊆ signs := by decide
  have hother : c ∉ ['\\', '(', ')'] := fun hmem => hsign (hparens hmem)
  rw [step_of_not_sign hsign] at hstep
  cases hread : readRepetition? reading.verbose c rest with
  | none =>
      rw [hread] at hstep
      exact plainStep_item rfl hother hrest hstep
  | some result =>
      obtain ⟨least, most, rfl, hbounds⟩ := exists_readGreed hc hread
      rw [hread] at hstep
      cases hgreed : readGreed least most rest with
      | mk repetition left =>
          rw [hgreed] at hstep
          obtain rfl : left = after := map_pair_eq_ok hstep
          obtain ⟨rfl, rfl, hafter, hsame⟩ := readGreed_plain hrest hgreed
          exact plainStep_repeatLast hbounds (eq_ok_of_map_pair hstep) hafter fun count depth =>
            (scanParens_other count depth hother rest).trans (hsame count depth)

/-- Outside of groups nothing can be closed. -/
theorem plainStep_closing (hrest : PlainRest rest)
    (hstep : reading.step ')' rest = .ok (next, after)) :
    reading.PlainStep (')' :: rest) next after := by
  rw [step, if_neg (by decide), if_pos rfl] at hstep
  obtain rfl := map_pair_eq_ok hstep
  have hclose := eq_ok_of_map_pair hstep
  unfold closeGroup at hclose
  split at hclose
  · contradiction
  · next group groups hgroups =>
    obtain rfl := Except.ok.inj hclose
    exact .closed group groups hgroups hrest

theorem plainStep_of_eq_ok (hplain : reading.Plain) (htext : PlainRest (c :: rest))
    (hstep : reading.step c rest = .ok (next, after)) :
    reading.PlainStep (c :: rest) next after := by
  cases htext with
  | escape hc hrest => exact plainStep_backslash hc hrest hstep
  | opening hhead hrest => exact plainStep_parenthesis hplain hhead hrest hstep
  | other hc hrest =>
      by_cases hsign : c ∈ signs
      · -- Opening characters are excluded here, and no sign but `)` and `|` is more than an item.
        simp only [signs, List.mem_cons, List.not_mem_nil, or_false] at hsign
        rcases hsign with rfl | rfl | rfl | rfl | rfl | rfl | rfl | rfl
        · exact absurd (by decide) hc
        · exact plainStep_closing hrest hstep
        · obtain ⟨rfl, rfl⟩ := Prod.mk.inj (Except.ok.inj hstep)
          exact .inside _ reading.level.outer_branch hrest fun count depth =>
            scanParens_other count depth (by decide) _
        · exact absurd (by decide) hc
        · exact absurd (by decide) hc
        · exact plainStep_item rfl (by decide) hrest hstep
        · exact plainStep_item rfl (by decide) hrest hstep
        · exact plainStep_item rfl (by decide) hrest hstep
      · exact plainStep_of_not_sign hc hsign hrest hstep

end Steps

/-- Whatever is left of a plain pattern, its parentheses tell the outer captures that it adds. -/
theorem captures_of_run {node : Node} (hplain : reading.Plain) (htext : PlainRest text)
    (hrun : reading.run text = .ok node) :
    node.captures false =
      reading.outer ++ scanParens reading.captures reading.groups.length text := by
  -- Each part keeps the right side as it is, and at the end nothing is left to scan.
  fun_induction run reading text with
  | case1 reading text hspace hgroups =>
      rw [hplain.verbose, skipSpace_false] at hspace
      obtain rfl := Except.ok.inj hrun
      rw [hspace, outer, List.isEmpty_iff.mp hgroups, Level.captures_node, scanParens,
        List.append_nil]
      rfl
  | case2 => contradiction
  | case3 => contradiction
  | case4 reading text c rest hspace next after hstep ih =>
      rw [hplain.verbose, skipSpace_false] at hspace
      have hpart := plainStep_of_eq_ok hplain (hspace ▸ htext) hstep
      obtain ⟨hnext, hafter⟩ := hpart.plain hplain
      rw [ih hnext hafter hrun, hspace, hpart.outer_append hplain]

end Reading

/-- If a plain pattern can be read, its parentheses tell its outer groups. -/
theorem scanOuterGroups_of_plain {text : String} {flags : Flags} {groups : List Nat}
    (hplain : PlainText text.toList) (hread : outerGroups? text flags = some groups) :
    scanOuterGroups text = groups := by
  obtain ⟨regex, hparse, rfl⟩ := outerGroups?_eq_some_iff.mp hread
  obtain ⟨node, _, hnode, _⟩ := Regex.parse_eq_ok_iff.mp hparse
  obtain ⟨hrun, _⟩ := Node.parse_eq_ok_iff.mp hnode
  have hstart : Reading.Plain {} := ⟨rfl, List.forall_mem_nil _⟩
  rw [Regex.outerGroups_eq, Regex.captures_of_parse hnode hparse,
    Reading.captures_of_run hstart hplain.rest hrun]
  rfl

/-- A backslash, a group with a group in its second branch, and a repeated group. -/
def severalGroups : List Node :=
  [.literal ⟨'\\', false⟩,
    .group (.capture 1) (.alternation [.literal ⟨'a', false⟩,
      .concat [.repetition (.group (.capture 2) (.literal ⟨'b', false⟩)) 0 none true,
        .literal ⟨'(', false⟩]]),
    .repetition (.group (.capture 3)
      (.concat [.literal ⟨')', false⟩, .literal ⟨'c', false⟩])) 1 none true]

/-- Parentheses in branches and under repetitions, escaped ones, and backslashes before them. -/
theorem scanOuterGroups_of_plain_nested :
    PlainText "\\\\(a|(b)*\\()(\\)c)+".toList ∧
      outerGroups? "\\\\(a|(b)*\\()(\\)c)+" .extended = some [1, 3] ∧
      scanOuterGroups "\\\\(a|(b)*\\()(\\)c)+" = [1, 3] := by
  have hbranch : PlainText ['a'] := .literal (by decide)
  have hgroup : PlainText "(b)".toList := .group (.literal (by decide)) (by decide)
  have hfirst : PlainText "a|(b)*\\(".toList :=
    hbranch.branch (hgroup.star.append (.escape (by decide)))
  have hleft : PlainText "(a|(b)*\\()".toList := .group hfirst (by decide)
  have hclosing : PlainText ['\\', ')'] := .escape (by decide)
  have hsecond : PlainText "\\)c".toList := hclosing.append (.literal (by decide))
  have hright : PlainText "(\\)c)".toList := .group hsecond (by decide)
  have hbackslash : PlainText ['\\', '\\'] := .escape (by decide)
  have hplain : PlainText "\\\\(a|(b)*\\()(\\)c)+".toList :=
    hbackslash.append (hleft.append hright.plus)
  have hnode : Node.parse "\\\\(a|(b)*\\()(\\)c)+" = .ok (.concat severalGroups) := by cbv
  have hread : outerGroups? "\\\\(a|(b)*\\()(\\)c)+" .extended = some [1, 3] := by
    rw [outerGroups?, Regex.parse, hnode]
    rfl
  exact ⟨hplain, hread, scanOuterGroups_of_plain hplain hread⟩

end BytePattern
