/-
Bracket expressions: characters, ranges, classes, nested brackets, and the operations between sets.
-/
import BytePattern.Dialect.Escape

namespace BytePattern

/-- An open bracket: the set before the latest operation, and the items after it, last first. -/
structure BracketLevel where
  negated : Bool
  pending : Option (SetOperation × SetNode) := none
  items : List SetNode
deriving Repr, Inhabited

namespace BracketLevel

/-- The set written so far. -/
def node (level : BracketLevel) : SetNode :=
  let right := SetNode.ofItems level.items.reverse
  match level.pending with
  | none => right
  | some (operation, left) => .combine operation left right

/-- Adds an item. -/
def push (level : BracketLevel) (item : SetNode) : BracketLevel :=
  { level with items := item :: level.items }

/-- Takes all that is written so far as the left side of an operation. -/
def operate (level : BracketLevel) (operation : SetOperation) : BracketLevel :=
  { level with pending := some (operation, level.node), items := [] }

end BracketLevel

/-- Reads what a bracket may start with: a negation, hyphens, and a closing bracket that stands for
itself. -/
def readBracketStart (verbose : Bool) (text : List Char) :
    Except SyntaxFault (BracketLevel × List Char) :=
  let text := skipSpace verbose text
  let negated := text.head? == some '^'
  let text := if negated then skipSpace verbose text.tail else text
  let (hyphens, text) := takeSpaced verbose (· == '-') text
  let items := hyphens.map fun c => SetNode.literal ⟨c, false⟩
  match text with
  | [] => .error .classUnclosed
  | c :: rest =>
    if hyphens.isEmpty ∧ c = ']' then
      match skipSpace verbose rest with
      | [] => .error .classUnclosed
      | text => .ok (⟨negated, none, [.literal ⟨']', false⟩]⟩, text)
    else .ok (⟨negated, none, items⟩, c :: rest)

/-- Reads the inside of a named class after its opening bracket.  What is no named class is left to
be read as a bracket. -/
def readNamedClass? (text : List Char) : Option ((NamedClass × Bool) × List Char) :=
  match text with
  | ':' :: rest =>
    let negated := rest.head? == some '^'
    let rest := if negated then rest.tail else rest
    let name := rest.takeWhile (· != ':')
    match rest.drop name.length with
    | ':' :: ']' :: after => (NamedClass.ofName? (String.ofList name)).map fun kind =>
        ((kind, negated), after)
    | _ => none
  | _ => none

/-- Reads a character or an escape. -/
def readSetPrimitive (verbose : Bool) (c : Char) (rest : List Char) :
    Except SyntaxFault (Primitive × List Char) :=
  if c = '\\' then readEscape verbose rest else .ok (.literal ⟨c, false⟩, rest)

/-- A set item that stands alone; conditions have no place in a set. -/
def Primitive.toSetNode : Primitive → Except SyntaxFault SetNode
  | literal l => .ok (.literal l)
  | letterClass kind negated => .ok (.letterClass kind negated)
  | property name negated => .ok (.property name negated)
  | assertion _ => .error .classItemInvalid

/-- Reads the second end of a range. -/
def readRangeEnd (verbose : Bool) (first : Primitive) (text : List Char) :
    Except SyntaxFault (SetNode × List Char) :=
  match skipSpace verbose text with
  | [] => .error .classUnclosed
  | c :: rest =>
    match readSetPrimitive verbose c rest with
    | .error fault => .error fault
    | .ok (last, after) =>
      match first, last with
      | .literal lo, .literal hi =>
        if lo.char.toNat ≤ hi.char.toNat then .ok (.range lo hi, after)
        else .error .classRangeReversed
      | _, _ => .error .classItemInvalid

/-- Reads an item or a range.  A hyphen before a closing bracket or a hyphen makes no range. -/
def readSetItem (verbose : Bool) (c : Char) (rest : List Char) :
    Except SyntaxFault (SetNode × List Char) :=
  match readSetPrimitive verbose c rest with
  | .error fault => .error fault
  | .ok (first, after) =>
    let alone :=
      match first.toSetNode with
      | .ok item => .ok (item, skipSpace verbose after)
      | .error fault => .error fault
    match skipSpace verbose after with
    | [] => .error .classUnclosed
    | '-' :: more =>
      let next := peekSpace verbose more
      if next = some ']' ∨ next = some '-' then alone else readRangeEnd verbose first more
    | _ => alone

/-- The bracket being read and the brackets around it, innermost first. -/
structure BracketReading where
  level : BracketLevel
  around : List BracketLevel := []
deriving Repr, Inhabited

/-- Reading a bracket either goes on or ends with its closing bracket. -/
inductive BracketProgress where
  | more (reading : BracketReading)
  | closed (negated : Bool) (inside : SetNode)

namespace BracketReading

/-- Adds an item to the innermost bracket. -/
def push (reading : BracketReading) (item : SetNode) : BracketReading :=
  { reading with level := reading.level.push item }

/-- Closes the innermost bracket. -/
def close (reading : BracketReading) : BracketProgress :=
  match reading.around with
  | [] => .closed reading.level.negated reading.level.node
  | level :: around =>
    .more ⟨level.push (.bracket reading.level.negated reading.level.node), around⟩

/-- Reads the next part of a bracket expression, which starts with `c`. -/
def step (reading : BracketReading) (verbose : Bool) (c : Char) (rest : List Char) :
    Except SyntaxFault (BracketProgress × List Char) :=
  match c, rest with
  | '&', '&' :: after =>
    .ok (.more { reading with level := reading.level.operate .intersection }, after)
  | '-', '-' :: after =>
    .ok (.more { reading with level := reading.level.operate .difference }, after)
  | '~', '~' :: after =>
    .ok (.more { reading with level := reading.level.operate .symmetricDifference }, after)
  | ']', _ => .ok (reading.close, rest)
  | '[', _ =>
    match readNamedClass? rest with
    | some ((kind, negated), after) => .ok (.more (reading.push (.namedClass kind negated)), after)
    | none =>
      match readBracketStart verbose rest with
      | .error fault => .error fault
      | .ok (level, after) => .ok (.more ⟨level, reading.level :: reading.around⟩, after)
  | _, _ =>
    match readSetItem verbose c rest with
    | .error fault => .error fault
    | .ok (item, after) => .ok (.more (reading.push item), after)

end BracketReading

theorem length_readBracketStart_le {verbose : Bool} {text after : List Char} {level : BracketLevel}
    (h : readBracketStart verbose text = .ok (level, after)) : after.length ≤ text.length := by
  have hs : ∀ negated : Bool,
      (if negated then skipSpace verbose (skipSpace verbose text).tail
        else skipSpace verbose text).length ≤ text.length := by
    intro negated
    have h1 := length_skipSpace_le verbose text
    have h2 := length_skipSpace_le verbose (skipSpace verbose text).tail
    have h3 : (skipSpace verbose text).tail.length = (skipSpace verbose text).length - 1 :=
      List.length_tail
    split <;> omega
  simp only [readBracketStart] at h
  have h1 := hs ((skipSpace verbose text).head? == some '^')
  generalize (if ((skipSpace verbose text).head? == some '^') = true then
    skipSpace verbose (skipSpace verbose text).tail else skipSpace verbose text) = start at h h1
  have h2 := length_takeSpaced_le verbose (· == '-') start
  split at h
  · simp at h
  · next c rest heq =>
    have h3 := length_skipSpace_le verbose rest
    rw [heq] at h2
    simp only [List.length_cons] at h2
    split at h
    · split at h
      · simp at h
      · simp only [Except.ok.injEq, Prod.mk.injEq] at h
        rw [← h.2]
        omega
    · simp only [Except.ok.injEq, Prod.mk.injEq] at h
      rw [← h.2]
      simp only [List.length_cons]
      omega

theorem length_readNamedClass?_le {text after : List Char} {kind : NamedClass × Bool}
    (h : readNamedClass? text = some (kind, after)) : after.length ≤ text.length := by
  unfold readNamedClass? at h
  split at h
  · next rest =>
    have h1 : ∀ negated : Bool, (if negated then rest.tail else rest).length ≤ rest.length := by
      intro negated
      have : rest.tail.length = rest.length - 1 := List.length_tail
      split <;> omega
    have h2 := h1 (rest.head? == some '^')
    simp only at h
    generalize (if (rest.head? == some '^') = true then rest.tail else rest) = start at h h2
    split at h
    · next after' heq =>
      have h3 : (start.drop (start.takeWhile (· != ':')).length).length ≤ start.length := by
        simp [List.length_drop]
      rw [heq] at h3
      simp only [List.length_cons] at h3
      obtain ⟨k, -, hk⟩ := Option.map_eq_some_iff.1 h
      simp only [Prod.mk.injEq] at hk
      rw [← hk.2]
      simp only [List.length_cons]
      omega
    · simp at h
  · simp at h

theorem length_readSetPrimitive_le {verbose : Bool} {c : Char} {rest after : List Char}
    {primitive : Primitive} (h : readSetPrimitive verbose c rest = .ok (primitive, after)) :
    after.length ≤ rest.length := by
  unfold readSetPrimitive at h
  split at h
  · exact length_readEscape_le h
  · simp_all

theorem length_readRangeEnd_le {verbose : Bool} {first : Primitive} {text after : List Char}
    {item : SetNode} (h : readRangeEnd verbose first text = .ok (item, after)) :
    after.length ≤ text.length := by
  have h1 := length_skipSpace_le verbose text
  unfold readRangeEnd at h
  split at h
  · simp at h
  · next heq =>
    split at h
    · simp at h
    · next heq' =>
      have h2 := length_readSetPrimitive_le heq'
      split at h
      · split at h
        · simp_all
          omega
        · simp at h
      · simp at h

theorem length_readSetItem_le {verbose : Bool} {c : Char} {rest after : List Char}
    {item : SetNode} (h : readSetItem verbose c rest = .ok (item, after)) :
    after.length ≤ rest.length := by
  unfold readSetItem at h
  split at h
  · simp at h
  · next first mid heq =>
    have h1 := length_readSetPrimitive_le heq
    have h2 := length_skipSpace_le verbose mid
    have alone : ∀ {result : Except SyntaxFault (SetNode × List Char)},
        result = (match first.toSetNode with
          | .ok item => .ok (item, skipSpace verbose mid)
          | .error fault => .error fault) → result = .ok (item, after) →
        after.length ≤ rest.length := by
      intro result h3 h4
      rw [h4] at h3
      split at h3
      · simp only [Except.ok.injEq, Prod.mk.injEq] at h3
        rw [h3.2]
        omega
      · simp at h3
    simp only at h
    split at h
    · simp at h
    · next more heq' =>
      rw [heq'] at h2
      simp only [List.length_cons] at h2
      split at h
      · exact alone rfl h
      · have h3 := length_readRangeEnd_le h
        omega
    · exact alone rfl h

theorem BracketReading.length_step_le {reading : BracketReading} {verbose : Bool} {c : Char}
    {rest after : List Char} {progress : BracketProgress}
    (h : reading.step verbose c rest = .ok (progress, after)) : after.length ≤ rest.length := by
  unfold BracketReading.step at h
  split at h
  · simp_all
  · simp_all
  · simp_all
  · simp_all
  · split at h
    · next heq =>
      have := length_readNamedClass?_le heq
      simp_all
    · split at h
      · simp at h
      · next heq =>
        have := length_readBracketStart_le heq
        simp_all
  · split at h
    · simp at h
    · next heq =>
      have := length_readSetItem_le heq
      simp_all

/-- Reads the rest of a bracket expression, up to its closing bracket. -/
def BracketReading.run (reading : BracketReading) (verbose : Bool) (text : List Char) :
    Except SyntaxFault ((Bool × SetNode) × List Char) :=
  match _hs : skipSpace verbose text with
  | [] => .error .classUnclosed
  | c :: rest =>
    match _h : reading.step verbose c rest with
    | .error fault => .error fault
    | .ok (.closed negated inside, after) => .ok ((negated, inside), after)
    | .ok (.more next, after) => next.run verbose after
termination_by text.length
decreasing_by
  have h1 := length_skipSpace_le verbose text
  have h2 := BracketReading.length_step_le _h
  rw [_hs] at h1
  simp only [List.length_cons] at h1
  omega

theorem BracketReading.length_run_lt {reading : BracketReading} {verbose : Bool}
    {text after : List Char} {result : Bool × SetNode}
    (h : reading.run verbose text = .ok (result, after)) : after.length < text.length := by
  fun_induction BracketReading.run reading verbose text with
  | case1 => simp at h
  | case2 => simp at h
  | case3 reading text c rest hs negated inside after' hstep =>
    have h1 := length_skipSpace_le verbose text
    have h2 := BracketReading.length_step_le hstep
    rw [hs] at h1
    simp only [List.length_cons] at h1
    simp only [Except.ok.injEq, Prod.mk.injEq] at h
    rw [← h.2]
    omega
  | case4 reading text c rest hs next after' hstep ih =>
    have h1 := length_skipSpace_le verbose text
    have h2 := BracketReading.length_step_le hstep
    have h3 := ih h
    rw [hs] at h1
    simp only [List.length_cons] at h1
    omega

/-- Reads a bracket expression after its opening bracket. -/
def readBracket (verbose : Bool) (text : List Char) :
    Except SyntaxFault ((Bool × SetNode) × List Char) :=
  match readBracketStart verbose text with
  | .error fault => .error fault
  | .ok (level, rest) => BracketReading.run ⟨level, []⟩ verbose rest

theorem length_readBracket_lt {verbose : Bool} {text after : List Char} {result : Bool × SetNode}
    (h : readBracket verbose text = .ok (result, after)) : after.length < text.length := by
  unfold readBracket at h
  split at h
  · simp at h
  · next heq =>
    have h1 := length_readBracketStart_le heq
    have h2 := BracketReading.length_run_lt h
    omega

end BytePattern
