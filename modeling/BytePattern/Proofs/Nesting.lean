/-
Groups are entered and left in the code of an expression like brackets: every way through it leaves
the group that it entered last, and no jump goes into a group or out of one.
-/
import BytePattern.Regex.Code

namespace BytePattern

/-- The groups that are open after an instruction, the one entered last first. -/
def Inst.nest (opened : List Nat) : Inst → List Nat
  | .enter group => group :: opened
  | .leave _ => opened.tail
  | _ => opened

@[simp] theorem Inst.nest_jump (opened : List Nat) (distance : Int) :
    (Inst.jump distance).nest opened = opened :=
  rfl

@[simp] theorem Inst.nest_fork (opened : List Nat) (first second : Int) :
    (Inst.fork first second).nest opened = opened :=
  rfl

/-- A jump stays in the code, and in the groups it starts from. -/
def Inst.Lands (openAt : Nat → List Nat) (length place : Nat) (distance : Int) : Prop :=
  ∃ target ≤ length, (place : Int) + distance = target ∧ openAt target = openAt place

/-- An instruction keeps to the order of the groups, given which are open at each place of the code
it stands in. -/
def Inst.Nests (openAt : Nat → List Nat) (length place : Nat) : Inst → Prop
  | .leave group => (openAt place).head? = some group
  | .fork first second => Lands openAt length place first ∧ Lands openAt length place second
  | .jump distance => Lands openAt length place distance
  | .accept => openAt place = []
  | _ => True

namespace Code

/-- The groups that are open before a place of the code, where some are open at its start. -/
def openAt (code : Code) (opened : List Nat) (place : Nat) : List Nat :=
  (code.take place).foldl Inst.nest opened

/-- The instruction at a place, if there is one, keeps to the order of the groups. -/
def NestsAt (code : Code) (opened : List Nat) (place : Nat) : Prop :=
  ∀ inst, code[place]? = some inst → inst.Nests (code.openAt opened) code.length place

/-- Code that closes all the groups it opens, and no others. -/
structure Nested (code : Code) : Prop where
  closes : ∀ opened, code.foldl Inst.nest opened = opened
  nestsAt : ∀ opened place, code.NestsAt opened place

section OpenAt

@[simp] theorem openAt_zero (code : Code) (opened : List Nat) : code.openAt opened 0 = opened :=
  rfl

/-- Code in other code is entered with the groups open that are open there. -/
theorem openAt_between (before after : Code) (opened : List Nat) {inner : Code} {place : Nat}
    (hplace : place ≤ inner.length) :
    openAt (before ++ (inner ++ after)) opened (before.length + place) =
      openAt inner (before.foldl Inst.nest opened) place := by
  rw [openAt, List.take_length_add_append, List.foldl_append, List.take_append_of_le_length hplace]
  rfl

theorem openAt_length (code : Code) (opened : List Nat) :
    code.openAt opened code.length = code.foldl Inst.nest opened := by
  rw [openAt, List.take_length]

theorem Nested.openAt_length {code : Code} (hcode : code.Nested) (opened : List Nat) :
    code.openAt opened code.length = opened := by
  rw [Code.openAt_length, hcode.closes]

/-- One place further on. -/
theorem openAt_succ {code : Code} {place : Nat} {inst : Inst} (hinst : code[place]? = some inst)
    (opened : List Nat) :
    code.openAt opened (place + 1) = inst.nest (code.openAt opened place) := by
  have htake : code.take (place + 1) = code.take place ++ [inst] := by
    rw [List.take_add_one, hinst, Option.toList_some]
  rw [openAt, htake, List.foldl_append]
  rfl

end OpenAt

section Embedding

variable (before after : Code) {inner : Code} {opened : List Nat} {place : Nat}

theorem lands_between {distance : Int} (hplace : place ≤ inner.length)
    (hlands : Inst.Lands (openAt inner (before.foldl Inst.nest opened)) inner.length place
      distance) :
    Inst.Lands (openAt (before ++ (inner ++ after)) opened)
      (before ++ (inner ++ after)).length (before.length + place) distance := by
  obtain ⟨target, htarget, hdistance, hopen⟩ := hlands
  refine ⟨before.length + target, ?_, ?_, ?_⟩
  · simp only [List.length_append]
    omega
  · omega
  · rw [openAt_between before after opened htarget, openAt_between before after opened hplace,
      hopen]

/-- Instructions keep to the order of the groups wherever their code is put. -/
theorem nestsAt_between (hinner : NestsAt inner (before.foldl Inst.nest opened) place)
    (hplace : place < inner.length) :
    NestsAt (before ++ (inner ++ after)) opened (before.length + place) := by
  intro inst hinst
  have hopen : openAt (before ++ (inner ++ after)) opened (before.length + place) =
      openAt inner (before.foldl Inst.nest opened) place :=
    openAt_between before after opened (Nat.le_of_lt hplace)
  have hget : inner[place]? = some inst := by
    rwa [List.getElem?_append_right (Nat.le_add_right _ _), Nat.add_sub_cancel_left,
      List.getElem?_append_left hplace] at hinst
  have hnests := hinner inst hget
  have hle := Nat.le_of_lt hplace
  cases inst with
  | byte | charClass | look | enter => trivial
  | leave group => exact (congrArg List.head? hopen).trans hnests
  | fork first second => exact
      ⟨lands_between before after hle hnests.1, lands_between before after hle hnests.2⟩
  | jump distance => exact lands_between before after hle hnests
  | accept => exact hopen.trans hnests

/-- An instruction at a seam between pieces of code. -/
theorem nestsAt_seam {inst : Inst}
    (hnests : inst.Nests (openAt (before ++ inst :: after) opened)
      (before ++ inst :: after).length before.length) :
    NestsAt (before ++ inst :: after) opened before.length := by
  intro other hother
  rw [List.getElem?_append_right (Nat.le_refl _), Nat.sub_self] at hother
  obtain rfl := Option.some.inj hother
  exact hnests

end Embedding

section Pieces

variable {first second inner rest : Code} {opened : List Nat}

theorem nestsAt_append {place : Nat}
    (hfirst : ∀ place < first.length, NestsAt (first ++ second) opened place)
    (hsecond : ∀ place < second.length, NestsAt (first ++ second) opened (first.length + place)) :
    NestsAt (first ++ second) opened place := by
  by_cases hplace : place < first.length
  · exact hfirst place hplace
  · by_cases hend : place < first.length + second.length
    · have hplaces : first.length + (place - first.length) = place := by omega
      rw [← hplaces]
      exact hsecond (place - first.length) (by omega)
    · intro inst hinst
      have hlength := (List.getElem?_eq_some_iff.mp hinst).1
      rw [List.length_append] at hlength
      omega

theorem nested_nil : Nested [] where
  closes _ := rfl
  nestsAt _ _ _ hinst := by contradiction

theorem Nested.append (hfirst : first.Nested) (hsecond : second.Nested) :
    (first ++ second).Nested := by
  constructor
  · intro opened
    rw [List.foldl_append, hfirst.closes, hsecond.closes]
  · intro opened place
    refine nestsAt_append ?_ ?_
    · intro place hplace
      have h := nestsAt_between [] second (hfirst.nestsAt opened place) hplace
      simpa using h
    · intro place hplace
      have h := nestsAt_between first [] (hsecond.nestsAt (first.foldl Inst.nest opened) place)
        hplace
      simpa using h

/-- An instruction that opens and closes nothing, between pieces of code. -/
theorem nested_seam {inst : Inst} (hfirst : first.Nested) (hsecond : second.Nested)
    (hnest : ∀ opened, inst.nest opened = opened)
    (hnests : ∀ opened, inst.Nests (openAt (first ++ inst :: second) opened)
      (first ++ inst :: second).length first.length) :
    Nested (first ++ inst :: second) := by
  constructor
  · intro opened
    rw [List.foldl_append, hfirst.closes, List.foldl_cons, hnest, hsecond.closes]
  · intro opened place
    refine nestsAt_append ?_ ?_
    · intro place hplace
      have h := nestsAt_between [] (inst :: second) (hfirst.nestsAt opened place) hplace
      simpa using h
    · intro place hplace
      cases place with
      | zero => exact nestsAt_seam first second (hnests opened)
      | succ place =>
          have hnests := hsecond.nestsAt ((first ++ [inst]).foldl Inst.nest opened) place
          have h := nestsAt_between (first ++ [inst]) [] hnests (Nat.lt_of_succ_lt_succ hplace)
          simpa [Nat.add_assoc, Nat.add_comm 1] using h

/-- Two instructions around a piece of code, the second closing what the first opens. -/
theorem nested_around {lead trail : Inst} (hinner : inner.Nested) (hrest : rest.Nested)
    (hcloses : ∀ opened, trail.nest (lead.nest opened) = opened)
    (hlead : ∀ opened, lead.Nests (openAt (lead :: (inner ++ trail :: rest)) opened)
      (lead :: (inner ++ trail :: rest)).length 0)
    (htrail : ∀ opened, trail.Nests (openAt (lead :: (inner ++ trail :: rest)) opened)
      (lead :: (inner ++ trail :: rest)).length (inner.length + 1)) :
    Nested (lead :: (inner ++ trail :: rest)) := by
  constructor
  · intro opened
    rw [List.foldl_cons, List.foldl_append, hinner.closes, List.foldl_cons, hcloses, hrest.closes]
  · intro opened place
    have hwhole : lead :: (inner ++ trail :: rest) = (lead :: inner) ++ trail :: rest := rfl
    rw [hwhole] at hlead htrail ⊢
    refine nestsAt_append ?_ ?_
    · intro place hplace
      cases place with
      | zero => exact nestsAt_seam [] (inner ++ trail :: rest) (hlead opened)
      | succ place =>
          have hnests := hinner.nestsAt (lead.nest opened) place
          have h := nestsAt_between [lead] (trail :: rest) hnests (Nat.lt_of_succ_lt_succ hplace)
          simpa [Nat.add_comm 1] using h
    · intro place hplace
      cases place with
      | zero => exact nestsAt_seam (lead :: inner) rest (htrail opened)
      | succ place =>
          have hnests := hrest.nestsAt ((lead :: inner ++ [trail]).foldl Inst.nest opened) place
          have h := nestsAt_between (lead :: inner ++ [trail]) [] hnests
            (Nat.lt_of_succ_lt_succ hplace)
          simpa [Nat.add_assoc, Nat.add_comm 2, Nat.add_comm 1] using h

end Pieces

section Instructions

variable {code first second : Code}

theorem nested_byte (byte : UInt8) : Nested [.byte byte] :=
  nested_seam nested_nil nested_nil (fun _ => rfl) fun _ => trivial

theorem nested_charClass (charClass : CharClass) : Nested [.charClass charClass] :=
  nested_seam nested_nil nested_nil (fun _ => rfl) fun _ => trivial

theorem nested_look (look : Look) : Nested [.look look] :=
  nested_seam nested_nil nested_nil (fun _ => rfl) fun _ => trivial

/-- A jump from one seam to another at which the same groups are open. -/
theorem lands_seam (before after : Code) {whole rest rest' : Code} {opened : List Nat}
    {distance : Int}
    (hfrom : whole = before ++ rest) (hto : whole = after ++ rest')
    (hdistance : (before.length : Int) + distance = after.length)
    (hopen : before.foldl Inst.nest opened = after.foldl Inst.nest opened) :
    Inst.Lands (openAt whole opened) whole.length before.length distance := by
  have hopenAt {first second : Code} (hwhole : whole = first ++ second) :
      openAt whole opened first.length = first.foldl Inst.nest opened := by
    rw [openAt, hwhole, List.take_left]
  refine ⟨after.length, ?_, hdistance, ?_⟩
  · rw [hto, List.length_append]
    exact Nat.le_add_right _ _
  · rw [hopenAt hfrom, hopenAt hto, hopen]

/-- A jump to the end, where the same groups are open. -/
theorem lands_end (before : Code) {whole rest : Code} {opened : List Nat} {distance : Int}
    (hfrom : whole = before ++ rest) (hdistance : (before.length : Int) + distance = whole.length)
    (hopen : before.foldl Inst.nest opened = whole.foldl Inst.nest opened) :
    Inst.Lands (openAt whole opened) whole.length before.length distance :=
  lands_seam before whole hfrom (List.append_nil whole).symm hdistance hopen

@[simp] theorem choice_nest (greedy : Bool) (onward elsewhere : Int) (opened : List Nat) :
    (choice greedy onward elsewhere).nest opened = opened := by
  cases greedy <;> rfl

theorem choice_nests {openAt : Nat → List Nat} {length place : Nat} {onward elsewhere : Int}
    (greedy : Bool) (honward : Inst.Lands openAt length place onward)
    (helsewhere : Inst.Lands openAt length place elsewhere) :
    (choice greedy onward elsewhere).Nests openAt length place := by
  cases greedy with
  | true => exact ⟨honward, helsewhere⟩
  | false => exact ⟨helsewhere, honward⟩

theorem nested_optional (greedy : Bool) (hcode : code.Nested) : (optional greedy code).Nested := by
  refine nested_seam nested_nil hcode (choice_nest greedy _ _) ?_
  intro opened
  apply choice_nests
  · exact lands_seam [] [_] rfl rfl rfl (by simp)
  · exact lands_end [] rfl (by simp) (by simp [hcode.closes])

theorem nested_plus (greedy : Bool) (hcode : code.Nested) : (plus greedy code).Nested := by
  refine nested_seam hcode nested_nil (choice_nest greedy _ _) ?_
  intro opened
  apply choice_nests
  · exact lands_seam code [] rfl rfl (Int.add_right_neg _) (hcode.closes opened)
  · exact lands_end code rfl (by simp) (by simp)

theorem nested_star (greedy takesSomething : Bool) (hcode : code.Nested) :
    (star greedy takesSomething code).Nested := by
  cases takesSomething with
  | false => exact nested_optional greedy (nested_plus greedy hcode)
  | true =>
      refine nested_around hcode nested_nil (choice_nest greedy _ _) ?_ ?_
      · intro opened
        apply choice_nests
        · exact lands_seam [] [_] rfl rfl rfl (by simp)
        · refine lands_end [] rfl ?_ (by simp [hcode.closes])
          simp only [List.length_append, List.length_cons, List.length_nil]
          omega
      · intro opened
        refine lands_seam (_ :: code) [] rfl rfl ?_ (by simp [hcode.closes])
        simp only [List.length_cons, List.length_nil]
        omega

theorem nested_upTo (greedy : Bool) (hcode : code.Nested) (n : Nat) :
    (upTo greedy code n).Nested := by
  induction n with
  | zero => exact nested_nil
  | succ n ih => exact nested_optional greedy (hcode.append ih)

theorem nested_copies (hcode : code.Nested) (n : Nat) : (copies n code).Nested := by
  induction n with
  | zero => exact nested_nil
  | succ n ih =>
      rw [copies, List.replicate_succ, List.flatten_cons]
      exact hcode.append ih

theorem nested_times (greedy takesSomething : Bool) (least : Nat) (most : Option Nat)
    (hcode : code.Nested) : (times greedy takesSomething least most code).Nested := by
  cases most with
  | some most => exact (nested_copies hcode least).append (nested_upTo greedy hcode _)
  | none =>
      cases least with
      | zero => exact nested_star greedy takesSomething hcode
      | succ n => exact (nested_copies hcode n).append (nested_plus greedy hcode)

theorem nested_either (hfirst : first.Nested) (hsecond : second.Nested) :
    (either first second).Nested := by
  refine nested_around hfirst hsecond (fun _ => rfl) ?_ ?_
  · intro opened
    constructor
    · exact lands_seam [] [_] rfl rfl rfl rfl
    · have hto : either first second =
          (.fork 1 (first.length + 2) :: (first ++ [.jump (second.length + 1)])) ++ second :=
        congrArg (List.cons _) (List.append_cons first _ second)
      refine lands_seam [] _ rfl hto ?_ (by simp [hfirst.closes])
      simp only [List.length_append, List.length_cons, List.length_nil]
      omega
  · intro opened
    refine lands_end (_ :: first) rfl ?_ (by simp [hfirst.closes, hsecond.closes])
    simp only [List.length_append, List.length_cons]
    omega

theorem nested_capture (group : Nat) (hcode : code.Nested) :
    Nested (.enter group :: (code ++ [.leave group])) := by
  refine nested_around hcode nested_nil (fun _ => rfl) (fun _ => trivial) ?_
  intro opened
  have hopen : openAt (.enter group :: (code ++ [.leave group])) opened (code.length + 1) =
      group :: opened := by
    have h := openAt_between [.enter group] [.leave group] opened (Nat.le_refl code.length)
    rw [hcode.openAt_length] at h
    rw [Nat.add_comm]
    exact h
  rw [Inst.Nests, hopen]
  rfl

theorem nested_bytes (bytes : List UInt8) : Nested (bytes.map .byte) := by
  induction bytes with
  | nil => exact nested_nil
  | cons byte bytes ih => exact (nested_byte byte).append ih

end Instructions

mutual

/-- The code of an expression closes the groups that it opens. -/
theorem nested_ofRegex : ∀ regex, (ofRegex regex).Nested
  | .empty => nested_nil
  | .literal bytes => nested_bytes bytes
  | .ofClass charClass => nested_charClass charClass
  | .look look => nested_look look
  | .times inside least most greedy => nested_times greedy _ least most (nested_ofRegex inside)
  | .capture group inside => nested_capture group (nested_ofRegex inside)
  | .concat items => nested_ofRow items
  | .alternation branches => nested_ofBranches branches

theorem nested_ofRow : ∀ items, (ofRow items).Nested
  | [] => nested_nil
  | item :: items => (nested_ofRegex item).append (nested_ofRow items)

theorem nested_ofBranches : ∀ branches, (ofBranches branches).Nested
  | [] => nested_charClass _
  | branch :: branches => by
    rw [ofBranches]
    split
    · exact nested_ofRegex branch
    · exact nested_either (nested_ofRegex branch) (nested_ofBranches branches)

end

/-- Every way through the code of a search leaves the groups in the order opposite to that in which
it enters them, and none is open where it ends. -/
theorem nestsAt_whole (regex : Regex) (place : Nat) : (whole regex).NestsAt [] place := by
  have hregex := nested_ofRegex regex
  refine nestsAt_append ?_ ?_
  · intro place hplace
    have h := nestsAt_between [] [.accept] (hregex.nestsAt [] place) hplace
    simpa using h
  · intro place hplace
    obtain rfl : place = 0 := by simpa using hplace
    apply nestsAt_seam (ofRegex regex) []
    have hopen := openAt_between [] [.accept] [] (Nat.le_refl (ofRegex regex).length)
    rw [List.foldl_nil, hregex.openAt_length] at hopen
    rwa [List.nil_append, List.length_nil, Nat.zero_add] at hopen

end Code

end BytePattern
