/-
The default engine compiles the text of a shorthand's rule to the program that finds the live
occurrences of the shorthand.
-/
import BytePattern.Proofs.Exploring
import BytePattern.Proofs.LiveRun
import BytePattern.Proofs.OuterGroups
import BytePattern.Proofs.Refusal
import BytePattern.Session
import Mathlib.Data.List.Induction
import Mathlib.Tactic.FinCases

namespace BytePattern

namespace Shorthand

/-- The expression of a rule: group 1 is what stands before the shorthand and pairs of
backslashes. -/
def regex (letter : UInt8) : Regex :=
  .concat [.capture 1 (.concat [.alternation [.look .textStart,
      .ofClass (.bytes ⟨[(0, 91), (93, 255)]⟩)], .times (.literal [92, 92]) 0 none true]),
    .literal [92, letter]]

section Parse

/-- The text of a rule, taken apart. -/
def node (letter : Char) : Node :=
  .concat [.group (.capture 1) (.concat [
      .group (.plain []) (.alternation [.assertion .startLine,
        .bracket true (.literal ⟨'\\', false⟩)]),
      .repetition (.group (.plain []) (.concat [.literal ⟨'\\', false⟩, .literal ⟨'\\', false⟩]))
        0 none true]),
    .literal ⟨'\\', false⟩, .literal ⟨letter, false⟩]

/-- The reading of the capture. -/
def inCapture : Reading :=
  Reading.enter { captures := 1 } (.capture 1) false

/-- The reading of what may precede a shorthand. -/
def inFront : Reading :=
  inCapture.enter (.plain []) false

/-- The reading of its second branch. -/
def inBranch : Reading :=
  { inFront with level := { branches := [.assertion .startLine] } }

/-- The reading behind what may precede a shorthand. -/
def behindFront : Reading :=
  inCapture.push (.group (.plain []) (.alternation
    [.assertion .startLine, .bracket true (.literal ⟨'\\', false⟩)]))

/-- Where a group opens, and at the bracket, the reading is followed step by step. -/
theorem run_front (rest : List Char) :
    Reading.run {} ("((?:^|[^\\\\])".toList ++ rest) = behindFront.run rest := by
  have hcapture : Reading.step {} '(' ("(?:^|[^\\\\])".toList ++ rest) =
      .ok (inCapture, "(?:^|[^\\\\])".toList ++ rest) := rfl
  have hfront : inCapture.step '(' ("?:^|[^\\\\])".toList ++ rest) =
      .ok (inFront, "^|[^\\\\])".toList ++ rest) := rfl
  have hstart : inFront.step '^' ("|[^\\\\])".toList ++ rest) =
      .ok (inFront.push (.assertion .startLine), "|[^\\\\])".toList ++ rest) := rfl
  have hbranch : (inFront.push (.assertion .startLine)).step '|' ("[^\\\\])".toList ++ rest) =
      .ok (inBranch, "[^\\\\])".toList ++ rest) := rfl
  have hopen : readBracketStart false ("^\\\\])".toList ++ rest) =
      .ok (⟨true, none, []⟩, "\\\\])".toList ++ rest) := by
    simp [readBracketStart, takeSpaced, skipSpace_false]
  have hinside : BracketReading.run ⟨⟨true, none, []⟩, []⟩ false ("\\\\])".toList ++ rest) =
      .ok ((true, .literal ⟨'\\', false⟩), ")".toList ++ rest) := by
    cbv
  have hread : readBracket inBranch.verbose ("^\\\\])".toList ++ rest) =
      .ok ((true, .literal ⟨'\\', false⟩), ")".toList ++ rest) := by
    rw [readBracket, show inBranch.verbose = false from rfl, hopen]
    exact hinside
  have hbracket : inBranch.step '[' ("^\\\\])".toList ++ rest) =
      .ok (inBranch.push (.bracket true (.literal ⟨'\\', false⟩)), ")".toList ++ rest) := by
    rw [Reading.step_bracket, hread]
    rfl
  have hclose : (inBranch.push (.bracket true (.literal ⟨'\\', false⟩))).step ')' rest =
      .ok (behindFront, rest) := rfl
  calc Reading.run {} ("((?:^|[^\\\\])".toList ++ rest)
    _ = inCapture.run ("(?:^|[^\\\\])".toList ++ rest) := Reading.run_of_step rfl hcapture
    _ = inFront.run ("^|[^\\\\])".toList ++ rest) := Reading.run_of_step rfl hfront
    _ = (inFront.push (.assertion .startLine)).run ("|[^\\\\])".toList ++ rest) :=
      Reading.run_of_step rfl hstart
    _ = inBranch.run ("[^\\\\])".toList ++ rest) := Reading.run_of_step rfl hbranch
    _ = (inBranch.push (.bracket true (.literal ⟨'\\', false⟩))).run (")".toList ++ rest) :=
      Reading.run_of_step rfl hbracket
    _ = behindFront.run rest := Reading.run_of_step rfl hclose

theorem toList_ruleText (shorthand : Shorthand) :
    shorthand.ruleText.toList =
      "((?:^|[^\\\\])".toList ++ ("(?:\\\\\\\\)*)\\\\".toList ++ [shorthand.letter]) := by
  change ("((?:^|[^\\\\])(?:\\\\\\\\)*)\\\\" ++ shorthand.letter.toString).toList = _
  rw [String.toList_append, Char.toString, String.toList_singleton]
  rfl

theorem run_ruleText : ∀ shorthand ∈ all,
    Reading.run {} shorthand.ruleText.toList = .ok (node shorthand.letter) := by
  intro shorthand hmem
  have hpairs : behindFront.step '(' ("?:\\\\\\\\)*)\\\\".toList ++ [shorthand.letter]) =
      .ok (behindFront.enter (.plain []) false, "\\\\\\\\)*)\\\\".toList ++ [shorthand.letter]) :=
    rfl
  have hend : (behindFront.enter (.plain []) false).run
      ("\\\\\\\\)*)\\\\".toList ++ [shorthand.letter]) = .ok (node shorthand.letter) := by
    fin_cases hmem <;> cbv
  rw [toList_ruleText, run_front, ← hend]
  exact Reading.run_of_step rfl hpairs

theorem parse_ruleText : ∀ shorthand ∈ all,
    Regex.parse shorthand.ruleText (.ofFlags shorthand.pattern.flags false) =
      .ok (regex (ascii shorthand.letter)) := by
  intro shorthand hmem
  have hdepth : (node shorthand.letter).depth ≤ Node.depthLimit := by
    change 6 ≤ Node.depthLimit
    decide
  have hnode : Node.parse shorthand.ruleText = .ok (node shorthand.letter) := by
    rw [Node.parse, run_ruleText shorthand hmem]
    exact if_pos hdepth
  have hflags : shorthand.pattern.flags = .extended ||| .enhanced := rfl
  rw [Regex.parse, hnode, hflags]
  clear hdepth hnode hflags
  fin_cases hmem <;> rfl

end Parse

/-- The instructions that find a live shorthand. -/
def code (letter : UInt8) : Array Inst :=
  #[.enter 1, .fork 1 3, .look .textStart, .jump 2, .charClass (.bytes ⟨[(0, 91), (93, 255)]⟩),
    .fork 1 4, .byte 92, .byte 92, .jump (-3), .leave 1, .byte 92, .byte letter, .accept]

theorem whole_regex (letter : UInt8) : (Code.whole (regex letter)).toArray = code letter :=
  rfl

/-- How many instructions can follow at most before a byte is taken, at each place. -/
def heights : List Nat :=
  [6, 5, 4, 3, 0, 2, 0, 0, 3, 1, 0, 0, 0]

/-- The rank of a place and a position. -/
abbrev rank (text : Bytes) : Nat → Nat → Nat :=
  Code.listedRank heights 6 text

theorem ranked (letter : UInt8) (text : Bytes) :
    Code.Ranked (code letter) text.toArray (rank text) :=
  Code.ranked_of_heights (by decide) rfl text

/-- What comes of a way that began at `start`, before the instruction at `place`, with the slots of
group 1. -/
def comes (letter : UInt8) (text : Bytes) (start : Nat) (entered left : Option Nat)
    (place pos : Nat) : Option (List (Option Nat)) :=
  Code.resultOf (code letter) text.toArray (rank text)
    ⟨place, start, pos, [none, none, entered, left]⟩

section Comes

variable {letter byte : UInt8} {text rest : Bytes} {start pos place : Nat}
  {entered left : Option Nat}

theorem comes_of_byte (hinst : (code letter)[place]? = some (.byte byte))
    (hdrop : text.drop pos = byte :: rest) :
    comes letter text start entered left place pos =
      comes letter text start entered left (place + 1) (pos + 1) :=
  (ranked letter text).resultOf_of_byte hinst hdrop

theorem comes_of_other_byte (hpos : pos ≤ text.length)
    (hinst : (code letter)[place]? = some (.byte byte))
    (hother : (text.drop pos).head? ≠ some byte) :
    comes letter text start entered left place pos = none :=
  (ranked letter text).resultOf_of_other_byte hinst hpos hother

theorem comes_fork {first second : Int} (hpos : pos ≤ text.length)
    (hinst : (code letter)[place]? = some (.fork first second)) :
    comes letter text start entered left place pos =
      (comes letter text start entered left (place + first).toNat pos).or
        (comes letter text start entered left (place + second).toNat pos) :=
  (ranked letter text).resultOf_fork hpos hinst

theorem comes_jump {distance : Int} (hpos : pos ≤ text.length)
    (hinst : (code letter)[place]? = some (.jump distance)) :
    comes letter text start entered left place pos =
      comes letter text start entered left (place + distance).toNat pos :=
  (ranked letter text).resultOf_jump hpos hinst

theorem comes_leave (hpos : pos ≤ text.length) :
    comes letter text start (some start) none 9 pos =
      comes letter text start (some start) (some pos) 10 pos := by
  have hinst : (code letter)[9]? = some (.leave 1) := rfl
  have hmark : comes letter text start (some start) none 9 pos = _ :=
    (ranked letter text).resultOf_leave hpos hinst
  exact hmark

/-- Pairs of backslashes are taken first. -/
theorem comes_pairs (hpos : pos ≤ text.length) :
    comes letter text start (some start) none 5 pos =
      (comes letter text start (some start) none 6 pos).or
        (comes letter text start (some start) none 9 pos) := by
  have hfork : comes letter text start (some start) none 5 pos = _ := comes_fork hpos rfl
  exact hfork

/-- Behind the pairs a backslash and the letter end the match. -/
theorem comes_end (hdrop : text.drop pos = ascii '\\' :: rest) :
    comes letter text start (some start) none 9 pos =
      if rest.head? = some letter then
        some [some start, some (pos + 2), some start, some pos]
      else none := by
  obtain ⟨hnext, hrest⟩ := Code.drop_cons hdrop
  have hfirst : comes letter text start (some start) (some pos) 10 pos =
      comes letter text start (some start) (some pos) 11 (pos + 1) :=
    comes_of_byte rfl hdrop
  rw [comes_leave (Nat.le_of_succ_le hnext), hfirst]
  split
  · next hletter =>
    obtain ⟨behind, rfl⟩ := List.head?_eq_some_iff.mp hletter
    have hlast : comes letter text start (some start) (some pos) 11 (pos + 1) =
        comes letter text start (some start) (some pos) 12 (pos + 2) :=
      comes_of_byte rfl hrest
    rw [hlast]
    exact (ranked letter text).resultOf_accept (Code.drop_cons hrest).1 rfl
  · next hother => exact comes_of_other_byte hnext rfl (hrest ▸ hother)

theorem comes_of_no_run (hpos : pos ≤ text.length)
    (hother : (text.drop pos).head? ≠ some (ascii '\\')) :
    comes letter text start (some start) none 5 pos = none := by
  have hpair : comes letter text start (some start) none 6 pos = none :=
    comes_of_other_byte hpos rfl hother
  have hend : comes letter text start (some start) (some pos) 10 pos = none :=
    comes_of_other_byte hpos rfl hother
  rw [comes_pairs hpos, hpair, comes_leave hpos, hend]
  rfl

/-- A backslash that is not one of a pair ends the run. -/
theorem comes_of_single (hdrop : text.drop pos = ascii '\\' :: rest)
    (hrest : rest.head? ≠ some (ascii '\\')) :
    comes letter text start (some start) none 5 pos =
      comes letter text start (some start) none 9 pos := by
  obtain ⟨hnext, hbehind⟩ := Code.drop_cons hdrop
  have hfirst : comes letter text start (some start) none 6 pos =
      comes letter text start (some start) none 7 (pos + 1) :=
    comes_of_byte rfl hdrop
  have hsecond : comes letter text start (some start) none 7 (pos + 1) = none :=
    comes_of_other_byte hnext rfl (hbehind ▸ hrest)
  rw [comes_pairs (Nat.le_of_succ_le hnext), hfirst, hsecond, Option.none_or]

/-- Behind a pair the run goes on.  If nothing comes of that, nothing comes of the pair alone, for
the letter is no backslash. -/
theorem comes_of_pair (hletter : letter ≠ ascii '\\')
    (hdrop : text.drop pos = ascii '\\' :: ascii '\\' :: rest) :
    comes letter text start (some start) none 5 pos =
      comes letter text start (some start) none 5 (pos + 2) := by
  obtain ⟨hnext, hbehind⟩ := Code.drop_cons hdrop
  obtain ⟨hend, _⟩ := Code.drop_cons hbehind
  have hfirst : comes letter text start (some start) none 6 pos =
      comes letter text start (some start) none 7 (pos + 1) :=
    comes_of_byte rfl hdrop
  have hsecond : comes letter text start (some start) none 7 (pos + 1) =
      comes letter text start (some start) none 8 (pos + 2) :=
    comes_of_byte rfl hbehind
  have hback : comes letter text start (some start) none 8 (pos + 2) = _ := comes_jump hend rfl
  have hnone : comes letter text start (some start) none 9 pos = none := by
    rw [comes_end hdrop, if_neg (by simpa using Ne.symm hletter)]
  rw [comes_pairs (Nat.le_of_succ_le hnext), hfirst, hsecond, hback, hnone, Option.or_none]
  rfl

/-- Behind what may precede a shorthand the code finds the live run that begins there. -/
theorem comes_run (hletter : letter ≠ ascii '\\') (hpos : pos ≤ text.length) :
    comes letter text start (some start) none 5 pos =
      (liveRun letter (text.drop pos)).map fun run =>
        [some start, some (pos + run + 1), some start, some (pos + run - 1)] := by
  obtain ⟨run, rest, hdrop, hrest⟩ := exists_run (text.drop pos)
  rw [hdrop]
  induction run using Nat.twoStepInduction generalizing pos with
  | zero =>
      change _ = (liveRun letter rest).map _
      rw [comes_of_no_run hpos (hdrop ▸ hrest), liveRun_other hrest, Option.map_none]
  | one =>
      change text.drop pos = ascii '\\' :: rest at hdrop
      change _ = (liveRun letter (ascii '\\' :: rest)).map _
      rw [comes_of_single hdrop hrest, comes_end hdrop, liveRun_single hrest]
      split <;> rfl
  | more run ih _ =>
      change text.drop pos = ascii '\\' :: ascii '\\' :: (List.replicate run _ ++ rest) at hdrop
      change _ = (liveRun letter (ascii '\\' :: ascii '\\' :: (List.replicate run _ ++ rest))).map _
      obtain ⟨_, hbehind⟩ := Code.drop_cons hdrop
      obtain ⟨hend, hafter⟩ := Code.drop_cons hbehind
      rw [comes_of_pair hletter hdrop, ih hend hafter, liveRun_pair, Option.map_map]
      congr 1
      funext more
      rw [Function.comp, Nat.add_right_comm pos 2, Nat.add_assoc pos]

theorem contains_other (byte : UInt8) :
    (⟨[(0, 91), (93, 255)]⟩ : IntervalSet).contains byte.toNat = decide (byte ≠ ascii '\\') := by
  have hbackslash : byte = ascii '\\' ↔ byte.toNat = 92 := UInt8.toNat_inj.symm
  have hbound : byte.toNat < 256 := UInt8.toNat_lt byte
  rw [Bool.eq_iff_iff, decide_eq_true_iff, ne_eq, hbackslash]
  simp only [IntervalSet.contains, List.any_cons, List.any_nil, Bool.or_false, Bool.or_eq_true,
    Bool.and_eq_true, decide_eq_true_eq]
  omega

/-- A way goes on at the start of the text, or behind a byte that is no backslash. -/
theorem comes_start (hstart : start ≤ text.length) :
    comes letter text start none none 0 start =
      (comes letter text start (some start) none 2 start).or
        (comes letter text start (some start) none 4 start) := by
  have hinst : (code letter)[0]? = some (.enter 1) := rfl
  have henter : comes letter text start none none 0 start = _ :=
    (ranked letter text).resultOf_enter hstart hinst
  have hfork : comes letter text start (some start) none 1 start = _ := comes_fork hstart rfl
  exact henter.trans hfork

theorem comes_at_start (hstart : start ≤ text.length) :
    comes letter text start (some start) none 2 start =
      if start = 0 then comes letter text start (some start) none 5 start else none := by
  have hinst : (code letter)[2]? = some (.look .textStart) := rfl
  have hlook : comes letter text start (some start) none 2 start = _ :=
    (ranked letter text).resultOf_look hstart hinst
  have hout : comes letter text start (some start) none 3 start = _ := comes_jump hstart rfl
  rw [hlook]
  by_cases hfront : start = 0
  · rw [if_pos hfront, if_pos (by simpa [Look.holds] using hfront)]
    exact hout
  · rw [if_neg hfront, if_neg (by simpa [Look.holds] using hfront)]

theorem comes_behind_byte (hstart : start ≤ text.length) :
    comes letter text start (some start) none 4 start =
      if (text.drop start).head?.any (fun byte => decide (byte ≠ ascii '\\')) then
        comes letter text start (some start) none 5 (start + 1)
      else none := by
  have hinst : (code letter)[4]? = some (.charClass (.bytes ⟨[(0, 91), (93, 255)]⟩)) := rfl
  have hresult : comes letter text start (some start) none 4 start = _ :=
    (ranked letter text).resultOf_bytes hinst hstart
  simp only [contains_other] at hresult
  exact hresult

/-- The slots of a live run behind `before` bytes are its captures. -/
theorem ofSlots_comes (hletter : letter ≠ ascii '\\') {before : Nat}
    (hbefore : start + before ≤ text.length) :
    (comes letter text start (some start) none 5 (start + before)).map (.ofSlots 2) =
      ((liveRun letter (text.drop (start + before))).map (captures before)).map
        (·.shift start) := by
  rw [comes_run hletter hbefore, Option.map_map, Option.map_map]
  apply Option.map_congr
  intro run hrun
  have hpos := pos_of_liveRun hrun
  have hstop : before + run + 1 + start = start + before + run + 1 := by omega
  have hgroup : before + run - 1 + start = start + before + run - 1 := by omega
  simp only [Function.comp, captures, Captures.shift, List.map_cons, List.map_nil, Option.map_some,
    Span.shift, Nat.zero_add, hstop, hgroup]
  rfl

/-- What the search finds at a position is the live shorthand there. -/
theorem ofSlots_comes_start (hletter : letter ≠ ascii '\\') (hstart : start ≤ text.length) :
    (comes letter text start none none 0 start).map (.ofSlots 2) =
      (matchAt letter (start == 0) (text.drop start)).map (·.shift start) := by
  rw [comes_start hstart, comes_at_start hstart, comes_behind_byte hstart, Option.map_or]
  simp only [matchAt, Option.orElse_eq_orElse, Option.orElse_eq_or, Option.map_or]
  congr 1
  · by_cases hfront : start = 0
    · have hhere : (comes letter text start (some start) none 5 (start + 0)).map _ = _ :=
        ofSlots_comes hletter hstart
      rw [if_pos hfront, if_pos (by simpa using hfront)]
      exact hhere
    · rw [if_neg hfront, if_neg (by simpa using hfront)]
      rfl
  · cases hdrop : text.drop start with
    | nil => rfl
    | cons byte rest =>
        obtain ⟨hnext, hrest⟩ := Code.drop_cons hdrop
        have hbehind : (comes letter text start (some start) none 5 (start + 1)).map _ = _ :=
          ofSlots_comes hletter hnext
        rw [hrest] at hbehind
        by_cases hbyte : byte = ascii '\\'
        · simp [hbyte]
        · simp only [List.head?_cons, Option.any_some, ne_eq, hbyte, not_false_eq_true,
            decide_true, ↓reduceIte]
          exact hbehind

end Comes

section Program

/-- The search for the expression finds the first live shorthand. -/
theorem leftmost?_regex {letter : UInt8} (hletter : letter ≠ ascii '\\') (text : Bytes) :
    (regex letter).leftmost? text = Program.firstMatch (matchAt letter) 0 text := by
  have hsearch : Code.search (code letter) 4 text =
      (List.range (text.length + 1)).findSome? fun start =>
        comes letter text start none none 0 start :=
    Code.search_eq (ranked letter text) (Nat.succ_pos _) 4
  have hslots : (regex letter).leftmost? text =
      (Code.search (code letter) 4 text).map (.ofSlots 2) := rfl
  rw [hslots, hsearch, Program.firstMatch_eq, List.map_findSome?]
  apply findSome?_congr
  intro start hstart
  have hinside : start ≤ text.length := Nat.le_of_lt_succ (List.mem_range.mp hstart)
  rw [Function.comp, ofSlots_comes_start hletter hinside, Nat.zero_add]

/-- The default engine makes the program of a rule of its expression. -/
theorem program_regex {shorthand : Shorthand} (hletter : ascii shorthand.letter ≠ ascii '\\') :
    ({} : SearchOptions).program (regex (ascii shorthand.letter)) = shorthand.program := by
  have hstates : SearchOptions.stateCount (Code.whole (regex (ascii shorthand.letter))).toArray ≤
      SearchOptions.stateLimit := by
    rw [whole_regex]
    change 17 ≤ SearchOptions.stateLimit
    decide
  have hexecute : (({} : SearchOptions).program (regex (ascii shorthand.letter))).execute =
      shorthand.program.execute := by
    funext subject want
    have hanswer : (({} : SearchOptions).program (regex (ascii shorthand.letter))).execute
        subject want = _ :=
      SearchOptions.program_of_not_refused {} want
        (SearchOptions.refuses_withDefaultLimits {} hstates subject.length)
    rw [hanswer, leftmost?_regex hletter]
    rfl
  exact congrArg (Program.mk 2) hexecute

/-- A store of the default engine compiles the text of a rule to the pattern of the rule. -/
theorem compiled_key {store : Store} {shorthand : Shorthand}
    (hengine : store.engine = ({} : SearchOptions).engine) (hmem : shorthand ∈ all) :
    (store.compiled shorthand.key).1 = .ok ⟨shorthand.program, [1], shorthand.ruleText⟩ := by
  have henhanced : (Flags.extended ||| Flags.enhanced).contains .enhanced = true := by decide
  have hexpanded : shorthand.key.expanded = .ok shorthand.ruleText := if_pos henhanced
  have hparse := parse_ruleText shorthand hmem
  have hletter : ascii shorthand.letter ≠ ascii '\\' := by
    fin_cases hmem <;> decide
  have hgroups : Compiled.groupsOf shorthand.ruleText shorthand.pattern.flags
      ((regex (ascii shorthand.letter)).lastCapture + 1) = [1] := by
    rw [Compiled.groupsOf, outerGroups?, hparse]
    rfl
  have hcompiled : (store.compiled shorthand.key).1 = _ :=
    Store.compiled_of_parse hengine hexpanded hparse
  rw [hcompiled, program_regex hletter]
  exact congrArg
    (fun groups => Except.ok (Compiled.mk shorthand.program groups shorthand.ruleText)) hgroups

end Program

end Shorthand

end BytePattern
