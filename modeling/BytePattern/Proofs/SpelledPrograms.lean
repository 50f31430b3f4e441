/-
Programs of patterns with their shorthands spelled out.  Where characters are bytes, leaving the
shorthands to the engine gives the same program, unless a range has a shorthand for an end.
-/
import BytePattern.Proofs.OuterGroups
import BytePattern.Proofs.SpelledPatterns

namespace BytePattern

namespace Flags

theorem and_or_distrib (x y z : UInt32) : (x ||| y) &&& z = x &&& z ||| y &&& z := by
  apply UInt32.toNat.inj
  simp only [UInt32.toNat_and, UInt32.toNat_or, Nat.and_or_distrib_right]

/-- Flags that are added leave the others as they are. -/
theorem contains_or {added other : Flags} (flags : Flags) (hadded : added.bits &&& other.bits = 0) :
    (flags ||| added).contains other = flags.contains other := by
  change ((flags.bits ||| added.bits) &&& other.bits == other.bits) = _
  rw [and_or_distrib, hadded, UInt32.or_zero]
  rfl

theorem contains_or_self (flags added : Flags) : (flags ||| added).contains added = true := by
  change ((flags.bits ||| added.bits) &&& added.bits == added.bits) = true
  rw [beq_iff_eq, and_or_distrib, UInt32.and_self]
  apply UInt32.toNat.inj
  apply Nat.eq_of_testBit_eq
  intro bit
  rw [UInt32.toNat_or, UInt32.toNat_and, Nat.testBit_or, Nat.testBit_and]
  cases added.bits.toNat.testBit bit <;> simp

theorem ofFlags_enhanced (flags : Flags) (unicode : Bool) :
    Modes.ofFlags (flags ||| .enhanced) unicode = .ofFlags flags unicode := by
  rw [Modes.ofFlags, contains_or flags rfl, contains_or flags rfl]
  rfl

end Flags

section Expanding

open Shorthand (all bytewise bracketOf)

/-- Every live shorthand of a text is one that the bytes of its class are spelled out for. -/
def Shorthand.AllBytewise (text : String) : Prop :=
  ∀ shorthand ∈ all, shorthand ∉ bytewise → cutEscape '\\' shorthand.letter text.toList = none

theorem onePass_bracketOf_cons {shorthand : Shorthand} (shorthands : List Shorthand)
    {text : List Char} (hclean : '\\' ∉ shorthand.bracket.toList)
    (hcut : cutEscape '\\' shorthand.letter text = none) :
    onePass '\\' (bracketOf (shorthand :: shorthands)) text =
      onePass '\\' (bracketOf shorthands) text := by
  have htable : bracketOf (shorthand :: shorthands) = fun letter =>
      tableOf shorthand.letter shorthand.bracket.toList letter <|>
        bracketOf shorthands letter := by
    funext letter
    rw [bracketOf, List.find?_cons, tableOf]
    by_cases hletter : shorthand.letter = letter
    · simp [hletter]
    · simp [hletter, Ne.symm hletter, bracketOf]
  rw [htable, ← onePass_onePass, onePass_of_cutEscape_none _ hcut]
  intro letter inserted hinserted
  obtain ⟨_, hbracket⟩ := Option.ite_none_right_eq_some.mp hinserted
  rw [← Option.some.inj hbracket]
  exact hclean

/-- Such a text is expanded by spelling it out. -/
theorem Shorthand.AllBytewise.expand_eq {text : String} (hlive : AllBytewise text) :
    expand text = .ok (String.ofList (spell text.toList)) := by
  have hpass : onePass '\\' (bracketOf all) text.toList = spell text.toList := by
    have hword := hlive ⟨'w', "[[:alnum:]]"⟩ (by decide) (by decide)
    have hnotWord := hlive ⟨'W', "[^[:alnum:]]"⟩ (by decide) (by decide)
    exact (onePass_bracketOf_cons _ (by decide) hword).trans
      (onePass_bracketOf_cons bytewise (by decide) hnotWord)
  rw [expand_eq_ok_iff, foldl_apply_ofString, hpass]

end Expanding

namespace Node

/-- A text that stays clear of the limit of nesting does so when it is spelled out. -/
theorem parse_spell_iff {text : String} {spelled : Node}
    (hsame : Reading.run {} (BytePattern.spell text.toList) =
      (Reading.run {} text.toList).map spell)
    (hdepth : ∀ node, parse text = .ok node → node.depth < depthLimit) :
    parse (String.ofList (BytePattern.spell text.toList)) = .ok spelled ↔
      ∃ node, parse text = .ok node ∧ node.spell = spelled := by
  simp only [parse_eq_ok_iff] at hdepth ⊢
  rw [String.toList_ofList, hsame]
  cases hrun : Reading.run {} text.toList with
  | error fault => simp [Except.map]
  | ok node =>
      have hspell := node.depth_spell
      constructor
      · rintro ⟨hspelled, hle⟩
        obtain rfl := Except.ok.inj hspelled
        exact ⟨node, ⟨rfl, Nat.le_trans hspell.1 hle⟩, rfl⟩
      · rintro ⟨found, ⟨hfound, hle⟩, rfl⟩
        obtain rfl := Except.ok.inj hfound
        exact ⟨rfl, Nat.le_trans hspell.2 (hdepth node ⟨hrun, hle⟩)⟩

end Node

namespace Regex

variable {text : String} {modes : Modes} {regex : Regex}

theorem not_stopsAtRange_of_parse (hparse : parse text modes = .ok regex) :
    ¬Reading.StopsAtRange {} text.toList := by
  intro hstop
  obtain ⟨fault, herror⟩ := Reading.exists_run_of_stopsAtRange hstop
  obtain ⟨node, after, hnode, _⟩ := parse_eq_ok_iff.mp hparse
  have hrun := (Node.parse_eq_ok_iff.mp hnode).1
  rw [herror] at hrun
  contradiction

/-- What asks for a property means nothing outside Unicode mode. -/
theorem not_asked_of_parse (hunicode : modes.unicode = false)
    (hparse : parse text modes = .ok regex) : ¬Reading.Asked (Reading.run {} text.toList) := by
  intro hasked
  obtain ⟨node, after, hnode, hmeaning⟩ := parse_eq_ok_iff.mp hparse
  have hrun := (Node.parse_eq_ok_iff.mp hnode).1
  exact (bearable_ofNode node modes after regex hunicode hmeaning).not_asked (hasked node hrun)

/-- Outside Unicode mode, a pattern and its spelling mean the same, up to a range with a class for
an end. -/
theorem parse_spell_iff (hunicode : modes.unicode = false)
    (hmarks : ¬Reading.TurnsUnicodeOn {} text.toList)
    (hrange : ¬Reading.StopsAtRange {} text.toList)
    (hdepth : ∀ node, Node.parse text = .ok node → node.depth < Node.depthLimit) :
    parse (String.ofList (spell text.toList)) modes = .ok regex ↔ parse text modes = .ok regex := by
  have hread := Reading.run_spell hmarks hrange
  change Reading.run {} (spell text.toList) = _ ∨ _ ∧ Reading.Asked (Reading.run {} _) at hread
  -- Where a property is asked for first, neither text means anything outside Unicode mode.
  rcases hread with hsame | ⟨hnative, hspelled⟩
  · have hmeaning {node : Node} (hnode : Node.parse text = .ok node) :
        ofNode modes node.spell = ofNode modes node := by
      have hrun := (Node.parse_eq_ok_iff.mp hnode).1
      exact ofNode_spell node modes hunicode
        (mt (Reading.turnsUnicodeOn_iff_of_run hrun).mpr hmarks)
    simp only [parse_eq_ok_iff, Node.parse_spell_iff hsame hdepth]
    constructor
    · rintro ⟨_, after, ⟨node, hnode, rfl⟩, hspelled⟩
      exact ⟨node, after, hnode, (hmeaning hnode).symm.trans hspelled⟩
    · rintro ⟨node, after, hnode, hnative⟩
      exact ⟨node.spell, after, ⟨node, hnode, rfl⟩, (hmeaning hnode).trans hnative⟩
  · refine ⟨fun hparse => ?_, fun hparse => absurd hnative (not_asked_of_parse hunicode hparse)⟩
    have hasked := not_asked_of_parse hunicode hparse
    rw [String.toList_ofList] at hasked
    exact absurd hspelled hasked

end Regex

namespace Store

variable {options : SearchOptions} {text : String}

/-- What a look-up in a store of the default engine gives after operations on it. -/
def lookedUp (options : SearchOptions) (capacity : Option Nat) (keepsFailures : Bool)
    (operations : List Operation) (key : Key) : Except CompileError Compiled :=
  (((fresh options.engine capacity keepsFailures).run operations).lookup key).compilation.result

/-- If the engine starts outside Unicode mode, all that it makes of a key comes of one reading of
the expanded text. -/
theorem lookedUp_eq_ok_iff (hunicode : options.unicode = false) (capacity : Option Nat)
    (keepsFailures : Bool) (operations : List Operation) {key : Key} {compiled : Compiled}
    (hexpanded : key.expanded = .ok text) :
    lookedUp options capacity keepsFailures operations key = .ok compiled ↔
      ∃ regex, Regex.parse text (.ofFlags key.flags false) = .ok regex ∧
        compiled = ⟨options.program regex, regex.outerGroups, text⟩ := by
  obtain ⟨before, hengine, hresult⟩ :=
    lookup_run options.engine capacity keepsFailures operations key
  have hgroups {regex : Regex} (hparse : Regex.parse text (.ofFlags key.flags false) = .ok regex) :
      Compiled.groupsOf text key.flags (regex.lastCapture + 1) = regex.outerGroups := by
    rw [Compiled.groupsOf_eq hparse, outerGroups?, hparse]
    exact if_pos rfl
  rw [lookedUp, hresult]
  constructor
  · intro hcompiled
    obtain ⟨regex, htext, hparse, heq⟩ := exists_of_compiled hengine hcompiled
    obtain rfl := Except.ok.inj (hexpanded.symm.trans htext)
    rw [hunicode] at hparse
    rw [hgroups hparse] at heq
    exact ⟨regex, hparse, heq⟩
  · rintro ⟨regex, hparse, rfl⟩
    rw [compiled_of_parse hengine hexpanded (hunicode ▸ hparse), hgroups hparse]

/-- Whatever was done to stores of the default engine before, a pattern whose shorthands are spelled
out compiles to the program it has when they are left to the engine.  It compiles with them left to
the engine just where it does so with them spelled out and no range in it has one for an end. -/
theorem sameProgram_of_bytewise (options : SearchOptions) (capacity : Option Nat)
    (keepsFailures : Bool) (operations operations' : List Operation) (flags : Flags) (text : String)
    (hunicode : options.unicode = false) (hflags : flags.contains .enhanced = false)
    (hlive : Shorthand.AllBytewise text) (hmarks : ¬Reading.TurnsUnicodeOn {} text.toList)
    (hdepth : ∀ node, Node.parse text = .ok node → node.depth < Node.depthLimit) :
    (∀ native, lookedUp options capacity keepsFailures operations ⟨flags ||| .enhanced, text⟩ =
        .ok native →
      ∃ spelled, lookedUp options capacity keepsFailures operations' ⟨flags, text⟩ = .ok spelled ∧
        spelled.program = native.program ∧ spelled.outerGroups = native.outerGroups) ∧
    ((∃ native, lookedUp options capacity keepsFailures operations ⟨flags ||| .enhanced, text⟩ =
        .ok native) ↔
      (∃ spelled, lookedUp options capacity keepsFailures operations' ⟨flags, text⟩ =
        .ok spelled) ∧ ¬Reading.StopsAtRange {} text.toList) := by
  have hnative : Key.expanded ⟨flags ||| .enhanced, text⟩ = .ok text := by
    rw [Key.expanded, Flags.contains_or_self]
    exact if_pos rfl
  have hspelled : Key.expanded ⟨flags, text⟩ = .ok (String.ofList (spell text.toList)) := by
    rw [Key.expanded, hflags]
    exact (if_neg Bool.false_ne_true).trans hlive.expand_eq
  simp only [lookedUp_eq_ok_iff hunicode capacity keepsFailures _ hnative,
    lookedUp_eq_ok_iff hunicode capacity keepsFailures _ hspelled, Flags.ofFlags_enhanced]
  have hparse {regex : Regex} (hrange : ¬Reading.StopsAtRange {} text.toList) :
      Regex.parse (String.ofList (spell text.toList)) (.ofFlags flags false) = .ok regex ↔
        Regex.parse text (.ofFlags flags false) = .ok regex :=
    Regex.parse_spell_iff rfl hmarks hrange hdepth
  refine ⟨?_, ?_, ?_⟩
  · rintro native ⟨regex, hregex, rfl⟩
    have hrange := Regex.not_stopsAtRange_of_parse hregex
    exact ⟨_, ⟨regex, (hparse hrange).mpr hregex, rfl⟩, rfl, rfl⟩
  · rintro ⟨native, regex, hregex, _⟩
    have hrange := Regex.not_stopsAtRange_of_parse hregex
    exact ⟨⟨_, regex, (hparse hrange).mpr hregex, rfl⟩, hrange⟩
  · rintro ⟨⟨spelled, regex, hregex, _⟩, hrange⟩
    exact ⟨_, regex, (hparse hrange).mp hregex, rfl⟩

section Brackets

/-- A bracket in which a shorthand stands. -/
def digitOrHyphen : Node :=
  .bracket false (.union [.letterClass .digit false, .literal ⟨'-', false⟩])

/-- Such a bracket before a group that holds a shorthand. -/
def afterDigit : Node :=
  .concat [digitOrHyphen, .repetition (.group (.capture 1) (.letterClass .space true)) 1 none true]

theorem sameProgram_of_bytewise_bracket :
    ∃ native spelled,
      lookedUp {} none false [] ⟨.extended ||| .enhanced, "[\\d-](\\S)+"⟩ = .ok native ∧
      lookedUp {} none false [.lookup ⟨.extended ||| .enhanced, "[\\d-](\\S)+"⟩]
        ⟨.extended, "[\\d-](\\S)+"⟩ = .ok spelled ∧
      spelled.program = native.program ∧ spelled.outerGroups = native.outerGroups ∧
      native.outerGroups = [1] := by
  have hbracket : Reading.step {} '[' "\\d-](\\S)+".toList =
      .ok (Reading.push {} digitOrHyphen, "(\\S)+".toList) := by
    cbv
  have hread : Reading.run {} "[\\d-](\\S)+".toList = .ok afterDigit := by
    have hrun : Reading.run {} "[\\d-](\\S)+".toList = _ := Reading.run_of_step rfl hbracket
    rw [hrun]
    cbv
  have hnode : Node.parse "[\\d-](\\S)+" = .ok afterDigit :=
    Node.parse_eq_ok_iff.mpr ⟨hread, by decide⟩
  have hlive : Shorthand.AllBytewise "[\\d-](\\S)+" := by
    unfold Shorthand.AllBytewise
    decide
  have hmarks : ¬Reading.TurnsUnicodeOn {} "[\\d-](\\S)+".toList :=
    mt (Reading.turnsUnicodeOn_iff_of_run hread).mp (by decide)
  have hdepth : ∀ node, Node.parse "[\\d-](\\S)+" = .ok node → node.depth < Node.depthLimit := by
    intro node hparsed
    obtain rfl := Except.ok.inj (hnode.symm.trans hparsed)
    decide
  obtain ⟨regex, hparse⟩ : ∃ regex,
      Regex.parse "[\\d-](\\S)+" (.ofFlags (.extended ||| .enhanced) false) = .ok regex := by
    rw [Regex.parse, hnode]
    exact ⟨_, rfl⟩
  have houter : regex.outerGroups = [1] := by
    rw [Regex.outerGroups_eq, Regex.captures_of_parse hnode hparse]
    rfl
  have hnative : lookedUp {} none false [] ⟨.extended ||| .enhanced, "[\\d-](\\S)+"⟩ = .ok _ :=
    (lookedUp_eq_ok_iff rfl none false [] rfl).mpr ⟨regex, hparse, rfl⟩
  obtain ⟨spelled, hspelled, hprogram, hgroups⟩ :=
    (sameProgram_of_bytewise {} none false []
      [.lookup ⟨.extended ||| .enhanced, "[\\d-](\\S)+"⟩] .extended "[\\d-](\\S)+" rfl
      (by decide) hlive hmarks hdepth).1 _ hnative
  exact ⟨_, spelled, hnative, hspelled, hprogram, hgroups, houter⟩

/-- A range up to an opening bracket, and the digits. -/
def upToBracket : Node :=
  .bracket false (.union [.range ⟨'A', false⟩ ⟨'[', false⟩, .namedClass .digit false])

/-- A range that ends in a shorthand is refused natively.  Spelled out, it ends in the bracket that
opens the spelling, and compiles. -/
theorem sameProgram_of_bytewise_range :
    Flags.extended.contains .enhanced = false ∧ Shorthand.AllBytewise "[A-\\d]" ∧
      ¬Reading.TurnsUnicodeOn {} "[A-\\d]".toList ∧ (∀ node, Node.parse "[A-\\d]" ≠ .ok node) ∧
      (∀ native,
        lookedUp {} none false [] ⟨.extended ||| .enhanced, "[A-\\d]"⟩ ≠ .ok native) ∧
      ∃ spelled, lookedUp {} none false [] ⟨.extended, "[A-\\d]"⟩ = .ok spelled := by
  have hlive : Shorthand.AllBytewise "[A-\\d]" := by
    unfold Shorthand.AllBytewise
    decide
  have hbracket : Reading.step {} '[' "A-\\d]".toList = .error .classItemInvalid := by
    cbv
  have hrun : Reading.run {} "[A-\\d]".toList = .error .classItemInvalid :=
    Reading.run_of_error rfl hbracket
  have hmarks : ¬Reading.TurnsUnicodeOn {} "[A-\\d]".toList := by
    rintro ⟨last, left, hcomes, hmem⟩
    rw [hcomes.eq_of_error rfl hbracket] at hmem
    contradiction
  have hnode (node : Node) : Node.parse "[A-\\d]" ≠ .ok node := by
    rw [Ne, Node.parse_eq_ok_iff, hrun]
    rintro ⟨_, _⟩
    contradiction
  refine ⟨rfl, hlive, hmarks, hnode, ?_, ?_⟩
  · intro native hnative
    obtain ⟨regex, hparse, _⟩ := (lookedUp_eq_ok_iff rfl none false [] rfl).mp hnative
    obtain ⟨node, _, hparsed, _⟩ := Regex.parse_eq_ok_iff.mp hparse
    exact hnode node hparsed
  · have hexpanded : Key.expanded ⟨.extended, "[A-\\d]"⟩ = .ok "[A-[[:digit:]]]" :=
      hlive.expand_eq
    have hread : Reading.step {} '[' "A-[[:digit:]]]".toList =
        .ok (Reading.push {} upToBracket, "]".toList) := by
      cbv
    have hspelled : Node.parse "[A-[[:digit:]]]" =
        .ok (.concat [upToBracket, .literal ⟨']', false⟩]) := by
      have hrun : Reading.run {} "[A-[[:digit:]]]".toList = _ := Reading.run_of_step rfl hread
      rw [Node.parse, hrun]
      cbv
    obtain ⟨regex, hparse⟩ : ∃ regex,
        Regex.parse "[A-[[:digit:]]]" (.ofFlags .extended false) = .ok regex := by
      rw [Regex.parse, hspelled]
      exact ⟨_, rfl⟩
    exact ⟨_, (lookedUp_eq_ok_iff rfl none false [] hexpanded).mpr ⟨regex, hparse, rfl⟩⟩

end Brackets

end Store

end BytePattern
