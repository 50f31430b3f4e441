/-
The outer groups that a store of the default engine keeps.  They are those of the compiled
expression if the pattern can be read without Unicode mode, and those that the parentheses tell
otherwise.
-/
import BytePattern.Proofs.History
import BytePattern.Proofs.Meaning

namespace BytePattern

/-- Outer groups are groups of the program. -/
theorem Regex.filter_outerGroups (regex : Regex) :
    regex.outerGroups.filter (· < regex.lastCapture + 1) = regex.outerGroups := by
  rw [List.filter_eq_self]
  intro index hmem
  rw [outerGroups_eq] at hmem
  have hle := le_lastCapture regex index (regex.captures_sublist.subset hmem)
  exact decide_eq_true (Nat.lt_succ_of_le hle)

/-- Unless the text can be read without Unicode mode, the parentheses decide. -/
theorem Compiled.groupsOf_eq {text : String} {flags : Flags} {modes : Modes} {regex : Regex}
    (hparse : Regex.parse text modes = .ok regex) :
    groupsOf text flags (regex.lastCapture + 1) =
      if (outerGroups? text flags).isSome then regex.outerGroups
      else (scanOuterGroups text).filter (· < regex.lastCapture + 1) := by
  unfold groupsOf outerGroups?
  cases hplain : Regex.parse text (.ofFlags flags false) with
  | error fault => rfl
  | ok plain =>
      change plain.outerGroups.filter _ = regex.outerGroups
      rw [Regex.outerGroups_eq_of_parse hplain hparse]
      exact regex.filter_outerGroups

namespace Store

variable {options : SearchOptions} {store : Store} {key : Key}

theorem compiled_of_parse {text : String} {regex : Regex} (hengine : store.engine = options.engine)
    (hexpanded : key.expanded = .ok text)
    (hparse : Regex.parse text (.ofFlags key.flags options.unicode) = .ok regex) :
    (store.compiled key).1 = .ok
      ⟨options.program regex, Compiled.groupsOf text key.flags (regex.lastCapture + 1), text⟩ := by
  rw [compiled, hexpanded, compiledFrom, hengine]
  simp only [SearchOptions.engine, SearchOptions.compile, hparse]
  rfl

/-- What the default engine makes of a key comes of one reading of the expanded text. -/
theorem exists_of_compiled {compiled : Compiled} (hengine : store.engine = options.engine)
    (hcompiled : (store.compiled key).1 = .ok compiled) :
    ∃ regex, key.expanded = .ok compiled.expanded ∧
      Regex.parse compiled.expanded (.ofFlags key.flags options.unicode) = .ok regex ∧
      compiled = ⟨options.program regex,
        Compiled.groupsOf compiled.expanded key.flags (regex.lastCapture + 1),
        compiled.expanded⟩ := by
  cases hexpanded : key.expanded with
  | error error =>
      rw [Store.compiled, hexpanded, Store.compiledFrom] at hcompiled
      simp at hcompiled
  | ok text =>
      cases hparse : Regex.parse text (.ofFlags key.flags options.unicode) with
      | error fault =>
          rw [Store.compiled, hexpanded, Store.compiledFrom, hengine] at hcompiled
          simp [SearchOptions.engine, SearchOptions.compile, hparse] at hcompiled
      | ok regex =>
          obtain rfl := Except.ok.inj ((compiled_of_parse hengine hexpanded hparse).symm.trans
            hcompiled)
          exact ⟨regex, rfl, hparse, rfl⟩

/-- Whatever was done to a store of the default engine before, a pattern that compiles has the outer
groups of its compiled expression if it can be read without Unicode mode, as it can if the engine
reads it so itself.  Otherwise it has those that the parentheses tell, as far as they exist. -/
theorem outerGroups_of_run (options : SearchOptions) (capacity : Option Nat) (keepsFailures : Bool)
    (operations : List Operation) (key : Key) {compiled : Compiled}
    (hcompiled : (((fresh options.engine capacity keepsFailures).run operations).lookup
      key).compilation.result = .ok compiled) :
    ∃ regex, key.expanded = .ok compiled.expanded ∧
      Regex.parse compiled.expanded (.ofFlags key.flags options.unicode) = .ok regex ∧
      compiled.program = options.program regex ∧
      (∀ group ∈ compiled.outerGroups, group < compiled.program.groupLen) ∧
      compiled.outerGroups =
        if options.unicode = false ∨ (outerGroups? compiled.expanded key.flags).isSome then
          regex.outerGroups
        else (scanOuterGroups compiled.expanded).filter (· < compiled.program.groupLen) := by
  obtain ⟨before, hengine, hresult⟩ :=
    lookup_run options.engine capacity keepsFailures operations key
  rw [hresult] at hcompiled
  obtain ⟨regex, hexpanded, hparse, heq⟩ := exists_of_compiled hengine hcompiled
  have hprogram : compiled.program = options.program regex := congrArg Compiled.program heq
  have hgroups := (congrArg Compiled.outerGroups heq).trans (Compiled.groupsOf_eq hparse)
  refine ⟨regex, hexpanded, hparse, hprogram, ?_, ?_⟩
  · intro group hgroup
    rw [heq, Compiled.groupsOf] at hgroup
    rw [hprogram]
    exact of_decide_eq_true (List.mem_filter.mp hgroup).2
  · have hread : options.unicode = false → (outerGroups? compiled.expanded key.flags).isSome := by
      intro hunicode
      rw [hunicode] at hparse
      rw [outerGroups?, hparse]
      rfl
    rw [hgroups, hprogram]
    simp only [or_iff_right_of_imp hread]
    rfl

section Nested

/-- The key of a text under the default flags. -/
def plainKey (text : String) : Key := ⟨.extended, text⟩

/-- A store whose engine starts in Unicode mode. -/
def inUnicode : Store := fresh ({ unicode := true } : SearchOptions).engine none false

/-- A group that does not capture, before a capture inside a capture. -/
def nested : List Node :=
  [.group (.plain []) (.literal ⟨'x', false⟩),
    .group (.capture 1)
      (.concat [.group (.capture 2) (.literal ⟨'a', false⟩), .literal ⟨'b', false⟩])]

theorem outerGroups_of_run_nested :
    ∃ compiled regex,
      ((inUnicode.run [.invalidate (plainKey "(?:x)((a)b)")]).lookup
        (plainKey "(?:x)((a)b)")).compilation.result = .ok compiled ∧
      compiled.program = SearchOptions.program { unicode := true } regex ∧
      compiled.outerGroups = regex.outerGroups := by
  have hgroup : Reading.step {} '(' "?:x)((a)b)".toList =
      .ok (Reading.enter {} (.plain []) false, "x)((a)b)".toList) := rfl
  have hrun : Reading.run {} "(?:x)((a)b)".toList = _ := Reading.run_of_step rfl hgroup
  have hnode : Node.parse "(?:x)((a)b)" = .ok (.concat nested) := by
    rw [Node.parse, hrun]
    cbv
  have hexpanded : (plainKey "(?:x)((a)b)").expanded = .ok "(?:x)((a)b)" := rfl
  have hread : (outerGroups? "(?:x)((a)b)" .extended).isSome := by
    rw [outerGroups?, Regex.parse, hnode]
    rfl
  obtain ⟨parsed, hparse⟩ : ∃ regex,
      Regex.parse "(?:x)((a)b)" (.ofFlags .extended true) = .ok regex := by
    rw [Regex.parse, hnode]
    exact ⟨_, rfl⟩
  have hcompiled : (inUnicode.compiled (plainKey "(?:x)((a)b)")).1 = _ :=
    compiled_of_parse rfl hexpanded hparse
  obtain ⟨regex, _, _, hprogram, _, hgroups⟩ :=
    outerGroups_of_run { unicode := true } none false [.invalidate (plainKey "(?:x)((a)b)")]
      (plainKey "(?:x)((a)b)") hcompiled
  exact ⟨_, regex, hcompiled, hprogram, hgroups.trans (if_pos (Or.inr hread))⟩

/-- A bracket expression that needs Unicode mode leaves the outer groups to the parentheses, which
take a capture inside a capture for an outer one. -/
theorem outerGroups_of_run_bracketed :
    ∃ compiled regex,
      (inUnicode.lookup (plainKey "[é](?:x)((a)b)")).compilation.result = .ok compiled ∧
      Regex.parse compiled.expanded (.ofFlags .extended true) = .ok regex ∧
      compiled.program = SearchOptions.program { unicode := true } regex ∧
      compiled.outerGroups = [1, 2] ∧ regex.outerGroups = [1] := by
  have hbracket : Reading.step {} '[' "é](?:x)((a)b)".toList =
      .ok (Reading.push {} (.bracket false (.literal ⟨'é', false⟩)), "(?:x)((a)b)".toList) := by
    cbv
  have hgroup : Reading.step (Reading.push {} (.bracket false (.literal ⟨'é', false⟩))) '('
      "?:x)((a)b)".toList = .ok ((Reading.push {} (.bracket false (.literal ⟨'é', false⟩))).enter
        (.plain []) false, "x)((a)b)".toList) := rfl
  have hrun : Reading.run {} "[é](?:x)((a)b)".toList = _ :=
    (Reading.run_of_step rfl hbracket).trans (Reading.run_of_step rfl hgroup)
  have hnode : Node.parse "[é](?:x)((a)b)" =
      .ok (.concat (.bracket false (.literal ⟨'é', false⟩) :: nested)) := by
    rw [Node.parse, hrun]
    cbv
  have hexpanded : (plainKey "[é](?:x)((a)b)").expanded = .ok "[é](?:x)((a)b)" := rfl
  have hread : outerGroups? "[é](?:x)((a)b)" .extended = none := by
    rw [outerGroups?, Regex.parse, hnode]
    rfl
  obtain ⟨regex, hparse, hlast, houter⟩ : ∃ regex,
      Regex.parse "[é](?:x)((a)b)" (.ofFlags .extended true) = .ok regex ∧
        regex.lastCapture = 2 ∧ regex.outerGroups = [1] := by
    rw [Regex.parse, hnode]
    exact ⟨_, rfl, rfl, rfl⟩
  have hcompiled : (inUnicode.compiled (plainKey "[é](?:x)((a)b)")).1 = _ :=
    compiled_of_parse rfl hexpanded hparse
  refine ⟨_, regex, hcompiled, hparse, rfl, ?_, houter⟩
  change Compiled.groupsOf "[é](?:x)((a)b)" .extended (regex.lastCapture + 1) = [1, 2]
  rw [Compiled.groupsOf, hread, hlast]
  rfl

end Nested

end Store

end BytePattern
