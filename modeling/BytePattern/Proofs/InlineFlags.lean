/-
Inline flags at the front of a pattern.  A pattern means under a compile flag what it means without
it behind the inline flags that the compile flag stands for.
-/
import BytePattern.Proofs.Keeping
import BytePattern.Proofs.Simplified
import BytePattern.Proofs.SpelledPrograms

namespace BytePattern

/-- Two results of reading: the same fault, or values that are related. -/
inductive Paired {α β : Type} (related : α → β → Prop) :
    Except SyntaxFault α → Except SyntaxFault β → Prop where
  | error (fault : SyntaxFault) : Paired related (.error fault) (.error fault)
  | ok {a : α} {b : β} (hrelated : related a b) : Paired related (.ok a) (.ok b)

namespace Paired

variable {α β α' β' : Type} {related : α → β → Prop} {related' : α' → β' → Prop}
  {result : Except SyntaxFault α} {result' : Except SyntaxFault β}

theorem map {f : α → α'} {g : β → β'} (hpaired : Paired related result result')
    (hmap : ∀ a b, related a b → related' (f a) (g b)) :
    Paired related' (result.map f) (result'.map g) := by
  cases hpaired with
  | error fault => exact .error fault
  | ok hrelated => exact .ok (hmap _ _ hrelated)

theorem exists_of_left {a : α} (hpaired : Paired related result result') (ha : result = .ok a) :
    ∃ b, result' = .ok b ∧ related a b := by
  cases hpaired with
  | error fault => contradiction
  | ok hrelated =>
      obtain rfl := Except.ok.inj ha
      exact ⟨_, rfl, hrelated⟩

theorem exists_of_right {b : β} (hpaired : Paired related result result') (hb : result' = .ok b) :
    ∃ a, result = .ok a ∧ related a b := by
  cases hpaired with
  | error fault => contradiction
  | ok hrelated =>
      obtain rfl := Except.ok.inj hb
      exact ⟨_, rfl, hrelated⟩

end Paired

/-- Inline settings stand first in the second node, and it is the first one otherwise. -/
inductive Node.Headed (settings : FlagSettings) : Node → Node → Prop where
  | intro (first branches : List Node) :
      Headed settings (.ofBranches (.ofItems first :: branches))
        (.ofBranches (.ofItems (.settings settings :: first) :: branches))

/-- Inline settings stand first on the second level, and it is the first one otherwise. -/
inductive Level.Headed (settings : FlagSettings) : Level → Level → Prop where
  | first (items : List Node) : Headed settings ⟨[], items⟩ ⟨[], items ++ [.settings settings]⟩
  | later (branches first items : List Node) :
      Headed settings ⟨branches ++ [.ofItems first], items⟩
        ⟨branches ++ [.ofItems (.settings settings :: first)], items⟩

namespace Level.Headed

variable {settings : FlagSettings} {level level' : Level}

theorem push (hheaded : Headed settings level level') (item : Node) :
    Headed settings (level.push item) (level'.push item) := by
  cases hheaded with
  | first items => exact .first (item :: items)
  | later branches first items => exact .later branches first (item :: items)

theorem branch (hheaded : Headed settings level level') :
    Headed settings level.branch level'.branch := by
  cases hheaded with
  | first items =>
      rw [Level.branch, Level.branch, List.reverse_concat]
      exact .later [] items.reverse []
  | later branches first items => exact .later (.ofItems items.reverse :: branches) first []

theorem node (hheaded : Headed settings level level') :
    Node.Headed settings level.node level'.node := by
  cases hheaded with
  | first items =>
      rw [Level.node, Level.node, List.reverse_concat]
      exact .intro items.reverse []
  | later branches first items =>
      rw [Level.node, Level.node, ← List.cons_append, ← List.cons_append, List.reverse_concat,
        List.reverse_concat]
      exact .intro first _

end Level.Headed

namespace Reading

/-- Inline settings stand first in the second reading, and it is the first one otherwise. -/
inductive Headed (settings : FlagSettings) : Reading → Reading → Prop where
  | outside {level level' : Level} (hlevel : level.Headed settings level') (verbose : Bool)
      (captures : Nat) (names : List String) :
      Headed settings ⟨level, [], verbose, captures, names⟩ ⟨level', [], verbose, captures, names⟩
  | inside {around around' : Level} (haround : around.Headed settings around') (level : Level)
      (groups : List OpenGroup) (opening : Opening) (before verbose : Bool) (captures : Nat)
      (names : List String) :
      Headed settings
        ⟨level, groups ++ [⟨opening, around, before⟩], verbose, captures, names⟩
        ⟨level, groups ++ [⟨opening, around', before⟩], verbose, captures, names⟩

namespace Headed

variable {settings : FlagSettings} {reading reading' : Reading}

theorem verbose_eq (hheaded : Headed settings reading reading') :
    reading'.verbose = reading.verbose := by
  cases hheaded <;> rfl

theorem names_eq (hheaded : Headed settings reading reading') :
    reading'.names = reading.names := by
  cases hheaded <;> rfl

theorem push (hheaded : Headed settings reading reading') (item : Node) :
    Headed settings (reading.push item) (reading'.push item) := by
  cases hheaded with
  | outside hlevel verbose captures names =>
      exact .outside (hlevel.push item) verbose captures names
  | inside haround level groups opening before verbose captures names =>
      exact .inside haround (level.push item) groups opening before verbose captures names

theorem enter (hheaded : Headed settings reading reading') (opening : Opening) (verbose : Bool) :
    Headed settings (reading.enter opening verbose) (reading'.enter opening verbose) := by
  cases hheaded with
  | outside hlevel before captures names =>
      exact .inside hlevel {} [] opening before verbose captures names
  | inside haround level groups outer before between captures names =>
      exact .inside haround {} (⟨opening, level, between⟩ :: groups) outer before verbose captures
        names

theorem openGroup (hheaded : Headed settings reading reading') (head : GroupHead) :
    Paired (Headed settings) (reading.openGroup head) (reading'.openGroup head) := by
  cases head with
  | settings more =>
      cases hheaded with
      | outside hlevel verbose captures names =>
          exact .ok (.outside (hlevel.push _) _ captures names)
      | inside haround level groups opening before verbose captures names =>
          exact .ok (.inside haround (level.push _) groups opening before _ captures names)
  | plain more =>
      rw [Reading.openGroup, Reading.openGroup, verboseAfter, verboseAfter, hheaded.verbose_eq]
      exact .ok (hheaded.enter _ _)
  | capture name =>
      rw [Reading.openGroup, Reading.openGroup, hheaded.names_eq]
      split
      · exact .error _
      · cases hheaded with
        | outside hlevel verbose captures names =>
            exact .ok (enter (.outside hlevel verbose _ _) _ _)
        | inside haround level groups opening before verbose captures names =>
            exact .ok (enter (.inside haround level groups opening before verbose _ _) _ _)

theorem closeGroup (hheaded : Headed settings reading reading') :
    Paired (Headed settings) reading.closeGroup reading'.closeGroup := by
  cases hheaded with
  | outside => exact .error _
  | inside haround level groups opening before verbose captures names =>
      cases groups with
      | nil => exact .ok (.outside (haround.push _) before captures names)
      | cons group groups =>
          exact .ok (.inside haround _ groups opening before group.verbose captures names)

theorem branch (hheaded : Headed settings reading reading') :
    Headed settings { reading with level := reading.level.branch }
      { reading' with level := reading'.level.branch } := by
  cases hheaded with
  | outside hlevel verbose captures names => exact .outside hlevel.branch verbose captures names
  | inside haround level groups opening before verbose captures names =>
      exact .inside haround level.branch groups opening before verbose captures names

/-- At the front there is nothing to repeat, whether inline settings stand there or not. -/
theorem repeatLast (hheaded : Headed settings reading reading') (repetition : Repetition) :
    Paired (Headed settings) (reading.repeatLast repetition) (reading'.repeatLast repetition) := by
  cases hheaded with
  | outside hlevel verbose captures names =>
      cases hlevel with
      | first items =>
          cases items with
          | nil => exact .error _
          | cons item items =>
              cases item with
              | settings => exact .error _
              | _ => exact .ok (.outside (.first (_ :: items)) verbose captures names)
      | later branches first items =>
          cases items with
          | nil => exact .error _
          | cons item items =>
              cases item with
              | settings => exact .error _
              | _ =>
                  exact .ok (.outside (.later branches first (_ :: items)) verbose captures names)
  | inside haround level groups opening before verbose captures names =>
      obtain ⟨branches, items⟩ := level
      cases items with
      | nil => exact .error _
      | cons item items =>
          cases item with
          | settings => exact .error _
          | _ => exact .ok (.inside haround _ groups opening before verbose captures names)

/-- The readings behind a part of two patterns: one is headed and the same text is left. -/
def Behind (settings : FlagSettings) (next next' : Reading × List Char) : Prop :=
  Headed settings next.1 next'.1 ∧ next'.2 = next.2

theorem behind {result result' : Except SyntaxFault Reading}
    (hresult : Paired (Headed settings) result result') (after : List Char) :
    Paired (Behind settings) (result.map (·, after)) (result'.map (·, after)) :=
  hresult.map fun _ _ hnext => ⟨hnext, rfl⟩

/-- Each part is read alike, whether inline settings stand at the front or not. -/
theorem step (hheaded : Headed settings reading reading') (c : Char) (rest : List Char) :
    Paired (Behind settings) (reading.step c rest) (reading'.step c rest) := by
  have hverbose := hheaded.verbose_eq
  by_cases hc : c ∈ signs
  · simp only [signs, List.mem_cons, List.not_mem_nil, or_false] at hc
    rcases hc with rfl | rfl | rfl | rfl | rfl | rfl | rfl | rfl
    · rw [step_parenthesis, step_parenthesis, hverbose]
      cases readGroupHead reading.verbose rest with
      | error fault => exact .error fault
      | ok found => exact behind (hheaded.openGroup found.1) found.2
    · exact behind hheaded.closeGroup rest
    · exact .ok ⟨hheaded.branch, rfl⟩
    · rw [step_bracket, step_bracket, hverbose]
      cases readBracket reading.verbose rest with
      | error fault => exact .error fault
      | ok found => exact .ok ⟨hheaded.push _, rfl⟩
    · rw [step_backslash, step_backslash, hverbose]
      cases readSetPrimitive reading.verbose '\\' rest with
      | error fault => exact .error fault
      | ok found => exact .ok ⟨hheaded.push _, rfl⟩
    · exact .ok ⟨hheaded.push _, rfl⟩
    · exact .ok ⟨hheaded.push _, rfl⟩
    · exact .ok ⟨hheaded.push _, rfl⟩
  · rw [step_of_not_sign hc, step_of_not_sign hc, hverbose]
    cases readRepetition? reading.verbose c rest with
    | none => exact .ok ⟨hheaded.push _, rfl⟩
    | some result =>
        cases result with
        | error fault => exact .error fault
        | ok found => exact behind (hheaded.repeatLast found.1) found.2

theorem run_of_nil {text : List Char} (hheaded : Headed settings reading reading')
    (hspace : skipSpace reading.verbose text = []) :
    Paired (Node.Headed settings) (reading.run text) (reading'.run text) := by
  rw [Reading.run_of_nil hspace, Reading.run_of_nil (hheaded.verbose_eq ▸ hspace)]
  cases hheaded with
  | outside hlevel => exact .ok hlevel.node
  | inside haround level groups => cases groups <;> exact .error _

/-- A whole pattern is read alike, whether inline settings stand at the front or not. -/
theorem run (hheaded : Headed settings reading reading') (text : List Char) :
    Paired (Node.Headed settings) (reading.run text) (reading'.run text) := by
  induction hlength : text.length using Nat.strongRecOn generalizing reading reading' text with
  | ind length ih =>
      cases hspace : skipSpace reading.verbose text with
      | nil => exact run_of_nil hheaded hspace
      | cons c rest =>
          have hspace' : skipSpace reading'.verbose text = c :: rest :=
            hheaded.verbose_eq ▸ hspace
          have hstep := hheaded.step c rest
          generalize hresult : reading.step c rest = result at hstep
          generalize hresult' : reading'.step c rest = result' at hstep
          cases hstep with
          | error fault =>
              rw [run_of_error hspace hresult, run_of_error hspace' hresult']
              exact .error fault
          | @ok found found' hfound =>
              obtain ⟨next, after⟩ := found
              obtain ⟨next', after'⟩ := found'
              obtain ⟨hnext, rfl⟩ : Headed settings next next' ∧ after' = after := hfound
              rw [run_of_step hspace hresult, run_of_step hspace' hresult']
              have hshorter := length_behind_lt hspace hresult
              exact ih _ (hlength ▸ hshorter) hnext _ rfl

end Headed

end Reading

namespace Node

variable {settings : FlagSettings} {node node' : Node}

theorem depth_ofItems_settings (settings : FlagSettings) (items : List Node) :
    (ofItems items).depth ≤ (ofItems (.settings settings :: items)).depth ∧
      (ofItems (.settings settings :: items)).depth ≤ (ofItems items).depth + 1 := by
  rcases items with _ | ⟨first, _ | ⟨second, rest⟩⟩
  · exact ⟨Nat.le_refl _, Nat.zero_le _⟩
  · simp [ofItems, depth, depthAll]
  · simp [ofItems, depth, depthAll]

/-- Inline settings at the front nest a pattern one deeper at most. -/
theorem Headed.depth_le (hheaded : Headed settings node node') :
    node.depth ≤ node'.depth ∧ node'.depth ≤ node.depth + 1 := by
  cases hheaded with
  | intro first branches =>
      have hfirst := depth_ofItems_settings settings first
      cases branches with
      | nil => exact hfirst
      | cons second rest =>
          simp only [ofBranches, depth, depthAll]
          omega

end Node

namespace Regex

theorem ofNodes_settings (modes : Modes) (settings : FlagSettings) (nodes : List Node) :
    ofNodes modes (.settings settings :: nodes) =
      (ofNodes (modes.setAll settings) nodes).map (Prod.map (empty :: ·) id) := by
  rw [ofNodes, ofNode]
  change (ofNodes (modes.setAll settings) nodes >>= _) = _
  cases ofNodes (modes.setAll settings) nodes <;> rfl

/-- A branch means behind inline settings what it means under them. -/
theorem ofNode_ofItems_settings (modes : Modes) (settings : FlagSettings) (items : List Node) :
    ofNode modes (.ofItems (.settings settings :: items)) =
      ofNode (modes.setAll settings) (.ofItems items) := by
  rcases items with _ | ⟨first, _ | ⟨second, rest⟩⟩
  · rfl
  · -- An item that stood alone is in a row with the settings now, which comes to the item again.
    change ofNode modes (.concat [.settings settings, first]) = ofNode (modes.setAll settings) first
    rw [ofNode, ofNodes_settings, ofNodes]
    cases hfirst : ofNode (modes.setAll settings) first with
    | error fault => rfl
    | ok found =>
        obtain ⟨regex, after⟩ := found
        have hrow := row_empty_cons (simplified_ofNode first _ after regex hfirst)
        exact congrArg (fun row => Except.ok (row, after)) hrow
  · change ofNode modes (.concat (.settings settings :: first :: second :: rest)) =
      ofNode (modes.setAll settings) (.concat (first :: second :: rest))
    rw [ofNode, ofNode, ofNodes_settings]
    cases ofNodes (modes.setAll settings) (first :: second :: rest) <;> rfl

/-- A pattern means behind inline settings what it means under them, in all its branches. -/
theorem ofNode_headed {settings : FlagSettings} {node node' : Node}
    (hheaded : node.Headed settings node') (modes : Modes) :
    ofNode modes node' = ofNode (modes.setAll settings) node := by
  cases hheaded with
  | intro first branches =>
      have hfirst := ofNode_ofItems_settings modes settings first
      cases branches with
      | nil => exact hfirst
      | cons second rest =>
          change ofNode modes (.alternation (_ :: second :: rest)) =
            ofNode (modes.setAll settings) (.alternation (_ :: second :: rest))
          rw [ofNode, ofNode, ofNodes, ofNodes, hfirst]

end Regex

namespace Flags

/-- The flags but for those of `removed`. -/
def without (flags removed : Flags) : Flags :=
  ⟨flags.bits &&& ~~~removed.bits⟩

theorem contains_without {removed other : Flags} (flags : Flags)
    (hother : ~~~removed.bits &&& other.bits = other.bits) :
    (flags.without removed).contains other = flags.contains other := by
  rw [contains, contains, without, UInt32.and_assoc, hother]

theorem ofFlags_ignoreCase (flags : Flags) (unicode : Bool) :
    (Modes.ofFlags (flags.without .ignoreCase) unicode).setAll [(.ignoreCase, true)] =
      .ofFlags (flags ||| .ignoreCase) unicode := by
  have hwithout : (flags.without .ignoreCase).contains .newline = flags.contains .newline :=
    contains_without flags (by decide)
  have hadded : (flags ||| .ignoreCase).contains .newline = flags.contains .newline :=
    contains_or flags (by decide)
  have hself := contains_or_self flags .ignoreCase
  simp [Modes.ofFlags, Modes.setAll, Modes.set, hwithout, hadded, hself]

/-- The dot takes a line feed as well by default, so that the inline flag for it is turned off. -/
theorem ofFlags_newline (flags : Flags) (unicode : Bool) :
    (Modes.ofFlags (flags.without .newline) unicode).setAll
        [(.multiLine, true), (.dotAll, false)] =
      .ofFlags (flags ||| .newline) unicode := by
  have hwithout : (flags.without .newline).contains .ignoreCase = flags.contains .ignoreCase :=
    contains_without flags (by decide)
  have hadded : (flags ||| .newline).contains .ignoreCase = flags.contains .ignoreCase :=
    contains_or flags (by decide)
  have hself := contains_or_self flags .newline
  simp [Modes.ofFlags, Modes.setAll, Modes.set, hwithout, hadded, hself]

end Flags

/-- A compile flag and the inline flags that it stands for. -/
structure InlineForm where
  flag : Flags
  text : String
  settings : FlagSettings

namespace InlineForm

/-- Letters match both cases. -/
def ignoreCase : InlineForm :=
  ⟨.ignoreCase, "(?i)", [(.ignoreCase, true)]⟩

/-- Line anchors match at lines and the dot leaves out the line feed. -/
def newline : InlineForm :=
  ⟨.newline, "(?m-s)", [(.multiLine, true), (.dotAll, false)]⟩

/-- The compile flags that can be written inline. -/
def all : List InlineForm := [ignoreCase, newline]

variable {form : InlineForm}

theorem ofFlags_setAll (hform : form ∈ all) (flags : Flags) (unicode : Bool) :
    (Modes.ofFlags (flags.without form.flag) unicode).setAll form.settings =
      .ofFlags (flags ||| form.flag) unicode := by
  simp only [all, List.mem_cons, List.not_mem_nil, or_false] at hform
  rcases hform with rfl | rfl
  · exact flags.ofFlags_ignoreCase unicode
  · exact flags.ofFlags_newline unicode

theorem contains_enhanced (hform : form ∈ all) (flags : Flags) :
    (flags.without form.flag).contains .enhanced = (flags ||| form.flag).contains .enhanced := by
  have hapart : ∀ form ∈ all, form.flag.bits &&& Flags.enhanced.bits = 0 ∧
      ~~~form.flag.bits &&& Flags.enhanced.bits = Flags.enhanced.bits := by
    decide
  obtain ⟨hadded, hwithout⟩ := hapart form hform
  rw [Flags.contains_without flags hwithout, Flags.contains_or flags hadded]

theorem backslash_not_mem : ∀ form ∈ all, ascii '\\' ∉ Bytes.ofString form.text := by
  decide

/-- Shorthands are expanded behind the inline flags as they are without them. -/
theorem expanded_key (hform : form ∈ all) (flags : Flags) {text expanded : String}
    (hexpanded : Key.expanded ⟨flags ||| form.flag, text⟩ = .ok expanded) :
    Key.expanded ⟨flags.without form.flag, form.text ++ text⟩ = .ok (form.text ++ expanded) := by
  simp only [Key.expanded, contains_enhanced hform] at hexpanded ⊢
  split
  · next henhanced =>
    rw [if_pos henhanced] at hexpanded
    rw [Except.ok.inj hexpanded]
  · next henhanced =>
    rw [if_neg henhanced, Shorthand.expand_eq_ok_iff,
      Shorthand.foldl_apply_eq Shorthand.wellFormed_of_mem] at hexpanded
    rw [Shorthand.expand_eq_ok_iff, Shorthand.foldl_apply_eq Shorthand.wellFormed_of_mem,
      Bytes.ofString_append, onePass_append _ (backslash_not_mem form hform), hexpanded,
      Bytes.ofString_append]

/-- The inline flags are read as settings at the front. -/
theorem run_append (hform : form ∈ all) (text : List Char) :
    Reading.run {} (form.text.toList ++ text) =
      Reading.run (Reading.push {} (.settings form.settings)) text := by
  simp only [all, List.mem_cons, List.not_mem_nil, or_false] at hform
  rcases hform with rfl | rfl
  · exact Reading.run_of_step rfl rfl
  · exact Reading.run_of_step rfl rfl

/-- A text is read alike behind the inline flags. -/
theorem headed_run (hform : form ∈ all) (text : String) :
    Paired (Node.Headed form.settings) (Reading.run {} text.toList)
      (Reading.run {} (form.text ++ text).toList) := by
  have hfront : Reading.Headed form.settings {} (Reading.push {} (.settings form.settings)) :=
    .outside (.first []) false 0 []
  rw [String.toList_append, run_append hform]
  exact hfront.run text.toList

section Parse

variable {flags : Flags} {unicode : Bool} {text : String} {regex : Regex}

/-- What a text means behind the inline flags, it means under the compile flag. -/
theorem parse_flagged (hform : form ∈ all)
    (hparse : Regex.parse (form.text ++ text) (.ofFlags (flags.without form.flag) unicode) =
      .ok regex) :
    Regex.parse text (.ofFlags (flags ||| form.flag) unicode) = .ok regex := by
  obtain ⟨node', after, hnode', hmeaning⟩ := Regex.parse_eq_ok_iff.mp hparse
  obtain ⟨hrun', hdepth⟩ := Node.parse_eq_ok_iff.mp hnode'
  obtain ⟨node, hrun, hheaded⟩ := (headed_run hform text).exists_of_right hrun'
  have hnode : Node.parse text = .ok node :=
    Node.parse_eq_ok_iff.mpr ⟨hrun, hheaded.depth_le.1.trans hdepth⟩
  refine Regex.parse_eq_ok_iff.mpr ⟨node, after, hnode, ?_⟩
  rw [← ofFlags_setAll hform, ← Regex.ofNode_headed hheaded]
  exact hmeaning

/-- What a text that stays clear of the limit of nesting means under the compile flag, it means
behind the inline flags. -/
theorem parse_inline (hform : form ∈ all)
    (hparse : Regex.parse text (.ofFlags (flags ||| form.flag) unicode) = .ok regex)
    (hdepth : ∀ node, Node.parse text = .ok node → node.depth < Node.depthLimit) :
    Regex.parse (form.text ++ text) (.ofFlags (flags.without form.flag) unicode) = .ok regex := by
  obtain ⟨node, after, hnode, hmeaning⟩ := Regex.parse_eq_ok_iff.mp hparse
  obtain ⟨hrun, _⟩ := Node.parse_eq_ok_iff.mp hnode
  obtain ⟨node', hrun', hheaded⟩ := (headed_run hform text).exists_of_left hrun
  have hnode' : Node.parse (form.text ++ text) = .ok node' :=
    Node.parse_eq_ok_iff.mpr ⟨hrun', hheaded.depth_le.2.trans (hdepth node hnode)⟩
  refine Regex.parse_eq_ok_iff.mpr ⟨node', after, hnode', ?_⟩
  rw [Regex.ofNode_headed hheaded, ofFlags_setAll hform]
  exact hmeaning

end Parse

end InlineForm

namespace Store

variable {options : SearchOptions} {capacity : Option Nat} {keepsFailures : Bool}
  {operations : List Operation} {key : Key} {text : String} {program : Program}

/-- The programs that a look-up gives are those of the readings of the expanded text. -/
theorem exists_lookedUp_iff (hexpanded : key.expanded = .ok text) :
    (∃ compiled, lookedUp options capacity keepsFailures operations key = .ok compiled ∧
        compiled.program = program) ↔
      ∃ regex, Regex.parse text (.ofFlags key.flags options.unicode) = .ok regex ∧
        options.program regex = program := by
  obtain ⟨before, hengine, hresult⟩ :=
    lookup_run options.engine capacity keepsFailures operations key
  rw [lookedUp, hresult]
  constructor
  · rintro ⟨compiled, hcompiled, rfl⟩
    obtain ⟨regex, htext, hparse, heq⟩ := exists_of_compiled hengine hcompiled
    obtain rfl := Except.ok.inj (hexpanded.symm.trans htext)
    exact ⟨regex, hparse, (congrArg Compiled.program heq).symm⟩
  · rintro ⟨regex, hparse, rfl⟩
    exact ⟨_, compiled_of_parse hengine hexpanded hparse, rfl⟩

/-- Whatever was done to stores of the default engine before, a pattern searches under a compile
flag as it does without it behind the inline flags, if it compiles both ways.  It compiles under the
flag if it does so behind the inline flags, and the other way round unless it nests as deep as a
pattern may. -/
theorem sameSearches_of_inline (options : SearchOptions) (capacity : Option Nat)
    (keepsFailures : Bool) (operations operations' : List Operation) (flags : Flags) (text : String)
    {form : InlineForm} (hform : form ∈ InlineForm.all) :
    (∀ flagged inline,
      lookedUp options capacity keepsFailures operations ⟨flags ||| form.flag, text⟩ =
        .ok flagged →
      lookedUp options capacity keepsFailures operations'
        ⟨flags.without form.flag, form.text ++ text⟩ = .ok inline →
      inline.program.groupLen = flagged.program.groupLen ∧
        ∀ subject want,
          inline.program.execute subject want = flagged.program.execute subject want) ∧
    ((∃ inline, lookedUp options capacity keepsFailures operations'
        ⟨flags.without form.flag, form.text ++ text⟩ = .ok inline) →
      ∃ flagged, lookedUp options capacity keepsFailures operations ⟨flags ||| form.flag, text⟩ =
        .ok flagged) ∧
    ((∃ flagged, lookedUp options capacity keepsFailures operations ⟨flags ||| form.flag, text⟩ =
        .ok flagged) →
      (∀ expanded node, Key.expanded ⟨flags ||| form.flag, text⟩ = .ok expanded →
        Node.parse expanded = .ok node → node.depth < Node.depthLimit) →
      ∃ inline, lookedUp options capacity keepsFailures operations'
        ⟨flags.without form.flag, form.text ++ text⟩ = .ok inline) := by
  obtain ⟨expanded, hexpanded, _⟩ := Key.exists_expanded ⟨flags ||| form.flag, text⟩
  have hinline := InlineForm.expanded_key hform flags hexpanded
  refine ⟨?_, ?_, ?_⟩
  · intro flagged inline hflagged hinlined
    obtain ⟨regex, hparse, hprogram⟩ := (exists_lookedUp_iff hexpanded).mp ⟨flagged, hflagged, rfl⟩
    obtain ⟨regex', hparse', hprogram'⟩ :=
      (exists_lookedUp_iff hinline).mp ⟨inline, hinlined, rfl⟩
    obtain rfl := Except.ok.inj (hparse.symm.trans (InlineForm.parse_flagged hform hparse'))
    rw [← hprogram, ← hprogram']
    exact ⟨rfl, fun _ _ => rfl⟩
  · rintro ⟨inline, hinlined⟩
    obtain ⟨regex, hparse, _⟩ := (exists_lookedUp_iff hinline).mp ⟨inline, hinlined, rfl⟩
    obtain ⟨flagged, hflagged, _⟩ := (exists_lookedUp_iff hexpanded).mpr
      ⟨regex, InlineForm.parse_flagged hform hparse, rfl⟩
    exact ⟨flagged, hflagged⟩
  · rintro ⟨flagged, hflagged⟩ hdepth
    obtain ⟨regex, hparse, _⟩ := (exists_lookedUp_iff hexpanded).mp ⟨flagged, hflagged, rfl⟩
    obtain ⟨inline, hinlined, _⟩ := (exists_lookedUp_iff hinline).mpr
      ⟨regex, InlineForm.parse_inline hform hparse (hdepth expanded · hexpanded), rfl⟩
    exact ⟨inline, hinlined⟩

section Branches

/-- A digit, or behind a flag of its own a letter that is captured. -/
def digitOrLetter : Node :=
  .alternation [.bracket false (.namedClass .digit false),
    .concat [.settings [(.ignoreCase, false)], .group (.capture 1) (.literal ⟨'b', false⟩)]]

/-- Such a pattern as far as the flag of its second branch. -/
def inSecondBranch : Reading :=
  ⟨⟨[.bracket false (.namedClass .digit false)], [.settings [(.ignoreCase, false)]]⟩, [], false, 0,
    []⟩

theorem sameSearches_of_inline_branches :
    ∃ flagged inline,
      lookedUp {} none false [] ⟨.extended ||| .ignoreCase, "\\d|(?-i)(b)"⟩ = .ok flagged ∧
      lookedUp {} none false [.lookup ⟨.extended ||| .ignoreCase, "\\d|(?-i)(b)"⟩]
        ⟨Flags.extended.without .ignoreCase, "(?i)" ++ "\\d|(?-i)(b)"⟩ = .ok inline ∧
      1 < inline.program.groupLen ∧
      ∀ subject want,
        inline.program.execute subject want = flagged.program.execute subject want := by
  have hexpanded : Key.expanded ⟨.extended ||| .ignoreCase, "\\d|(?-i)(b)"⟩ =
      .ok "[[:digit:]]|(?-i)(b)" := by
    have hpass := Shorthand.foldl_apply_ofString "\\d|(?-i)(b)"
    exact (if_neg Bool.false_ne_true).trans (Shorthand.expand_eq_ok_iff.mpr hpass)
  have hbracket : Reading.step {} '[' "[:digit:]]|(?-i)(b)".toList =
      .ok (Reading.push {} (.bracket false (.namedClass .digit false)), "|(?-i)(b)".toList) := by
    cbv
  have hflag : Reading.run {} "[[:digit:]]|(?-i)(b)".toList = inSecondBranch.run "(b)".toList :=
    calc
      _ = _ := Reading.run_of_step rfl hbracket
      _ = Reading.run ⟨⟨[.bracket false (.namedClass .digit false)], []⟩, [], false, 0, []⟩
          "(?-i)(b)".toList := Reading.run_of_step rfl rfl
      _ = _ := Reading.run_of_step rfl rfl
  have hrun : Reading.run {} "[[:digit:]]|(?-i)(b)".toList = .ok digitOrLetter := by
    rw [hflag]
    cbv
  have hnode : Node.parse "[[:digit:]]|(?-i)(b)" = .ok digitOrLetter :=
    Node.parse_eq_ok_iff.mpr ⟨hrun, by decide⟩
  obtain ⟨regex, hparse⟩ : ∃ regex, Regex.parse "[[:digit:]]|(?-i)(b)"
      (.ofFlags (.extended ||| .ignoreCase) false) = .ok regex := by
    rw [Regex.parse, hnode]
    exact ⟨_, rfl⟩
  have hlast : 1 ≤ regex.lastCapture := by
    apply regex.le_lastCapture
    rw [Regex.captures_of_parse hnode hparse]
    exact List.mem_singleton_self 1
  obtain ⟨flagged, hflagged, hprogram⟩ : ∃ flagged,
      lookedUp {} none false [] ⟨.extended ||| .ignoreCase, "\\d|(?-i)(b)"⟩ = .ok flagged ∧
        flagged.program = SearchOptions.program {} regex :=
    (exists_lookedUp_iff hexpanded).mpr ⟨regex, hparse, rfl⟩
  have hdepth : ∀ expanded node,
      Key.expanded ⟨.extended ||| .ignoreCase, "\\d|(?-i)(b)"⟩ = .ok expanded →
      Node.parse expanded = .ok node → node.depth < Node.depthLimit := by
    intro expanded node htext hparsed
    obtain rfl := Except.ok.inj (hexpanded.symm.trans htext)
    obtain rfl := Except.ok.inj (hnode.symm.trans hparsed)
    decide
  obtain ⟨hsame, _, hcompiles⟩ := sameSearches_of_inline {} none false []
    [.lookup ⟨.extended ||| .ignoreCase, "\\d|(?-i)(b)"⟩] .extended "\\d|(?-i)(b)"
    (List.mem_cons_self : InlineForm.ignoreCase ∈ InlineForm.all)
  obtain ⟨inline, hinline⟩ := hcompiles ⟨flagged, hflagged⟩ hdepth
  obtain ⟨hgroups, hexecute⟩ := hsame flagged inline hflagged hinline
  refine ⟨flagged, inline, hflagged, hinline, ?_, hexecute⟩
  rw [hgroups, hprogram]
  exact Nat.lt_succ_of_le hlast

end Branches

end Store

end BytePattern
