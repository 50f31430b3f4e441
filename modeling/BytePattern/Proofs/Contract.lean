/-
What is relied on of a program: how its captures lie, and that it answers alike however many groups
are wanted.  The default engine compiles patterns to such programs.
-/
import BytePattern.Proofs.Searching

namespace BytePattern

/-- What all other parts rely on. -/
structure Program.Contract (program : Program) : Prop where
  groupLen_pos : 1 ≤ program.groupLen
  groupLen_eq : ∀ subject want caps, program.execute subject want = .ok (some caps) →
    caps.groupLen = program.groupLen
  /-- The whole match lies in the subject, and every group that is set lies in the whole match. -/
  inside : ∀ subject want caps, program.execute subject want = .ok (some caps) →
    caps.Inside subject.length
  unwanted : ∀ subject want caps, program.execute subject want = .ok (some caps) →
    ∀ index, max 1 want ≤ index → caps.group index = none
  /-- The groups that are wanted are found like all groups. -/
  wanted : ∀ subject, ∀ want ≤ everyGroup, ∀ caps,
    program.execute subject want = .ok (some caps) →
    ∃ all, program.execute subject everyGroup = .ok (some all) ∧
      ∀ index < max 1 want, caps.group index = all.group index
  missed : ∀ subject want want', program.execute subject want = .ok none →
    program.execute subject want' = .ok none
  failed : ∀ subject want want' error, program.execute subject want = .error error →
    program.execute subject want' = .error error

namespace SearchOptions

variable {options : SearchOptions} {regex : Regex} {subject : Bytes} {want : Nat}

theorem execute_eq_error {error : ExecError} :
    (options.program regex).execute subject want = .error error ↔
      options.refuses (stateCount (Code.whole regex).toArray) subject.length = true ∧
        error = .tooLong subject.length := by
  rw [program_execute]
  split
  · next hrefused => simp [hrefused, eq_comm]
  · next hrefused => simp [hrefused]

theorem execute_eq_none :
    (options.program regex).execute subject want = .ok none ↔
      options.refuses (stateCount (Code.whole regex).toArray) subject.length = false ∧
        regex.leftmost? subject = none := by
  rw [program_execute]
  split
  · next hrefused => simp [hrefused]
  · next hrefused => simp [hrefused]

theorem execute_eq_some {caps : Captures} :
    (options.program regex).execute subject want = .ok (some caps) ↔
      options.refuses (stateCount (Code.whole regex).toArray) subject.length = false ∧
        ∃ all, regex.leftmost? subject = some all ∧ all.truncate (max 1 want) = caps := by
  rw [program_execute]
  split
  · next hrefused => simp [hrefused]
  · next hrefused => simp [hrefused]

theorem program_contract (options : SearchOptions) (regex : Regex) :
    (options.program regex).Contract where
  groupLen_pos := Nat.succ_pos _
  groupLen_eq := by
    intro subject want caps hexecute
    obtain ⟨_, all, hall, rfl⟩ := execute_eq_some.mp hexecute
    rw [Captures.groupLen_truncate]
    exact (Regex.leftmost?_inside hall).1
  inside := by
    intro subject want caps hexecute
    obtain ⟨_, all, hall, rfl⟩ := execute_eq_some.mp hexecute
    exact (Regex.leftmost?_inside hall).2.truncate (by omega)
  unwanted := by
    intro subject want caps hexecute index hindex
    obtain ⟨_, all, _, rfl⟩ := execute_eq_some.mp hexecute
    rw [Captures.group_truncate, if_neg (by omega)]
  wanted := by
    intro subject want hwant caps hexecute
    obtain ⟨hrefused, all, hall, rfl⟩ := execute_eq_some.mp hexecute
    refine ⟨all.truncate (max 1 everyGroup), execute_eq_some.mpr ⟨hrefused, all, hall, rfl⟩, ?_⟩
    intro index hindex
    have hevery : index < max 1 everyGroup := by omega
    rw [Captures.group_truncate, Captures.group_truncate, if_pos hindex, if_pos hevery]
  missed := by
    intro subject want want' hexecute
    exact execute_eq_none.mpr (execute_eq_none.mp hexecute)
  failed := by
    intro subject want want' error hexecute
    exact execute_eq_error.mpr (execute_eq_error.mp hexecute)

/-- Nothing that the default engine finds ever wraps. -/
theorem program_contained (options : SearchOptions) (regex : Regex) :
    (options.program regex).Contained :=
  (options.program_contract regex).inside

theorem exists_of_compile {request : Request} {program : Program}
    (hcompile : options.compile request = .ok program) :
    ∃ regex, Regex.parse request.text (.ofFlags request.flags options.unicode) = .ok regex ∧
      program = options.program regex := by
  rw [compile] at hcompile
  split at hcompile
  · next regex hparse => exact ⟨regex, hparse, (Except.ok.inj hcompile).symm⟩
  · contradiction

/-- Whatever the default engine compiles can be relied on, under all options. -/
theorem contract_of_compile (options : SearchOptions) (request : Request) {program : Program}
    (hcompile : options.compile request = .ok program) : program.Contract := by
  obtain ⟨regex, _, rfl⟩ := exists_of_compile hcompile
  exact options.program_contract regex

/-- A choice between groups inside a group. -/
def branching : Regex :=
  .concat [.capture 1 (.alternation [.literal [97], .concat [.literal [98],
    .capture 2 (.alternation [.capture 3 (.literal [99]), .empty])]]), .literal [100]]

/-- Its pattern, taken apart. -/
def branchingNode : Node :=
  .concat [.group (.capture 1) (.alternation [.literal ⟨'a', false⟩, .concat [.literal ⟨'b', false⟩,
      .group (.capture 2) (.alternation [.group (.capture 3) (.literal ⟨'c', false⟩), .empty])]]),
    .literal ⟨'d', false⟩]

theorem contract_of_compile_branching :
    ∃ program, ({} : SearchOptions).compile ⟨"(a|b((c)|))d", .extended⟩ = .ok program ∧
      program.Contract ∧
      program.execute [97, 98, 100] everyGroup =
        .ok (some ⟨[some ⟨1, 3⟩, some ⟨1, 2⟩, some ⟨2, 2⟩, none]⟩) ∧
      program.execute [97, 98, 100] 2 =
        .ok (some ⟨[some ⟨1, 3⟩, some ⟨1, 2⟩, none, none]⟩) := by
  have hparse : Regex.parse "(a|b((c)|))d" (.ofFlags .extended false) = .ok branching := by
    have hnode : Node.parse "(a|b((c)|))d" = .ok branchingNode := by
      cbv
    rw [Regex.parse, hnode]
    rfl
  have hcompile : ({} : SearchOptions).compile ⟨"(a|b((c)|))d", .extended⟩ =
      .ok (({} : SearchOptions).program branching) := by
    rw [compile, hparse]
  refine ⟨_, hcompile, contract_of_compile _ _ hcompile, ?_, ?_⟩
  · cbv
  · cbv

end SearchOptions

end BytePattern
