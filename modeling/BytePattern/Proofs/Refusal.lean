/-
The limits of the default engine.  Whatever they are, a search either finds what it finds under the
limits that are set by default, where none is refused, or it is refused.
-/
import BytePattern.Proofs.CutOff
import Mathlib.Algebra.Group.Nat.Defs

namespace BytePattern

namespace SearchOptions

/-- The options with every limit as it is set by default. -/
def withDefaultLimits (options : SearchOptions) : SearchOptions :=
  { unicode := options.unicode }

/-- How many states the automaton of a pattern can have: they are numbered with 31 bits. -/
def stateLimit : Nat := 2 ^ 31 - 1

theorem refuses_withDefaultLimits (options : SearchOptions) {states : Nat}
    (hstates : states ≤ stateLimit) (length : Nat) :
    options.withDefaultLimits.refuses states length = false := by
  by_cases hlength : length ≤ 4096
  · have hle : states * (length + 1) ≤ stateLimit * 4097 :=
      Nat.mul_le_mul hstates (Nat.succ_le_succ hlength)
    have hroom : stateLimit * 4097 ≤ 8 * options.withDefaultLimits.visitedCapacity :=
      show stateLimit * 4097 ≤ 8 * ({} : SearchOptions).visitedCapacity by decide
    rw [refuses, decide_eq_false (Nat.not_lt.mpr (Nat.le_trans hle hroom)), Bool.and_false]
  · rw [refuses, decide_eq_false (by exact hlength), Bool.false_and]

section Program

variable (options : SearchOptions) {regex : Regex}

theorem program_of_refused {subject : Bytes} (want : Nat)
    (hrefused : options.refuses (stateCount (Code.whole regex).toArray) subject.length = true) :
    (options.program regex).execute subject want = .error (.tooLong subject.length) := by
  rw [program_execute, if_pos hrefused]

theorem program_of_not_refused {subject : Bytes} (want : Nat)
    (hrefused : options.refuses (stateCount (Code.whole regex).toArray) subject.length = false) :
    (options.program regex).execute subject want =
      .ok ((regex.leftmost? subject).map (·.truncate (max 1 want))) := by
  rw [program_execute, if_neg (Bool.eq_false_iff.mp hrefused)]

/-- Under the default limits no search of an automaton is refused. -/
theorem program_unfailing (hstates : stateCount (Code.whole regex).toArray ≤ stateLimit) :
    (options.withDefaultLimits.program regex).Unfailing := by
  intro subject want
  exact ⟨_, program_of_not_refused _ want (refuses_withDefaultLimits options hstates _)⟩

/-- A search that is not refused finds the same under all limits. -/
theorem program_falters (hunfailing : (options.withDefaultLimits.program regex).Unfailing) :
    (options.program regex).Falters (options.withDefaultLimits.program regex) := by
  intro subject want
  cases hrefused : options.refuses (stateCount (Code.whole regex).toArray) subject.length with
  | true => exact Or.inr ⟨_, options.program_of_refused want hrefused⟩
  | false =>
      -- What the default limits refuse need not be refused here, but nothing is refused by them.
      cases hdefault : options.withDefaultLimits.refuses (stateCount (Code.whole regex).toArray)
        subject.length with
      | true =>
          obtain ⟨found, hfound⟩ := hunfailing subject want
          rw [program_of_refused _ want hdefault] at hfound
          contradiction
      | false =>
          rw [program_of_not_refused _ want hrefused, program_of_not_refused _ want hdefault]
          exact Or.inl rfl

end Program

theorem compile_of_parse (options : SearchOptions) {request : Request} {regex : Regex}
    (hparse : Regex.parse request.text (.ofFlags request.flags options.unicode) = .ok regex) :
    options.compile request = .ok (options.program regex) := by
  rw [compile, hparse]

end SearchOptions

namespace Pattern

/-- A program that falters cuts the operations on a haystack off cleanly.  A program of the default
engine falters like that whatever its limits are, beside one with the limits set by default. -/
theorem cutOff_of_falters :
    (∀ (pattern : Pattern) program haystack, pattern.Sound → pattern.Falters program →
      pattern.CutOff (pattern.withProgram program) haystack) ∧
      ∀ (options : SearchOptions) (request : Request) (regex : Regex),
        Regex.parse request.text (.ofFlags request.flags options.unicode) = .ok regex →
        ∃ program whole, options.compile request = .ok program ∧
          options.withDefaultLimits.compile request = .ok whole ∧
          (SearchOptions.stateCount (Code.whole regex).toArray ≤ SearchOptions.stateLimit →
            whole.Unfailing) ∧
          (whole.Unfailing → ∀ (pattern : Pattern) haystack,
            (∀ compiled, pattern.compiled = some compiled → compiled.program = whole) →
            pattern.CutOff (pattern.withProgram program) haystack) := by
  refine ⟨fun pattern program haystack hsound hfalters =>
    cutOff_withProgram hsound hfalters haystack, ?_⟩
  intro options request regex hparse
  refine ⟨options.program regex, options.withDefaultLimits.program regex,
    options.compile_of_parse hparse, options.withDefaultLimits.compile_of_parse hparse,
    options.program_unfailing, ?_⟩
  intro hunfailing pattern haystack hwhole
  have hsound : pattern.Sound := by
    intro compiled hcompiled
    rw [hwhole compiled hcompiled]
    exact options.withDefaultLimits.program_sound regex
  have hfalters : pattern.Falters (options.program regex) := by
    intro compiled hcompiled
    rw [hwhole compiled hcompiled]
    exact options.program_falters hunfailing
  exact cutOff_withProgram hsound hfalters haystack

/-- The program of references, tired by subjects of two bytes and less. -/
def tired : Program where
  groupLen := 1
  execute := fun subject want =>
    if subject.length ≤ 2 then .error (.tooLong subject.length)
    else Reference.program.execute subject want

theorem tired_falters : Reference.pattern.Falters tired := by
  intro compiled hcompiled subject want
  obtain rfl := Option.some.inj hcompiled
  by_cases hlength : subject.length ≤ 2
  · exact Or.inr ⟨_, if_pos hlength⟩
  · exact Or.inl (if_neg hlength)

/-- Options under which subjects of one byte are refused and longer ones are not. -/
def cramped : SearchOptions where
  visitedCapacity := 1
  backtrackLimit := 1

theorem cutOff_of_falters_tired :
    Reference.pattern.Sound ∧ Reference.pattern.Falters tired ∧
      Reference.pattern.CutOff (Reference.pattern.withProgram tired) (Bytes.ofString "$1\\$") ∧
      Regex.parse "a" (.ofFlags .extended cramped.unicode) = .ok (.literal [97]) ∧
      ∃ program whole, cramped.compile ⟨"a", .extended⟩ = .ok program ∧
        cramped.withDefaultLimits.compile ⟨"a", .extended⟩ = .ok whole ∧ whole.Unfailing ∧
        CutOff ⟨"a", .extended, some ⟨whole, [], "a"⟩⟩ ⟨"a", .extended, some ⟨program, [], "a"⟩⟩
          (Bytes.ofString "aa") := by
  have hparse : Regex.parse "a" (.ofFlags .extended cramped.unicode) = .ok (.literal [97]) := by
    cbv
  have hstates : SearchOptions.stateCount (Code.whole (.literal [97])).toArray ≤
      SearchOptions.stateLimit := by
    decide
  obtain ⟨program, whole, hprogram, hwhole, hunfailing, hcutOff⟩ :=
    cutOff_of_falters.2 cramped ⟨"a", .extended⟩ (.literal [97]) hparse
  have hreferences :=
    cutOff_of_falters.1 _ _ (Bytes.ofString "$1\\$") Reference.pattern_sound tired_falters
  refine ⟨Reference.pattern_sound, tired_falters, hreferences, hparse, program, whole, hprogram,
    hwhole, hunfailing hstates, ?_⟩
  refine hcutOff (hunfailing hstates) ⟨"a", .extended, some ⟨whole, [], "a"⟩⟩ _ ?_
  intro compiled hcompiled
  obtain rfl := Option.some.inj hcompiled
  rfl

end Pattern

end BytePattern
