/-
Where the rule of a shorthand matches: an odd run of backslashes before the letter, at the start of
the subject or behind a byte that is no backslash.
-/
import BytePattern.Proofs.Soundness
import BytePattern.Shorthand

namespace BytePattern

namespace Shorthand

/-- Every subject is a run of backslashes and what follows it. -/
theorem exists_run (subject : Bytes) :
    ∃ run rest, subject = List.replicate run (ascii '\\') ++ rest ∧
      rest.head? ≠ some (ascii '\\') := by
  induction subject with
  | nil => exact ⟨0, [], rfl, by simp⟩
  | cons first subject ih =>
      by_cases hfirst : first = ascii '\\'
      · obtain ⟨run, rest, rfl, hrest⟩ := ih
        exact ⟨run + 1, rest, by rw [hfirst, List.replicate_succ, List.cons_append], hrest⟩
      · exact ⟨0, first :: subject, rfl, by simpa using hfirst⟩

theorem liveRun_run {letter : UInt8} (run : Nat) {rest : Bytes}
    (hrest : rest.head? ≠ some (ascii '\\')) :
    liveRun letter (List.replicate run (ascii '\\') ++ rest) =
      if run % 2 = 1 ∧ rest.head? = some letter then some run else none := by
  have hstop : rest.takeWhile (· == ascii '\\') = [] := by
    cases rest with
    | nil => rfl
    | cons first rest =>
        have hfirst : (first == ascii '\\') = false := by simpa using hrest
        rw [List.takeWhile_cons, hfirst]
        rfl
  have htake : (List.replicate run (ascii '\\') ++ rest).takeWhile (· == ascii '\\') =
      List.replicate run (ascii '\\') := by
    rw [List.takeWhile_append_of_pos (by simp), hstop, List.append_nil]
  simp only [liveRun, htake, List.length_replicate, List.drop_left' (List.length_replicate)]

/-- Without a backslash at the front there is no run. -/
theorem liveRun_other {letter : UInt8} {subject : Bytes}
    (hother : subject.head? ≠ some (ascii '\\')) : liveRun letter subject = none :=
  (liveRun_run 0 hother).trans (if_neg nofun)

theorem liveRun_single {letter : UInt8} {rest : Bytes} (hrest : rest.head? ≠ some (ascii '\\')) :
    liveRun letter (ascii '\\' :: rest) = if rest.head? = some letter then some 1 else none := by
  have hlive : liveRun letter (List.replicate 1 (ascii '\\') ++ rest) = _ := liveRun_run 1 hrest
  simpa using hlive

/-- Two backslashes more are a longer run of the same parity. -/
theorem liveRun_pair (letter : UInt8) (rest : Bytes) :
    liveRun letter (ascii '\\' :: ascii '\\' :: rest) = (liveRun letter rest).map (· + 2) := by
  obtain ⟨run, rest, rfl, hrest⟩ := exists_run rest
  have hlonger : liveRun letter (List.replicate (run + 2) (ascii '\\') ++ rest) = _ :=
    liveRun_run (run + 2) hrest
  rw [List.replicate_succ, List.replicate_succ, Nat.add_mod_right] at hlonger
  rw [← List.cons_append, ← List.cons_append, hlonger, liveRun_run run hrest]
  split <;> rfl

theorem pos_of_liveRun {letter : UInt8} {subject : Bytes} {run : Nat}
    (hlive : liveRun letter subject = some run) : 0 < run := by
  obtain ⟨length, rest, rfl, hrest⟩ := exists_run subject
  rw [liveRun_run length hrest] at hlive
  obtain ⟨⟨hodd, _⟩, heq⟩ := Option.ite_none_right_eq_some.mp hlive
  obtain rfl := Option.some.inj heq
  omega

/-- A live run is pairs of backslashes, and one more before the letter. -/
theorem liveRun_eq_some_iff {letter : UInt8} {subject : Bytes} {run : Nat}
    (hletter : letter ≠ ascii '\\') :
    liveRun letter subject = some run ↔
      ∃ pairs rest, run = 2 * pairs + 1 ∧
        subject = List.replicate (2 * pairs) (ascii '\\') ++ ascii '\\' :: letter :: rest := by
  have hodd (pairs : Nat) (rest : Bytes) :
      List.replicate (2 * pairs) (ascii '\\') ++ ascii '\\' :: letter :: rest =
        List.replicate (2 * pairs + 1) (ascii '\\') ++ letter :: rest := by
    rw [List.replicate_succ', List.append_assoc, List.singleton_append]
  constructor
  · intro hlive
    obtain ⟨length, rest, rfl, hrest⟩ := exists_run subject
    rw [liveRun_run length hrest] at hlive
    simp only [Option.ite_none_right_eq_some, Option.some.injEq] at hlive
    obtain ⟨⟨hlength, hhead⟩, rfl⟩ := hlive
    obtain ⟨tail, rfl⟩ := List.head?_eq_some_iff.mp hhead
    have hpairs : length = 2 * (length / 2) + 1 := by omega
    exact ⟨length / 2, tail, hpairs, by rw [hodd, ← hpairs]⟩
  · rintro ⟨pairs, rest, rfl, rfl⟩
    rw [hodd, liveRun_run _ (by simpa using hletter), if_pos ⟨by omega, rfl⟩]

/-- Whether a rule may match here: at the start, or behind a byte that is no backslash. -/
def Opens (atStart : Bool) (before : Bytes) : Prop :=
  (before = [] ∧ atStart = true) ∨ ∃ byte, before = [byte] ∧ byte ≠ ascii '\\'

/-- A rule matches where it may and a live run follows.  Its first group holds all but the last
backslash and the letter. -/
theorem matchAt_eq_some_iff {letter : UInt8} {atStart : Bool} {subject : Bytes} {caps : Captures}
    (hletter : letter ≠ ascii '\\') :
    matchAt letter atStart subject = some caps ↔
      ∃ before pairs rest, Opens atStart before ∧
        subject = before ++ (List.replicate (2 * pairs) (ascii '\\') ++
          ascii '\\' :: letter :: rest) ∧
        caps = captures before.length (2 * pairs + 1) := by
  constructor
  · intro hmatch
    simp only [matchAt, Option.orElse_eq_orElse, Option.orElse_eq_or,
      Option.or_eq_some_iff] at hmatch
    rcases hmatch with hhere | ⟨_, hnext⟩
    · cases atStart with
      | false => simp at hhere
      | true =>
          obtain ⟨run, hrun, rfl⟩ := Option.map_eq_some_iff.mp hhere
          obtain ⟨pairs, rest, rfl, rfl⟩ := (liveRun_eq_some_iff hletter).mp hrun
          exact ⟨[], pairs, rest, Or.inl ⟨rfl, rfl⟩, rfl, rfl⟩
    · cases subject with
      | nil => simp at hnext
      | cons first subject =>
          simp only [Option.ite_none_left_eq_some] at hnext
          obtain ⟨run, hrun, rfl⟩ := Option.map_eq_some_iff.mp hnext.2
          obtain ⟨pairs, rest, rfl, rfl⟩ := (liveRun_eq_some_iff hletter).mp hrun
          exact ⟨[first], pairs, rest, Or.inr ⟨first, rfl, hnext.1⟩, rfl, rfl⟩
  · rintro ⟨before, pairs, rest, hopens, rfl, rfl⟩
    have hrun := (liveRun_eq_some_iff hletter).mpr ⟨pairs, rest, rfl, rfl⟩
    rcases hopens with ⟨rfl, rfl⟩ | ⟨byte, rfl, hbyte⟩
    · simp only [matchAt, List.nil_append, hrun]
      rfl
    · have hhere : liveRun letter (byte :: (List.replicate (2 * pairs) (ascii '\\') ++
          ascii '\\' :: letter :: rest)) = none :=
        (liveRun_run 0 (by simpa using hbyte)).trans (if_neg (by simp))
      simp only [matchAt, List.singleton_append, hhere, if_neg hbyte, hrun]
      cases atStart <;> rfl

theorem groupLen_of_matchAt {letter : UInt8} {atStart : Bool} {subject : Bytes} {caps : Captures}
    (hletter : letter ≠ ascii '\\') (hmatch : matchAt letter atStart subject = some caps) :
    caps.groupLen = 2 := by
  obtain ⟨before, pairs, rest, _, _, rfl⟩ := (matchAt_eq_some_iff hletter).mp hmatch
  rfl

theorem pattern_contained (shorthand : Shorthand)
    (hletter : ascii shorthand.letter ≠ ascii '\\') : shorthand.pattern.Contained := by
  intro compiled hcompiled
  obtain rfl := Option.some.inj hcompiled
  apply Program.leftmost_contained
  intro atStart subject caps hmatch
  obtain ⟨before, pairs, rest, _, rfl, rfl⟩ := (matchAt_eq_some_iff hletter).mp hmatch
  constructor
  · refine ⟨_, rfl, Nat.zero_le _, ?_⟩
    simp only [List.length_append, List.length_replicate, List.length_cons]
    omega
  intro index span hspan
  match index with
  | 0 =>
      obtain rfl := Option.some.inj hspan
      exact ⟨Nat.le_refl _, Nat.zero_le _, Nat.le_refl _⟩
  | 1 =>
      obtain rfl := Option.some.inj hspan
      refine ⟨Nat.zero_le _, Nat.zero_le _, ?_⟩
      exact Nat.le_trans (Nat.sub_le _ 1) (Nat.le_succ _)
  | index + 2 => contradiction

theorem pattern_sound (shorthand : Shorthand) (hletter : ascii shorthand.letter ≠ ascii '\\') :
    shorthand.pattern.Sound :=
  (shorthand.pattern_contained hletter).sound

end Shorthand

end BytePattern
