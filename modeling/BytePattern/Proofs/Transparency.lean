/-
A store of an engine whose answers do not depend on earlier requests answers every key as a fresh
store does.  Its capacity, what it does with failures and what was done to it before do not show.
-/
import BytePattern.Proofs.Keeping

namespace BytePattern

/-- What an engine that has had no request makes of a key. -/
def Engine.answer (engine : Engine) (key : Key) : Except CompileError Compiled :=
  match key.expanded with
  | .error error => .error error
  | .ok text =>
    (engine.compile [] ⟨text, key.flags⟩).map fun program =>
      ⟨program, Compiled.groupsOf text key.flags program.groupLen, text⟩

namespace Store

/-- No look-up tells two stores apart.  They give the same errors, and otherwise patterns with the
same text, groups and program, which no operation tells apart. -/
structure SameAnswers (store store' : Store) : Prop where
  result : ∀ key,
    (store.lookup key).compilation.result = (store'.lookup key).compilation.result
  pattern : ∀ key, (store.lookup key).pattern key = (store'.lookup key).pattern key
  pattern? : ∀ key, (store.lookup key).pattern? key = (store'.lookup key).pattern? key
  /-- An expression is refused by both for the same reason, or gives the same substitution. -/
  substitution? : ∀ text,
    (store.substitution? text).map Prod.snd = (store'.substitution? text).map Prod.snd

theorem sameAnswers_of_result {store store' : Store}
    (hresult : ∀ key,
      (store.lookup key).compilation.result = (store'.lookup key).compilation.result) :
    store.SameAnswers store' := by
  have hpattern (key : Key) : (store.lookup key).pattern key = (store'.lookup key).pattern key := by
    rw [Lookup.pattern, Lookup.pattern, Pattern.ofCompilation, Pattern.ofCompilation, hresult]
  refine ⟨hresult, hpattern, ?_, ?_⟩
  · intro key
    rw [Lookup.pattern?, Lookup.pattern?, hresult]
  · intro text
    rw [substitution?, substitution?]
    cases Expression.parse text with
    | error error => rfl
    | ok expression =>
        simp only [Except.map, hpattern]

variable {engine : Engine}

/-- The requests that the engine had before do not show in what it makes of a key. -/
theorem compiled_eq_answer (hstateless : engine.Stateless) {store : Store}
    (hengine : store.engine = engine) (key : Key) : (store.compiled key).1 = engine.answer key := by
  obtain ⟨text, hexpanded, _⟩ := key.exists_expanded
  rw [compiled_eq_of_expanded hexpanded, hengine, hstateless store.requests [], Engine.answer,
    hexpanded]

theorem lookup_run_eq_answer (hstateless : engine.Stateless) (capacity : Option Nat)
    (keepsFailures : Bool) (operations : List Operation) (key : Key) :
    (((fresh engine capacity keepsFailures).run operations).lookup key).compilation.result =
      engine.answer key := by
  obtain ⟨before, hbefore, hresult⟩ := lookup_run engine capacity keepsFailures operations key
  rw [hresult, compiled_eq_answer hstateless hbefore]

/-- Two stores of one engine give the same answers, whatever their settings and whatever was done to
them: those of a fresh store, where every key is compiled when it is looked up. -/
theorem sameAnswers_run (hstateless : engine.Stateless)
    (capacity capacity' first : Option Nat) (keepsFailures keepsFailures' keepsFirst : Bool)
    (operations operations' : List Operation) :
    ((fresh engine capacity keepsFailures).run operations).SameAnswers
        ((fresh engine capacity' keepsFailures').run operations') ∧
      ((fresh engine capacity keepsFailures).run operations).SameAnswers
        (fresh engine first keepsFirst) ∧
      ∀ key, ((fresh engine first keepsFirst).lookup key).compilation.result =
        engine.answer key := by
  have hanswer := @lookup_run_eq_answer engine hstateless
  refine ⟨sameAnswers_of_result fun key => ?_, sameAnswers_of_result fun key => ?_, fun key => ?_⟩
  · exact (hanswer capacity keepsFailures operations key).trans
      (hanswer capacity' keepsFailures' operations' key).symm
  · exact (hanswer capacity keepsFailures operations key).trans
      (hanswer first keepsFirst [] key).symm
  · exact hanswer first keepsFirst [] key

/-- One store keeps a failure, forgets it and meets it again, while the only place of the other is
taken by the same text under other flags. -/
theorem sameAnswers_run_unclosed :
    (SearchOptions.engine {}).Stateless ∧
      ((fresh (SearchOptions.engine {}) none true).run
        [.lookup ⟨.extended, "(a"⟩, .invalidate ⟨.extended, "(a"⟩, .substitution "/(a/b/",
          .lookup ⟨.newline, "a"⟩]).SameAnswers
        ((fresh (SearchOptions.engine {}) (some 1) false).run
          [.lookup ⟨.extended, "a"⟩, .lookup ⟨.ignoreCase, "a"⟩, .lookup ⟨.extended, "(a"⟩]) :=
  ⟨SearchOptions.engine_stateless {},
    (sameAnswers_run (SearchOptions.engine_stateless {}) none (some 1) none true false false
      _ _).1⟩

end Store

end BytePattern
