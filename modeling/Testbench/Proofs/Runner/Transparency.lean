import Mathlib.Data.List.Forall2
import Testbench.Proofs.Trace
import Testbench.Suite
/-!
# Logging suites behave like serial ones

A logging suite is a serial suite with a wrapper around each of its children, and stays so whatever is
asked of both: they are described, filtered and run alike, up to the calls that the wrappers put into
the traces of runs.

Main statement: `logging_agrees_with_serial`, for any builder and any sequence of operations.
-/
namespace Testbench.Runner
variable {β ι : Type} [RunnerKind β]

/-! ## Operations on a runner -/

/-- What may be asked of a runner; a run comes with its notifier. -/
inductive Operation (ι : Type) where
  | describe
  | count
  | filter (f : Filter)
  | run (n : Notifier ι)

inductive Response (ι : Type) where
  | description (d : Description)
  | count (n : Nat)
  | filtered (outcome : Except Error Unit) (log : List Log.Event)
  | ran (e : Effect ι)

/-- The runner after an operation, and the response. -/
def operate (r : Runner β) : Operation ι → Runner β × Response ι
  | .describe => (r, .description r.describe)
  | .count => (r, .count r.testCount)
  | .filter f => ((r.filter f).runner, .filtered (r.filter f).outcome (r.filter f).log)
  | .run n => ((r.run n).1, .ran (r.run n).2)

/-- The responses to operations one after another, each on what the ones before it left. -/
def operateAll (r : Runner β) : List (Operation ι) → List (Response ι)
  | [] => []
  | op :: ops => (r.operate op).2 :: operateAll (r.operate op).1 ops

/-- Responses that differ at most by calls to the logger of suites during a run. -/
inductive Response.Agree : Response ι → Response ι → Prop
  | description (d : Description) : Agree (.description d) (.description d)
  | count (n : Nat) : Agree (.count n) (.count n)
  | filtered (outcome : Except Error Unit) (log : List Log.Event) :
      Agree (.filtered outcome log) (.filtered outcome log)
  | ran {e e' : Effect ι} (annotated : e.Annotated e')
      (heard : Happening.heard e'.trace = Happening.heard e.trace) : Agree (.ran e) (.ran e')

/-! ## Wrapping every child of a suite -/

theorem describeAll_map_logged (rs : List (Runner β)) :
    describeAll (rs.map logged) = describeAll rs := by
  simp only [describeAll_eq_map, List.map_map]
  rfl

theorem describe_suite_map_logged (name : String) (rs : List (Runner β)) :
    describe (suite name (rs.map logged)) = describe (suite name rs) := by
  rw [describe, describe, describeAll_map_logged]

/-- A wrapper decides nothing when a suite is filtered: the same children stay. -/
theorem sift_map_logged (f : Filter) (rs : List (Runner β)) :
    sift f (rs.map logged) =
      { sift f rs with kept := (sift f rs).kept.map logged } := by
  induction rs with
  | nil => rfl
  | cons r rs ih =>
    rw [List.map_cons, sift, sift]
    by_cases hr : f.shouldRun (describe r)
    · have hl : f.shouldRun (describe (logged r)) := hr
      rw [if_pos hr, if_pos hl]
      rcases hx : (filter f r).outcome with e | _
      · cases e <;> simp [filter, hx, ih]
      · simp [filter, hx, ih]
    · have hl : ¬ f.shouldRun (describe (logged r)) := hr
      rw [if_neg hr, if_neg hl, ih]

/-- What a filter does to a suite and to the suite of the wrapped children. -/
theorem filter_suite_map_logged (f : Filter) (name : String) (rs : List (Runner β)) :
    ∃ kept, (filter f (suite name rs)).runner = suite name kept ∧
      filter f (suite name (rs.map logged)) =
        { filter f (suite name rs) with runner := suite name (kept.map logged) } := by
  refine ⟨(sift f rs).kept, ?_⟩
  rw [filter, filter, sift_map_logged]
  cases (sift f rs).aborted <;> simp [remains]

theorem annotated_bracketed (d : Description) (e : Effect ι) :
    Happening.Annotated e.trace (bracketed d e) := by
  have same := Happening.Annotated.refl e.trace
  rcases h : e.outcome with err | _
  · rw [bracketed_of_error d h]
    exact .call _ same
  · have closed (c : SuiteCall) : Happening.Annotated e.trace (e.trace ++ [.suite c]) := by
      have hc := same.append (.call c .nil)
      rwa [List.append_nil] at hc
    rw [bracketed_of_ok d h]
    exact .call _ (closed _)

/-- A wrapper adds its calls and passes everything else on. -/
theorem annotated_run_logged (r : Runner β) (n : Notifier ι) :
    (run r n).2.Annotated (run (logged r) n).2 :=
  ⟨rfl, rfl, annotated_bracketed _ _⟩

theorem runAll_map_logged (rs : List (Runner β)) (n : Notifier ι) :
    (runAll (rs.map logged) n).1 = (runAll rs n).1.map logged ∧
      (runAll rs n).2.Annotated (runAll (rs.map logged) n).2 := by
  induction rs generalizing n with
  | nil => exact ⟨rfl, .refl _⟩
  | cons r rs ih =>
    have hw := annotated_run_logged r n
    rcases ho : (run r n).2.outcome with e | _
    · rw [List.map_cons, runAll_cons_error ho, runAll_cons_error (hw.outcome.trans ho)]
      exact ⟨rfl, hw⟩
    · rw [List.map_cons, runAll_cons_ok ho, runAll_cons_ok (hw.outcome.trans ho), hw.notifier]
      obtain ⟨hrest, he⟩ := ih (run r n).2.notifier
      refine ⟨by simp [hrest, run_logged], ?_⟩
      simp only [Effect.andThen, ho, hw.outcome, hw.notifier]
      exact ⟨he.outcome, he.notifier, hw.trace.append he.trace⟩

/-! ## Any sequence of operations -/

/-- The second suite has the children of the first one, each in a wrapper. -/
inductive Wraps : Runner β → Runner β → Prop
  | suite (name : String) (rs : List (Runner β)) : Wraps (suite name rs) (suite name (rs.map logged))

/-- One operation: the responses agree, and the suites still differ by the wrappers only. -/
theorem Wraps.operate {r r' : Runner β} (h : Wraps r r') (op : Operation ι) :
    (r.operate op).2.Agree (r'.operate op).2 ∧ Wraps (r.operate op).1 (r'.operate op).1 := by
  obtain ⟨name, rs⟩ := h
  cases op with
  | describe =>
    simp only [Runner.operate, describe_suite_map_logged]
    exact ⟨.description _, .suite name rs⟩
  | count =>
    simp only [Runner.operate, testCount, describe_suite_map_logged]
    exact ⟨.count _, .suite name rs⟩
  | filter f =>
    obtain ⟨kept, hk, hf⟩ := filter_suite_map_logged f name rs
    simp only [Runner.operate, hf, hk]
    exact ⟨.filtered _ _, .suite name kept⟩
  | run n =>
    obtain ⟨hrs, he⟩ := runAll_map_logged rs n
    simp only [Runner.operate, run_suite, hrs]
    exact ⟨.ran he he.trace.heard_eq.symm, .suite name _⟩

theorem Wraps.operateAll {r r' : Runner β} (h : Wraps r r') (ops : List (Operation ι)) :
    List.Forall₂ Response.Agree (r.operateAll ops) (r'.operateAll ops) := by
  induction ops generalizing r r' with
  | nil => exact .nil
  | cons op ops ih =>
    obtain ⟨agree, wraps⟩ := h.operate op
    exact .cons agree (ih wraps)

/-! ## Suites of classes -/

omit [RunnerKind β] in
theorem forClasses_logging (b : Builder β) (classes : List TestClass) :
    forClasses b.logging classes = (forClasses b classes).map (List.map logged) := by
  unfold forClasses Builder.logging
  induction classes with
  | nil => rfl
  | cons c cs ih =>
    rw [List.mapM_cons, List.mapM_cons, ih]
    cases b c with
    | error e => rfl
    | ok r => cases cs.mapM b <;> rfl

/-- A logging suite can be built if and only if the serial one can, and fails with the same error. Once
built, both give the same responses to any operations, up to the calls to the logger of suites. -/
theorem logging_agrees_with_serial (b : Builder β) (classes : List TestClass) :
    match serial b classes, logging b classes with
    | .ok plain, .ok wrapped => ∀ ops : List (Operation ι),
        List.Forall₂ Response.Agree (plain.operateAll ops) (wrapped.operateAll ops)
    | .error e, .error e' => e' = e
    | _, _ => False := by
  rw [serial, logging, suiteOf, suiteOf, forClasses_logging]
  cases forClasses b classes with
  | error e => rfl
  | ok rs =>
    intro ops
    exact (Wraps.suite defaultName rs).operateAll ops

end Testbench.Runner
