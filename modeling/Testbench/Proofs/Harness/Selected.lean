import Testbench.Harness
import Testbench.Proofs.Runner.Plan
import Testbench.Proofs.Runner.Selection
import Testbench.Proofs.Runner.Transparency
/-!
# Selected tests

What a run of classes works on is settled before anything runs: every class must have a case, the
pattern must be readable, and it must accept a case. `Harness.chosen` decides this on the classes
themselves, without a tree of runners.

Main statements: `select_eq`, by which building and filtering a suite makes this choice, and
`selected_of_chosen`, by which the cases of the chosen classes are the accepted ones, in order.
-/
namespace Testbench

/-- The cases of a class, as tests. -/
def TestClass.planned (c : TestClass) : List Planned := c.cases.map fun t => ⟨c.describeCase t, t⟩

/-- A class with its accepted cases only. -/
def TestClass.restrict (f : PatternFilter) (c : TestClass) : TestClass :=
  { c with cases := Runner.keptCases f.toFilter c }

namespace Harness

/-- The suite in which each class reports its start and its end. -/
def loggedSuite (classes : List TestClass) : Runner Empty :=
  .suite Runner.defaultName (classes.map fun c => .logged (.ofClass c))

/-- Each class with its accepted cases; a class without any is dropped. -/
def kept (f : PatternFilter) (classes : List TestClass) : List TestClass :=
  (classes.map (TestClass.restrict f)).filter (!·.cases.isEmpty)

/-- The classes that a run is about, or the reason why there is none. -/
def chosen (classes : List TestClass) (pattern : Option String) : Except Error (List TestClass) :=
  match classes.find? (·.cases.isEmpty) with
  | some c => .error (.initialization c.name "no runnable methods")
  | none =>
    match pattern with
    | none => .ok classes
    | some spec =>
      match PatternFilter.parse spec with
      | .error e => .error e
      | .ok f =>
        if (kept f classes).isEmpty then .error (.noTestsRemain ("gtest-filter: " ++ spec))
        else .ok (kept f classes)

/-- Whether a pattern accepts a display name; without a pattern every name is accepted. -/
def accepts (pattern : Option String) (name : String) : Bool :=
  match pattern with
  | none => true
  | some spec =>
    match PatternFilter.parse spec with
    | .error _ => false
    | .ok f => f.acceptsName name

/-- The cases that a pattern accepts, class by class. -/
def selected (classes : List TestClass) (pattern : Option String) : List Planned :=
  (classes.flatMap TestClass.planned).filter fun p => accepts pattern p.description.displayName

/-! ## Building -/

/-- Runners can be built if every class has a case; else the first one without any is reported. -/
theorem forClasses_plain {β : Type} (classes : List TestClass) :
    Runner.forClasses (Builder.plain : Builder β) classes =
      match classes.find? (·.cases.isEmpty) with
      | some c => .error (.initialization c.name "no runnable methods")
      | none => .ok (classes.map .ofClass) := by
  unfold Runner.forClasses Builder.plain
  induction classes with
  | nil => rfl
  | cons c cs ih =>
    rw [List.mapM_cons, ih, Runner.forClass, List.find?_cons]
    cases c.cases.isEmpty with
    | true => rfl
    | false => cases cs.find? (·.cases.isEmpty) <;> rfl

theorem logging_plain (classes : List TestClass) :
    Runner.logging .plain classes =
      match classes.find? (·.cases.isEmpty) with
      | some c => .error (.initialization c.name "no runnable methods")
      | none => .ok (loggedSuite classes) := by
  rw [Runner.logging, Runner.suiteOf, Runner.forClasses_logging, forClasses_plain]
  cases classes.find? (·.cases.isEmpty) with
  | some c => rfl
  | none => simp [Except.map, loggedSuite]

/-! ## Filtering -/

theorem rigid (r : Runner Empty) : r.Rigid := fun b => b.elim

/-- A filter leaves of the wrapped classes those with accepted cases. -/
theorem filterMap_select (f : PatternFilter) (classes : List TestClass) :
    (classes.map fun c => (.logged (.ofClass c) : Runner Empty)).filterMap (Runner.select f) =
      (kept f classes).map fun c => .logged (.ofClass c) := by
  induction classes with
  | nil => rfl
  | cons c cs ih =>
    rw [List.map_cons, List.filterMap_cons, ih, Runner.select, Runner.select_ofClass]
    by_cases h : Runner.keptCases f.toFilter c = [] <;> simp [kept, TestClass.restrict, h]

theorem filter_loggedSuite (f : PatternFilter) (classes : List TestClass) :
    ((loggedSuite classes).filter f.toFilter).outcome = Runner.remains f.toFilter (kept f classes) ∧
      ((loggedSuite classes).filter f.toFilter).runner = loggedSuite (kept f classes) := by
  obtain ⟨ho, hr⟩ := Runner.filter_suite f (rigid (loggedSuite classes))
  rw [filterMap_select] at ho hr
  refine ⟨ho.trans ?_, hr⟩
  simp [Runner.remains]

/-- Building and filtering a suite makes the choice among the classes. -/
theorem select_eq (classes : List TestClass) (pattern : Option String) :
    (select classes pattern).1 = (chosen classes pattern).map loggedSuite := by
  unfold chosen select
  rw [logging_plain]
  cases classes.find? (·.cases.isEmpty) with
  | some c => rfl
  | none =>
    cases pattern with
    | none => rfl
    | some spec =>
      cases hf : PatternFilter.parse spec with
      | error e => simp [hf, Except.map]
      | ok f =>
        obtain ⟨ho, hr⟩ := filter_loggedSuite f classes
        have hspec : f.toFilter.describe = "gtest-filter: " ++ spec := by
          rw [PatternFilter.toFilter, PatternFilter.spec_of_parse hf]
        simp only [hf, ho, hr, Runner.remains, hspec]
        cases (kept f classes).isEmpty <;> rfl

/-! ## The selected cases -/

theorem planned_restrict (f : PatternFilter) (c : TestClass) :
    (c.restrict f).planned =
      c.planned.filter fun p => f.acceptsName p.description.displayName := by
  rw [TestClass.planned, TestClass.planned, List.filter_map]
  rfl

theorem flatMap_planned_kept (f : PatternFilter) (classes : List TestClass) :
    (kept f classes).flatMap TestClass.planned =
      (classes.flatMap TestClass.planned).filter fun p =>
        f.acceptsName p.description.displayName := by
  induction classes with
  | nil => rfl
  | cons c cs ih =>
    rw [List.flatMap_cons, List.filter_append, ← ih, ← planned_restrict]
    by_cases h : (c.restrict f).cases = [] <;> simp [kept, h, TestClass.planned]

/-- The cases of the chosen classes are the selected ones. -/
theorem selected_of_chosen {classes cs : List TestClass} {pattern : Option String}
    (h : chosen classes pattern = .ok cs) :
    cs.flatMap TestClass.planned = selected classes pattern := by
  unfold chosen at h
  unfold selected accepts
  split at h
  · cases h
  · cases pattern with
    | none =>
      cases h
      simp
    | some spec =>
      cases hf : PatternFilter.parse spec with
      | error e => simp [hf] at h
      | ok f =>
        simp only [hf] at h ⊢
        split at h
        · cases h
        · cases h
          exact flatMap_planned_kept f classes

/-- The plan of a suite of classes. -/
theorem plan_loggedSuite (classes : List TestClass) :
    (loggedSuite classes).plan = classes.flatMap TestClass.planned := by
  rw [loggedSuite, Runner.plan, Runner.planAll_eq_flatMap, List.flatMap_map]
  rfl

end Harness
end Testbench
