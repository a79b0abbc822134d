import Mathlib.Algebra.GroupWithZero.Nat
import Testbench.Proofs.Runner.Plan
/-!
# Scenes of a run

A run of a tree of classes, suites and wrappers goes through scenes: calls to the logger of suites, and
tests with everything that is told of them. `Runner.scenes` lists the scenes of a tree, and `acted` those
that a notifier lets happen: all of them, or those before the first test that is refused.

Main statement: `trace_run`. The trace of a run is what happens in the scenes that are acted, and nothing
besides.
-/
namespace Testbench
variable {ι : Type}

/-- One part of a run: a call, a test that is reported, or the refusal of a test. -/
inductive Scene where
  | call (c : SuiteCall)
  | test (p : Planned)
  | refused (d : Description)

/-- A callback, told to some listeners. -/
def Callback.toEach (listeners : List ι) (c : Callback) : List (Happening ι) :=
  listeners.map (.told · c)

/-- How long a test takes; an ignored one takes no time. -/
def Planned.takes (p : Planned) : Duration := if p.test.ignored then 0 else p.test.body.takes

/-- What happens while a test is reported. -/
def Planned.happenings (listeners : List ι) (p : Planned) : List (Happening ι) :=
  if p.test.ignored then (Callback.ignored p.description).toEach listeners
  else
    (Callback.started p.description).toEach listeners ++
      [.passed p.test.body.takes, .logged (Runner.caseDone p.description p.test.body)] ++
      (p.failure?.toList.flatMap fun f => (Callback.failure f).toEach listeners) ++
      (Callback.finished p.description).toEach listeners

namespace Scene

def happenings (listeners : List ι) : Scene → List (Happening ι)
  | call c => [.suite c]
  | test p => p.happenings listeners
  | refused d => [.logged (refusal d)]

def takes : Scene → Duration
  | test p => p.takes
  | _ => 0

/-- How long some scenes take. -/
def time (scenes : List Scene) : Duration := (scenes.map takes).sum

/-- The tests that are reported in some scenes. -/
def tests (scenes : List Scene) : List Planned :=
  scenes.filterMap fun
    | test p => some p
    | _ => none

@[simp] theorem tests_nil : tests [] = [] := rfl

@[simp] theorem tests_call (c : SuiteCall) (scenes : List Scene) :
    tests (call c :: scenes) = tests scenes := rfl

@[simp] theorem tests_test (p : Planned) (scenes : List Scene) :
    tests (test p :: scenes) = p :: tests scenes := rfl

@[simp] theorem tests_refused (d : Description) (scenes : List Scene) :
    tests (refused d :: scenes) = tests scenes := rfl

@[simp] theorem tests_append (a b : List Scene) : tests (a ++ b) = tests a ++ tests b :=
  List.filterMap_append

theorem duration_toEach (listeners : List ι) (c : Callback) :
    Happening.duration (c.toEach listeners) = 0 := by
  induction listeners with
  | nil => rfl
  | cons l ls ih => exact (Nat.zero_add _).trans ih

theorem duration_happenings (listeners : List ι) (s : Scene) :
    Happening.duration (s.happenings listeners) = s.takes := by
  cases s with
  | call c => rfl
  | refused d => rfl
  | test p =>
    cases hi : p.test.ignored <;> cases hf : p.failure? <;>
      simp [happenings, takes, Planned.happenings, Planned.takes, hi, hf, duration_toEach,
        Happening.duration_append, Happening.duration, Happening.time]

theorem duration_flatMap_happenings (listeners : List ι) (scenes : List Scene) :
    Happening.duration (scenes.flatMap (happenings listeners)) = time scenes := by
  induction scenes with
  | nil => rfl
  | cons s scenes ih =>
    rw [List.flatMap_cons, Happening.duration_append, ih, duration_happenings, time, time,
      List.map_cons, List.sum_cons]

end Scene

/-! ## Acting -/

/-- The scenes that a notifier lets happen. A refusal is the last of them. -/
def acted : List Scene → Notifier ι → List Scene
  | [], _ => []
  | .test p :: scenes, n =>
    if p.isRefused n then [.refused p.description] else .test p :: acted scenes (p.settle n)
  | s :: scenes, n => s :: acted scenes n

@[simp] theorem acted_call (c : SuiteCall) (scenes : List Scene) (n : Notifier ι) :
    acted (.call c :: scenes) n = .call c :: acted scenes n := rfl

theorem acted_test_refused {p : Planned} {n : Notifier ι} (h : p.isRefused n)
    (scenes : List Scene) : acted (.test p :: scenes) n = [.refused p.description] := by
  rw [acted, if_pos h]

theorem acted_test {p : Planned} {n : Notifier ι} (h : ¬ p.isRefused n) (scenes : List Scene) :
    acted (.test p :: scenes) n = .test p :: acted scenes (p.settle n) := by
  rw [acted, if_neg h]

/-- Scenes whose tests all get reported are acted in full, and what follows them is acted next. -/
theorem acted_append_of_ok {a : List Scene} {n : Notifier ι}
    (h : (course (Scene.tests a) n).outcome = .ok ()) (b : List Scene) :
    acted (a ++ b) n = a ++ acted b (course (Scene.tests a) n).notifier := by
  induction a generalizing n with
  | nil => rfl
  | cons s a ih =>
    cases s with
    | call c => exact congrArg (Scene.call c :: ·) (ih h)
    | refused d => exact congrArg (Scene.refused d :: ·) (ih h)
    | test p =>
      rw [Scene.tests_test] at h ⊢
      by_cases hp : p.isRefused n
      · rw [course_cons_refused hp] at h
        cases h
      · rw [course_cons hp] at h ⊢
        rw [List.cons_append, acted_test hp, ih h, List.cons_append]

theorem acted_of_ok {scenes : List Scene} {n : Notifier ι}
    (h : (course (Scene.tests scenes) n).outcome = .ok ()) : acted scenes n = scenes := by
  have whole := acted_append_of_ok h []
  rwa [List.append_nil, acted, List.append_nil] at whole

/-- Nothing is acted after scenes in which a test is refused. -/
theorem acted_append_of_error {a : List Scene} {n : Notifier ι} {e : Error}
    (h : (course (Scene.tests a) n).outcome = .error e) (b : List Scene) :
    acted (a ++ b) n = acted a n := by
  induction a generalizing n with
  | nil => cases h
  | cons s a ih =>
    cases s with
    | call c => exact congrArg (Scene.call c :: ·) (ih h)
    | refused d => exact congrArg (Scene.refused d :: ·) (ih h)
    | test p =>
      rw [Scene.tests_test] at h
      by_cases hp : p.isRefused n
      · rw [List.cons_append, acted_test_refused hp, acted_test_refused hp]
      · rw [course_cons hp] at h
        rw [List.cons_append, acted_test hp, acted_test hp, ih h]

/-- An effect follows the tests of some scenes, and its trace is what happens in those that are acted. -/
structure Shows (scenes : List Scene) (n : Notifier ι) (e : Effect ι) : Prop where
  follows : Runner.Follows (Scene.tests scenes) n e
  trace : e.trace = (acted scenes n).flatMap (Scene.happenings n.listeners)

theorem Shows.andThen {a b : List Scene} {n : Notifier ι} {e : Effect ι}
    {f : Notifier ι → Effect ι} (h : Shows a n e) (hf : ∀ n, Shows b n (f n)) :
    Shows (a ++ b) n (e.andThen f) := by
  refine ⟨?_, ?_⟩
  · rw [Scene.tests_append]
    exact h.follows.andThen fun n => (hf n).follows
  · rcases ho : e.outcome with err | _
    · have hc : (course (Scene.tests a) n).outcome = .error err := h.follows.outcome.symm.trans ho
      rw [Effect.andThen_of_error ho, acted_append_of_error hc, h.trace]
    · have hc : (course (Scene.tests a) n).outcome = .ok () := h.follows.outcome.symm.trans ho
      rw [Effect.andThen_of_ok ho, acted_append_of_ok hc, List.flatMap_append, h.trace,
        acted_of_ok hc, (hf e.notifier).trace, h.follows.notifier, listeners_course]

theorem shows_runCase (c : TestClass) (t : TestCase) (n : Notifier ι) :
    Shows [.test ⟨c.describeCase t, t⟩] n (Runner.runCase c t n) := by
  refine ⟨Runner.follows_runCase c t n, ?_⟩
  unfold Runner.runCase
  by_cases hi : t.ignored
  · have hp : ¬ Planned.isRefused ⟨c.describeCase t, t⟩ n := by simp [Planned.isRefused, hi]
    rw [acted_test hp, if_pos hi]
    simp [acted, Scene.happenings, Planned.happenings, Callback.toEach, Notifier.fire,
      Notifier.tell, hi]
  · rw [if_neg hi]
    by_cases hs : n.stopRequested
    · have hp : Planned.isRefused ⟨c.describeCase t, t⟩ n := by simp [Planned.isRefused, hi, hs]
      rw [acted_test_refused hp]
      simp [Scene.happenings, Notifier.fire, hs, Effect.andThen]
    · have hp : ¬ Planned.isRefused ⟨c.describeCase t, t⟩ n := by simp [Planned.isRefused, hs]
      rw [acted_test hp]
      cases hf : t.body.ending.failure? <;>
        simp [acted, Scene.happenings, Planned.happenings, Callback.toEach, Planned.failure?_eq,
          Notifier.fire, Notifier.tell, Effect.andThen, Runner.runBody, Runner.reportFailure,
          Effect.idle, hi, hs, hf]

theorem shows_runCases (c : TestClass) (ts : List TestCase) (n : Notifier ι) :
    Shows (ts.map fun t => .test ⟨c.describeCase t, t⟩) n (Runner.runCases c ts n) := by
  induction ts generalizing n with
  | nil => exact ⟨⟨rfl, rfl, rfl⟩, rfl⟩
  | cons t ts ih => exact (shows_runCase c t n).andThen ih

/-- The scenes of an effect in brackets are its own between the two calls. -/
theorem Shows.bracketed {scenes : List Scene} {n : Notifier ι} {e : Effect ι}
    (h : Shows scenes n e) (d : Description) :
    Shows (.call (.started d d.testCount) ::
      (scenes ++ [.call (.finished d d.testCount (Scene.time scenes).millis)])) n
      { e with trace := Runner.bracketed d e } := by
  have tests : Scene.tests (.call (.started d d.testCount) ::
      (scenes ++ [.call (.finished d d.testCount (Scene.time scenes).millis)])) =
        Scene.tests scenes := by simp
  refine ⟨?_, ?_⟩
  · rw [tests]
    exact ⟨h.follows.outcome, h.follows.notifier,
      (Runner.heard_bracketed d e).trans h.follows.heard⟩
  · rcases ho : e.outcome with err | _
    · have hc : (course (Scene.tests scenes) n).outcome = .error err :=
        h.follows.outcome.symm.trans ho
      rw [Runner.bracketed_of_error d ho, acted_call, acted_append_of_error hc, List.flatMap_cons,
        h.trace]
      rfl
    · have hc : (course (Scene.tests scenes) n).outcome = .ok () :=
        h.follows.outcome.symm.trans ho
      have htrace : e.trace = scenes.flatMap (Scene.happenings n.listeners) := by
        rw [h.trace, acted_of_ok hc]
      rw [Runner.bracketed_of_ok d ho, acted_call, acted_append_of_ok hc, List.flatMap_cons,
        List.flatMap_append, htrace, Scene.duration_flatMap_happenings]
      rfl

/-! ## The scenes of a tree -/

namespace Runner

mutual

/-- The scenes of a tree, if every test may start. A call at the end of a wrapped runner tells how long
its scenes take. -/
def scenes : Runner Empty → List Scene
  | ofClass c => c.cases.map fun t => .test ⟨c.describeCase t, t⟩
  | suite _ children => scenesAll children
  | logged inner =>
    let d := describe inner
    .call (.started d d.testCount) :: (scenes inner ++
      [.call (.finished d d.testCount (Scene.time (scenes inner)).millis)])
  | other b => nomatch b

def scenesAll : List (Runner Empty) → List Scene
  | [] => []
  | r :: rs => scenes r ++ scenesAll rs

end

theorem scenesAll_eq_flatMap (rs : List (Runner Empty)) : scenesAll rs = rs.flatMap scenes := by
  induction rs with
  | nil => rfl
  | cons r rs ih => rw [scenesAll, ih, List.flatMap_cons]

/-- The tests of the scenes are the plan. -/
theorem tests_scenes (r : Runner Empty) : Scene.tests r.scenes = r.plan := by
  induction r with
  | ofClass c => simp [scenes, plan, Scene.tests, List.filterMap_map, TestClass.describeCase]
  | suite name children ih =>
    rw [scenes, plan, scenesAll_eq_flatMap, planAll_eq_flatMap, Scene.tests,
      List.filterMap_flatMap]
    exact List.flatMap_congr ih
  | logged inner ih => simp [scenes, plan, ih]
  | other b => exact b.elim

theorem shows_runAll {rs : List (Runner Empty)}
    (h : ∀ r ∈ rs, ∀ n : Notifier ι, Shows r.scenes n (run r n).2) (n : Notifier ι) :
    Shows (scenesAll rs) n (runAll rs n).2 := by
  induction rs generalizing n with
  | nil => exact ⟨⟨rfl, rfl, rfl⟩, rfl⟩
  | cons r rs ih =>
    rw [runAll_cons, scenesAll]
    exact (h r List.mem_cons_self n).andThen
      fun n => ih (fun r hr => h r (List.mem_cons_of_mem _ hr)) n

theorem shows_run (r : Runner Empty) (n : Notifier ι) : Shows r.scenes n (run r n).2 := by
  induction r generalizing n with
  | ofClass c => exact shows_runCases c c.cases n
  | suite name children ih =>
    rw [run_suite, scenes]
    exact shows_runAll ih n
  | logged inner ih =>
    rw [run_logged, scenes]
    exact (ih n).bracketed (describe inner)
  | other b => exact b.elim

/-- The trace of a run is what happens in the scenes that are acted. -/
theorem trace_run (r : Runner Empty) (n : Notifier ι) :
    (run r n).2.trace = (acted r.scenes n).flatMap (Scene.happenings n.listeners) :=
  (shows_run r n).trace

end Runner
end Testbench
