import Testbench.Harness
import Testbench.Proofs.Runner.Leaves
/-!
# Trees run by their plan

A tree of classes, suites and wrappers stands for a flat list of tests, its plan. `course` says what
becomes of a plan: tests are reported one after another, until one is refused because a stop was
requested.

Main statement: `run_follows_plan`. The description of a tree lists its plan, and a run of the tree
ends, leaves the notifier and tells listeners as the course of the plan says, however the tree is
nested.
-/
namespace Testbench
variable {ι : Type}

/-! ## The course of a plan -/

/-- A test with the description under which it is reported. -/
structure Planned where
  description : Description
  test : TestCase

namespace Planned

/-- The failure that is reported of a test, by how its body ends: an error fails it with its message, a panic
with its text. -/
def failure? (p : Planned) : Option Failure :=
  match p.test.body.ending with
  | .passed => none
  | .failed message => some ⟨p.description, message⟩
  | .panicked (.text message) => some ⟨p.description, message⟩
  | .panicked .other => some ⟨p.description, "test panicked"⟩

theorem failure?_eq (p : Planned) :
    p.failure? = p.test.body.ending.failure?.map fun message => ⟨p.description, message⟩ := by
  unfold failure?
  split <;> simp_all [Ending.failure?, Payload.message]

/-- What listeners are told of a test that is not refused. -/
def callbacks (p : Planned) : List Callback :=
  if p.test.ignored then [.ignored p.description]
  else .started p.description :: ((p.failure?.map .failure).toList ++ [.finished p.description])

/-- The notifier after a test that is not refused. -/
def settle (p : Planned) (n : Notifier ι) : Notifier ι :=
  if p.test.ignored then n.withTally { n.tally with ignoreCount := n.tally.ignoreCount + 1 }
  else
    { n with
      tally :=
        { n.tally with
          runCount := n.tally.runCount + 1
          failures := n.tally.failures ++ p.failure?.toList }
      stopRequested := n.stopRequested || (p.failure?.isSome && n.failFast) }

/-- A stop keeps tests from starting; an ignored test does not start anyway. -/
def isRefused (p : Planned) (n : Notifier ι) : Bool := !p.test.ignored && n.stopRequested

end Planned

/-- How a plan ended, the notifier after it, and what listeners were told. -/
structure Course (ι : Type) where
  outcome : Except Error Unit
  notifier : Notifier ι
  callbacks : List Callback

/-- Tests are reported in order; the first one that is refused ends the course. -/
def course : List Planned → Notifier ι → Course ι
  | [], n => ⟨.ok (), n, []⟩
  | p :: ps, n =>
    if p.isRefused n then ⟨.error .stoppedByUser, n, []⟩
    else { course ps (p.settle n) with
      callbacks := p.callbacks ++ (course ps (p.settle n)).callbacks }

/-- The test that a callback begins with, if it does. -/
def Callback.begun? : Callback → Option Description
  | started d => some d
  | ignored d => some d
  | _ => none

/-- The test that a callback closes, if it does. -/
def Callback.ended? : Callback → Option Description
  | finished d => some d
  | ignored d => some d
  | _ => none

namespace Planned

@[simp] theorem listeners_settle (p : Planned) (n : Notifier ι) :
    (p.settle n).listeners = n.listeners := by
  unfold settle
  split <;> rfl

theorem counts_settle (p : Planned) (n : Notifier ι) :
    (p.settle n).tally.runCount + (p.settle n).tally.ignoreCount =
      n.tally.runCount + n.tally.ignoreCount + 1 := by
  unfold settle Notifier.withTally
  split
  · rfl
  · simp only
    omega

theorem begun_callbacks (p : Planned) : p.callbacks.filterMap Callback.begun? = [p.description] := by
  unfold callbacks
  split
  · rfl
  · cases p.failure? <;> rfl

theorem ended_callbacks (p : Planned) : p.callbacks.filterMap Callback.ended? = [p.description] := by
  unfold callbacks
  split
  · rfl
  · cases p.failure? <;> rfl

end Planned

theorem course_cons_refused {p : Planned} {n : Notifier ι} (h : p.isRefused n) (ps : List Planned) :
    course (p :: ps) n = ⟨.error .stoppedByUser, n, []⟩ := by
  rw [course, if_pos h]

theorem course_cons {p : Planned} {n : Notifier ι} (h : ¬ p.isRefused n) (ps : List Planned) :
    course (p :: ps) n = { course ps (p.settle n) with
      callbacks := p.callbacks ++ (course ps (p.settle n)).callbacks } := by
  rw [course, if_neg h]

@[simp] theorem listeners_course (ps : List Planned) (n : Notifier ι) :
    (course ps n).notifier.listeners = n.listeners := by
  induction ps generalizing n with
  | nil => rfl
  | cons p ps ih =>
    by_cases h : p.isRefused n
    · rw [course_cons_refused h]
    · rw [course_cons h]
      exact (ih (p.settle n)).trans (p.listeners_settle n)

theorem course_append_of_ok {ps : List Planned} {n : Notifier ι}
    (h : (course ps n).outcome = .ok ()) (qs : List Planned) :
    course (ps ++ qs) n = { course qs (course ps n).notifier with
      callbacks := (course ps n).callbacks ++ (course qs (course ps n).notifier).callbacks } := by
  induction ps generalizing n with
  | nil => rfl
  | cons p ps ih =>
    by_cases hp : p.isRefused n
    · rw [course_cons_refused hp] at h
      exact absurd h (by simp)
    · rw [course_cons hp] at h ⊢
      rw [List.cons_append, course_cons hp, ih h]
      simp

theorem course_append_of_error {ps : List Planned} {n : Notifier ι} {e : Error}
    (h : (course ps n).outcome = .error e) (qs : List Planned) :
    course (ps ++ qs) n = course ps n := by
  induction ps generalizing n with
  | nil => exact absurd h (by simp [course])
  | cons p ps ih =>
    by_cases hp : p.isRefused n
    · rw [List.cons_append, course_cons_refused hp, course_cons_refused hp]
    · rw [course_cons hp] at h
      rw [List.cons_append, course_cons hp, course_cons hp, ih h]

/-- A course that ends well reports every test of its plan once. -/
theorem course_of_ok {ps : List Planned} {n : Notifier ι} (h : (course ps n).outcome = .ok ()) :
    (course ps n).callbacks = ps.flatMap Planned.callbacks ∧
      (course ps n).notifier.tally.runCount + (course ps n).notifier.tally.ignoreCount =
        n.tally.runCount + n.tally.ignoreCount + ps.length := by
  induction ps generalizing n with
  | nil => exact ⟨rfl, rfl⟩
  | cons p ps ih =>
    by_cases hp : p.isRefused n
    · rw [course_cons_refused hp] at h
      exact absurd h (by simp)
    · rw [course_cons hp] at h ⊢
      obtain ⟨hc, ht⟩ := ih h
      have hs := p.counts_settle n
      refine ⟨by rw [List.flatMap_cons, hc], ?_⟩
      simp only [List.length_cons]
      omega

/-- A course that fails does so at a test that is refused, and nothing is reported from there on. -/
theorem course_of_error {ps : List Planned} {n : Notifier ι} {e : Error}
    (h : (course ps n).outcome = .error e) :
    e = .stoppedByUser ∧ ∃ before p after, ps = before ++ p :: after ∧
      (course before n).outcome = .ok () ∧ p.isRefused (course before n).notifier ∧
      (course ps n).notifier = (course before n).notifier ∧
      (course ps n).callbacks = (course before n).callbacks := by
  induction ps generalizing n with
  | nil => exact absurd h (by simp [course])
  | cons p ps ih =>
    by_cases hp : p.isRefused n
    · rw [course_cons_refused hp] at h ⊢
      injection h with h
      exact ⟨h.symm, [], p, ps, rfl, rfl, hp, rfl, rfl⟩
    · rw [course_cons hp] at h ⊢
      obtain ⟨he, before, q, after, rfl, hb, hq, hn, hc⟩ := ih h
      refine ⟨he, p :: before, q, after, rfl, ?_⟩
      rw [course_cons hp]
      exact ⟨hb, hq, hn, congrArg (p.callbacks ++ ·) hc⟩

/-! ## The plan of a tree -/

namespace Runner

mutual

/-- The tests of a tree from left to right. -/
def plan : Runner Empty → List Planned
  | ofClass c => c.cases.map fun t => ⟨.test c.name t.name [], t⟩
  | suite _ children => planAll children
  | logged inner => plan inner
  | other b => nomatch b

def planAll : List (Runner Empty) → List Planned
  | [] => []
  | r :: rs => plan r ++ planAll rs

end

theorem planAll_eq_flatMap (rs : List (Runner Empty)) : planAll rs = rs.flatMap plan := by
  induction rs with
  | nil => rfl
  | cons r rs ih => rw [planAll, ih, List.flatMap_cons]

/-- A description lists the tests of the plan. -/
theorem descriptions_plan (r : Runner Empty) :
    r.plan.map Planned.description = (describe r).tests := by
  induction r with
  | ofClass c =>
    rw [plan, describe, tests_ofClass, List.map_map]
    rfl
  | suite name children ih =>
    rw [plan, planAll_eq_flatMap, tests_suite, List.map_flatMap]
    exact List.flatMap_congr ih
  | logged inner ih => exact ih
  | other b => exact b.elim

/-- A plan is as long as its description says. -/
theorem length_plan (r : Runner Empty) : r.plan.length = (describe r).testCount := by
  rw [← Description.length_tests, ← descriptions_plan, List.length_map]

/-- Whatever is planned is a test, never a suite. -/
theorem isTest_of_mem_plan {r : Runner Empty} {p : Planned} (h : p ∈ r.plan) :
    p.description.isTest := by
  have mem : p.description ∈ (describe r).tests := by
    rw [← descriptions_plan]
    exact List.mem_map_of_mem h
  exact Description.isTest_of_mem_tests mem

/-! ## Effects that follow a plan -/

/-- An effect ends, leaves the notifier and tells listeners as the course of a plan says. -/
structure Follows (ps : List Planned) (n : Notifier ι) (e : Effect ι) : Prop where
  outcome : e.outcome = (course ps n).outcome
  notifier : e.notifier = (course ps n).notifier
  heard : Happening.heard e.trace =
    (course ps n).callbacks.flatMap fun c => n.listeners.map (·, c)

theorem Follows.andThen {ps qs : List Planned} {n : Notifier ι} {e : Effect ι}
    {f : Notifier ι → Effect ι} (h : Follows ps n e) (hf : ∀ n, Follows qs n (f n)) :
    Follows (ps ++ qs) n (e.andThen f) := by
  rcases ho : e.outcome with err | _
  · have hc : (course ps n).outcome = .error err := h.outcome.symm.trans ho
    rw [Effect.andThen_of_error ho]
    refine ⟨?_, ?_, ?_⟩ <;> rw [course_append_of_error hc]
    exacts [h.outcome, h.notifier, h.heard]
  · have hc : (course ps n).outcome = .ok () := h.outcome.symm.trans ho
    have next := hf e.notifier
    rw [Effect.andThen_of_ok ho]
    refine ⟨?_, ?_, ?_⟩ <;> rw [course_append_of_ok hc, ← h.notifier]
    · exact next.outcome
    · exact next.notifier
    · rw [Happening.heard_append, h.heard, next.heard, List.flatMap_append, h.notifier,
        listeners_course]

/-- A test that is started is reported as passed or as failed, and then as finished. -/
theorem follows_started {c : TestClass} {t : TestCase} {n : Notifier ι} (hi : ¬ t.ignored)
    (hs : ¬ n.stopRequested) : Follows [⟨c.describeCase t, t⟩] n (runCase c t n) := by
  have hp : ¬ Planned.isRefused ⟨c.describeCase t, t⟩ n := by simp [Planned.isRefused, hs]
  unfold runCase
  rw [if_neg hi]
  constructor <;> rw [course_cons hp] <;>
    cases hf : t.body.ending.failure? <;>
    simp [Notifier.fire, hs, Effect.andThen, runBody, reportFailure, hf, Effect.idle, course,
      Planned.settle, Planned.callbacks, Planned.failure?_eq, hi, Notifier.withTally]

theorem follows_runCase (c : TestClass) (t : TestCase) (n : Notifier ι) :
    Follows [⟨c.describeCase t, t⟩] n (runCase c t n) := by
  by_cases hi : t.ignored
  · have hp : ¬ Planned.isRefused ⟨c.describeCase t, t⟩ n := by simp [Planned.isRefused, hi]
    unfold runCase
    rw [if_pos hi]
    constructor <;> rw [course_cons hp] <;>
      simp [Notifier.fire, course, Planned.settle, Planned.callbacks, hi]
  · by_cases hs : n.stopRequested
    · have hp : Planned.isRefused ⟨c.describeCase t, t⟩ n := by simp [Planned.isRefused, hi, hs]
      have ho : (n.fire (.started (c.describeCase t))).outcome = .error .stoppedByUser := by
        simp [Notifier.fire, hs]
      unfold runCase
      rw [if_neg hi, Effect.andThen_of_error ho]
      constructor <;> rw [course_cons_refused hp] <;> simp [Notifier.fire, hs]
    · exact follows_started hi hs

theorem follows_runCases (c : TestClass) (ts : List TestCase) (n : Notifier ι) :
    Follows (ts.map fun t => ⟨c.describeCase t, t⟩) n (runCases c ts n) := by
  induction ts generalizing n with
  | nil => exact ⟨rfl, rfl, rfl⟩
  | cons t ts ih => exact (follows_runCase c t n).andThen ih

theorem heard_bracketed (d : Description) (e : Effect ι) :
    Happening.heard (bracketed d e) = Happening.heard e.trace := by
  rw [← Happening.heard_quiet, quiet_bracketed, Happening.heard_quiet]

theorem follows_runAll {rs : List (Runner Empty)}
    (h : ∀ r ∈ rs, ∀ n : Notifier ι, Follows r.plan n (run r n).2) (n : Notifier ι) :
    Follows (planAll rs) n (runAll rs n).2 := by
  induction rs generalizing n with
  | nil => exact ⟨rfl, rfl, rfl⟩
  | cons r rs ih =>
    rw [runAll_cons, planAll]
    exact (h r List.mem_cons_self n).andThen
      fun n => ih (fun r hr => h r (List.mem_cons_of_mem _ hr)) n

theorem follows_run (r : Runner Empty) (n : Notifier ι) : Follows r.plan n (run r n).2 := by
  induction r generalizing n with
  | ofClass c => exact follows_runCases c c.cases n
  | suite name children ih =>
    rw [run_suite, plan]
    exact follows_runAll ih n
  | logged inner ih =>
    rw [run_logged, plan]
    exact ⟨(ih n).outcome, (ih n).notifier, (heard_bracketed _ _).trans (ih n).heard⟩
  | other b => exact b.elim

/-- A run of a tree is the course of its plan, which is what its description lists. If it ends well,
every test was reported once, in order. It can only fail at the first test that would start while a stop
is requested, and nothing is reported from there on. -/
theorem run_follows_plan (r : Runner Empty) (n : Notifier ι) :
    r.plan.map Planned.description = (describe r).tests ∧
    let e := (run r n).2
    let c := course r.plan n
    e.outcome = c.outcome ∧ e.notifier = c.notifier ∧
      Happening.heard e.trace = (c.callbacks.flatMap fun cb => n.listeners.map (·, cb)) ∧
      match e.outcome with
      | .ok () =>
        c.callbacks = r.plan.flatMap Planned.callbacks ∧
          c.callbacks.filterMap Callback.begun? = (describe r).tests ∧
          c.callbacks.filterMap Callback.ended? = (describe r).tests ∧
          e.notifier.tally.runCount + e.notifier.tally.ignoreCount =
            n.tally.runCount + n.tally.ignoreCount + testCount r
      | .error err =>
        err = .stoppedByUser ∧ ∃ before p after, r.plan = before ++ p :: after ∧
          (course before n).outcome = .ok () ∧ p.isRefused (course before n).notifier ∧
          e.notifier = (course before n).notifier ∧
          c.callbacks = before.flatMap Planned.callbacks := by
  have follows := follows_run r n
  refine ⟨descriptions_plan r, follows.outcome, follows.notifier, follows.heard, ?_⟩
  rcases ho : (run r n).2.outcome with err | _
  · have hc : (course r.plan n).outcome = .error err := follows.outcome.symm.trans ho
    obtain ⟨he, before, p, after, hplan, hb, hp, hn, hcb⟩ := course_of_error hc
    exact ⟨he, before, p, after, hplan, hb, hp, follows.notifier.trans hn,
      hcb.trans (course_of_ok hb).1⟩
  · have hc : (course r.plan n).outcome = .ok () := follows.outcome.symm.trans ho
    obtain ⟨hcb, htally⟩ := course_of_ok hc
    have hlength : r.plan.length = testCount r := length_plan r
    simp only [follows.notifier, hcb, List.filterMap_flatMap, Planned.begun_callbacks,
      Planned.ended_callbacks, ← List.map_eq_flatMap, descriptions_plan]
    exact ⟨trivial, trivial, trivial, hlength ▸ htally⟩

/-- In a nested tree a test passes, one of its name fails, one panics with a text and one without; another one
is ignored. If the run is to stop at a failure, it ends before the first panic. -/
theorem run_follows_plan_failing :
    let case (name : String) (ending : Ending) : TestCase := ⟨name, ⟨ending, 1⟩, false⟩
    let skipped : TestCase := ⟨"w", ⟨.failed "never", 1⟩, true⟩
    let a : TestClass := ⟨"A", [case "x" .passed, skipped, case "x" (.failed "no")]⟩
    let b : TestClass := ⟨"B", [case "y" (.panicked (.text "boom")), case "z" (.panicked .other)]⟩
    let r : Runner Empty := .suite "all" [.logged (.ofClass a), .suite "more" [.ofClass b]]
    let n (failFast : Bool) : Notifier Nat := ⟨[5], .empty, false, failFast⟩
    let w : Description := .test "A" "w" []
    let x : Description := .test "A" "x" []
    let y : Description := .test "B" "y" []
    let z : Description := .test "B" "z" []
    let told : List Callback :=
      [.started x, .finished x, .ignored w, .started x, .failure ⟨x, "no"⟩, .finished x]
    let toldLater : List Callback :=
      [.started y, .failure ⟨y, "boom"⟩, .finished y,
        .started z, .failure ⟨z, "test panicked"⟩, .finished z]
    (run r (n false)).2.outcome = .ok () ∧
      Happening.heard (run r (n false)).2.trace = (told ++ toldLater).map ((5, ·)) ∧
      (run r (n false)).2.notifier.tally =
        ⟨4, 1, [⟨x, "no"⟩, ⟨y, "boom"⟩, ⟨z, "test panicked"⟩], 0⟩ ∧
      (run r (n true)).2.outcome = .error .stoppedByUser ∧
      Happening.heard (run r (n true)).2.trace = told.map ((5, ·)) ∧
      (run r (n true)).2.notifier.tally = ⟨2, 1, [⟨x, "no"⟩], 0⟩ := by
  intro case skipped a b r n w x y z told toldLater
  obtain ⟨-, ends, leaves, tells, -⟩ := run_follows_plan r (n false)
  obtain ⟨-, ends', leaves', tells', -⟩ := run_follows_plan r (n true)
  exact ⟨ends.trans rfl, tells.trans rfl, (congrArg Notifier.tally leaves).trans rfl,
    ends'.trans rfl, tells'.trans rfl, (congrArg Notifier.tally leaves').trans rfl⟩

end Runner
end Testbench
