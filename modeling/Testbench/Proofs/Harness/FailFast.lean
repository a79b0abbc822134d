import Testbench.Proofs.Harness.Run
import Testbench.Proofs.Runner.Brackets
/-!
# Stopping at the first failure

A run that stops at the first failure goes the way of the full run up to the first test that it refuses.
`Happening.shown` is what can be seen of this way, whatever time was measured: the calls to the logger of
suites and what listeners are told of tests.

Main statement: `failFast_cuts_short`, for the two runs of the same classes, however long their cases
take in each of them.
-/
namespace Testbench
variable {ι : Type}

/-! ## What is shown -/

/-- Whether a callback is about a test, and not about the whole run. -/
def Callback.isOfTest : Callback → Bool
  | started _ | finished _ | failure _ | ignored _ => true
  | runStarted _ | runFinished _ => false

/-- The calls to the logger of suites and the callbacks about tests, whatever time was measured. -/
def Happening.shown (trace : List (Happening ι)) : List (Happening ι) :=
  trace.filterMap fun
    | told listener callback => if callback.isOfTest then some (told listener callback) else none
    | suite call => some (suite call.untimed)
    | _ => none

namespace Happening

@[simp] theorem shown_append (a b : List (Happening ι)) : shown (a ++ b) = shown a ++ shown b :=
  List.filterMap_append

@[simp] theorem shown_passed (time : Duration) (t : List (Happening ι)) :
    shown (passed time :: t) = shown t := rfl

@[simp] theorem shown_logged (e : Log.Event) (t : List (Happening ι)) :
    shown (logged e :: t) = shown t := rfl

theorem shown_flatMap {α : Type} (f : α → List (Happening ι)) (as : List α) :
    shown (as.flatMap f) = as.flatMap fun a => shown (f a) := by
  rw [shown, List.filterMap_flatMap]
  rfl

theorem shown_toEach (listeners : List ι) (c : Callback) :
    shown (c.toEach listeners) = if c.isOfTest then c.toEach listeners else [] := by
  rw [shown, Callback.toEach, List.filterMap_map]
  cases hc : c.isOfTest with
  | true =>
    simp only [Function.comp_def, hc, if_true]
    exact congrFun List.filterMap_eq_map listeners
  | false => simp [hc]

end Happening

/-- What is shown of a scene. -/
def Scene.shown (listeners : List ι) : Scene → List (Happening ι)
  | call c => [.suite c.untimed]
  | test p => p.callbacks.flatMap fun c => c.toEach listeners
  | refused _ => []

theorem Scene.shown_happenings (listeners : List ι) (s : Scene) :
    Happening.shown (s.happenings listeners) = s.shown listeners := by
  cases s with
  | call c => rfl
  | refused d => rfl
  | test p =>
    cases hi : p.test.ignored <;> cases hf : p.failure? <;>
      simp [happenings, shown, Planned.happenings, Planned.callbacks, hi, hf,
        Happening.shown_toEach, Callback.isOfTest]

/-- A test that is not refused is seen by whoever listens. -/
theorem Scene.shown_test_ne_nil {listeners : List ι} (h : listeners ≠ []) (p : Planned) :
    (test p).shown listeners ≠ [] := by
  obtain ⟨l, ls, rfl⟩ := List.exists_cons_of_ne_nil h
  cases hi : p.test.ignored <;> simp [shown, Planned.callbacks, Callback.toEach, hi]

theorem Runner.shown_trace_supervise (r : Runner Empty) (n : Notifier ι) :
    Happening.shown (supervise r n).trace =
      (acted r.scenes n).flatMap (Scene.shown n.listeners) := by
  have early : Happening.shown (r.earlyEnd n) = [] := by
    unfold earlyEnd
    cases (course r.plan n).outcome <;> rfl
  rw [(supervise_eq r n).2]
  simp [Happening.shown_toEach, Happening.shown_flatMap, Scene.shown_happenings, early,
    Callback.isOfTest]

/-- What is acted is shown as the beginning of all scenes. -/
theorem shown_acted_begins (scenes : List Scene) (n : Notifier ι) (listeners : List ι) :
    (acted scenes n).flatMap (Scene.shown listeners) <+: scenes.flatMap (Scene.shown listeners) := by
  induction scenes generalizing n with
  | nil => exact List.prefix_rfl
  | cons s scenes ih =>
    rw [List.flatMap_cons]
    cases s with
    | call c => exact (List.prefix_append_right_inj _).2 (ih n)
    | refused d => exact (List.prefix_append_right_inj _).2 (ih n)
    | test p =>
      by_cases hp : p.isRefused n
      · rw [acted_test_refused hp]
        exact List.nil_prefix
      · rw [acted_test hp, List.flatMap_cons]
        exact (List.prefix_append_right_inj _).2 (ih _)

/-- If somebody listens, all scenes are shown only if no test is refused. -/
theorem shown_acted_eq_iff {listeners : List ι} (h : listeners ≠ []) (scenes : List Scene)
    (n : Notifier ι) :
    (acted scenes n).flatMap (Scene.shown listeners) = scenes.flatMap (Scene.shown listeners) ↔
      (course (Scene.tests scenes) n).outcome = .ok () := by
  refine ⟨?_, fun ho => by rw [acted_of_ok ho]⟩
  induction scenes generalizing n with
  | nil => exact fun _ => rfl
  | cons s scenes ih =>
    intro same
    cases s with
    | call c => exact ih n (List.append_cancel_left same)
    | refused d => exact ih n (List.append_cancel_left same)
    | test p =>
      by_cases hp : p.isRefused n
      · -- Of the refused test nothing is shown, but of the test itself something would be.
        rw [acted_test_refused hp, List.flatMap_cons, List.flatMap_cons] at same
        exact absurd (List.append_eq_nil_iff.1 same.symm).1 (Scene.shown_test_ne_nil h p)
      · rw [acted_test hp, List.flatMap_cons, List.flatMap_cons] at same
        rw [Scene.tests_test, course_cons hp]
        exact ih _ (List.append_cancel_left same)

/-! ## Plans and failures -/

/-- Once a stop is requested only ignored tests get by, and no failure is added. -/
theorem course_of_stopped {n : Notifier ι} (hs : n.stopRequested = true) (ps : List Planned) :
    ((course ps n).outcome = .ok () ↔ ∀ p ∈ ps, p.test.ignored = true) ∧
      (course ps n).notifier.tally.failures = n.tally.failures := by
  induction ps generalizing n with
  | nil => simp [course]
  | cons p ps ih =>
    cases hi : p.test.ignored with
    | false =>
      have hp : p.isRefused n := by simp [Planned.isRefused, hi, hs]
      rw [course_cons_refused hp]
      simp [hi]
    | true =>
      have hp : ¬ p.isRefused n := by simp [Planned.isRefused, hi]
      have hstop : (p.settle n).stopRequested = true := by simp [p.stopRequested_settle, hs]
      obtain ⟨ho, hf⟩ := ih hstop
      rw [course_cons hp]
      refine ⟨ho.trans (by simp [hi]), hf.trans ?_⟩
      simp [p.failures_settle, Planned.reported?, hi]

/-- A notifier that stops at the first failure keeps only that one, and refuses a test if and only if one
that is not ignored comes after the first that fails. -/
theorem course_of_failFast {n : Notifier ι} (hf : n.failFast = true) (hs : n.stopRequested = false)
    (ps : List Planned) :
    ((course ps n).outcome = .ok () ↔
        ∀ p ∈ (ps.dropWhile fun p => !p.fails).tail, p.test.ignored = true) ∧
      (course ps n).notifier.tally.failures =
        n.tally.failures ++ (ps.filterMap Planned.reported?).take 1 := by
  induction ps generalizing n with
  | nil => simp [course]
  | cons p ps ih =>
    have hp : ¬ p.isRefused n := by simp [Planned.isRefused, hs]
    have hstop : (p.settle n).stopRequested = p.fails := by simp [p.stopRequested_settle, hs, hf]
    rw [course_cons hp, List.dropWhile_cons, List.filterMap_cons]
    cases hr : p.reported? with
    | none =>
      have hfails : p.fails = false := by simp [Planned.fails, hr]
      obtain ⟨ho, hk⟩ := ih (p.failFast_settle n ▸ hf) (hstop.trans hfails)
      refine ⟨ho.trans (by simp [hfails]), hk.trans ?_⟩
      simp [p.failures_settle, hr]
    | some f =>
      -- The first test that fails requests the stop.
      have hfails : p.fails = true := by simp [Planned.fails, hr]
      obtain ⟨ho, hk⟩ := course_of_stopped (hstop.trans hfails) ps
      refine ⟨ho.trans (by simp [hfails]), hk.trans ?_⟩
      simp [p.failures_settle, hr]

/-! ## Cases without their times -/

def TestCase.untimed (t : TestCase) : TestCase := { t with body := { t.body with takes := 0 } }

/-- The same class, however long its cases take. -/
def TestClass.untimed (c : TestClass) : TestClass := { c with cases := c.cases.map TestCase.untimed }

def Planned.untimed (p : Planned) : Planned := { p with test := p.test.untimed }

theorem Planned.reported_untimed (p : Planned) : p.untimed.reported? = p.reported? := rfl

theorem Planned.callbacks_untimed (p : Planned) : p.untimed.callbacks = p.callbacks := rfl

theorem TestClass.planned_untimed (c : TestClass) :
    c.untimed.planned = c.planned.map Planned.untimed := by
  simp only [planned, untimed, List.map_map]
  rfl

theorem TestClass.describe_untimed (c : TestClass) : c.untimed.describe = c.describe := by
  simp only [describe, untimed, List.map_map]
  rfl

theorem TestClass.isEmpty_untimed (c : TestClass) : c.untimed.cases.isEmpty = c.cases.isEmpty :=
  List.isEmpty_map

namespace Harness

theorem restrict_untimed (f : PatternFilter) (c : TestClass) :
    c.untimed.restrict f = (c.restrict f).untimed := by
  simp only [TestClass.restrict, TestClass.untimed, Runner.keptCases, List.filter_map]
  rfl

theorem kept_untimed (f : PatternFilter) (classes : List TestClass) :
    kept f (classes.map TestClass.untimed) = (kept f classes).map TestClass.untimed := by
  simp only [kept, List.map_map, List.filter_map, Function.comp_def, restrict_untimed,
    TestClass.isEmpty_untimed]

theorem find?_isEmpty_untimed (classes : List TestClass) :
    (classes.map TestClass.untimed).find? (·.cases.isEmpty) =
      (classes.find? (·.cases.isEmpty)).map TestClass.untimed := by
  simp only [List.find?_map, Function.comp_def, TestClass.isEmpty_untimed]

theorem chosen_untimed (classes : List TestClass) (pattern : Option String) :
    chosen (classes.map TestClass.untimed) pattern =
      (chosen classes pattern).map (List.map TestClass.untimed) := by
  unfold chosen
  rw [find?_isEmpty_untimed]
  cases classes.find? (·.cases.isEmpty) with
  | some c => rfl
  | none =>
    cases pattern with
    | none => rfl
    | some spec =>
      cases hf : PatternFilter.parse spec with
      | error e => simp [hf, Except.map]
      | ok f =>
        simp only [hf, Option.map_none, kept_untimed, List.isEmpty_map]
        cases (kept f classes).isEmpty <;> rfl

end Harness

theorem TestClass.shown_scenes_untimed (c : TestClass) (listeners : List ι) :
    c.untimed.scenes.flatMap (Scene.shown listeners) = c.scenes.flatMap (Scene.shown listeners) := by
  have tests : (c.untimed.planned.map Scene.test).flatMap (Scene.shown listeners) =
      (c.planned.map Scene.test).flatMap (Scene.shown listeners) := by
    simp only [planned_untimed, List.flatMap_map, Scene.shown, Planned.callbacks_untimed]
  simp only [scenes, describe_untimed, List.flatMap_cons, List.flatMap_append, tests]
  rfl

namespace Harness

/-- How long cases take is not shown. -/
theorem shown_scenes_congr {cs cs' : List TestClass}
    (same : cs.map TestClass.untimed = cs'.map TestClass.untimed) (listeners : List ι) :
    (loggedSuite cs).scenes.flatMap (Scene.shown listeners) =
      (loggedSuite cs').scenes.flatMap (Scene.shown listeners) := by
  have untimed (cs : List TestClass) :
      (loggedSuite cs).scenes.flatMap (Scene.shown listeners) =
        (cs.map TestClass.untimed).flatMap
          fun c => c.scenes.flatMap (Scene.shown listeners) := by
    rw [scenes_loggedSuite, List.flatMap_assoc, List.flatMap_map]
    exact List.flatMap_congr fun c _ => (c.shown_scenes_untimed listeners).symm
  rw [untimed cs, untimed cs', same]

theorem reported_congr {cs cs' : List TestClass}
    (same : cs.map TestClass.untimed = cs'.map TestClass.untimed) :
    (loggedSuite cs).plan.filterMap Planned.reported? =
      (loggedSuite cs').plan.filterMap Planned.reported? := by
  have untimed (cs : List TestClass) : (loggedSuite cs).plan.filterMap Planned.reported? =
      (cs.map TestClass.untimed).flatMap fun c => c.planned.filterMap Planned.reported? := by
    rw [plan_loggedSuite, List.filterMap_flatMap, List.flatMap_map]
    refine List.flatMap_congr fun c _ => ?_
    simp only [TestClass.planned_untimed, List.filterMap_map, Function.comp_def,
      Planned.reported_untimed]
  rw [untimed cs, untimed cs', same]

/-! ## The two runs -/

/-- A report of a run that stops at the first failure, against a report of the full run of the same
plan. If both have a result, what is shown is the beginning of the whole, cut off only if a test that is
not ignored comes after the first that fails, and the only failure is the first of all. -/
inductive CutShort (plan : List Planned) (fast full : Report) : Prop
  | refused {e : Error} (fastEnds : fast.outcome = .error e) (fullEnds : full.outcome = .error e)
  | ran {t t' : Tally} (fastEnds : fast.outcome = .ok t) (fullEnds : full.outcome = .ok t')
    (begins : Happening.shown fast.trace <+: Happening.shown full.trace)
    (whole : Happening.shown fast.trace = Happening.shown full.trace ↔
      ∀ p ∈ (plan.dropWhile fun p => !p.fails).tail, p.test.ignored = true)
    (failures : t.failures = t'.failures.take 1)
    (successful : t.wasSuccessful = t'.wasSuccessful)

/-- Two supervised runs of the same classes, of which the first stops at the first failure. -/
theorem supervise_cutShort {cs cs' : List TestClass}
    (same : cs.map TestClass.untimed = cs'.map TestClass.untimed) {listeners : List ι}
    (heard : listeners ≠ []) :
    let n : Notifier ι := ⟨listeners, .empty, false, true⟩
    let n' : Notifier ι := ⟨listeners, .empty, false, false⟩
    let fast := (loggedSuite cs).supervise n
    let full := (loggedSuite cs').supervise n'
    let plan := (loggedSuite cs).plan
    Happening.shown fast.trace <+: Happening.shown full.trace ∧
      (Happening.shown fast.trace = Happening.shown full.trace ↔
        ∀ p ∈ (plan.dropWhile fun p => !p.fails).tail, p.test.ignored = true) ∧
      ((loggedSuite cs).total n).failures = ((loggedSuite cs').total n').failures.take 1 := by
  intro n n' fast full plan
  have whole : (course (loggedSuite cs').plan n').outcome = .ok () :=
    course_of_not_failFast rfl rfl _
  obtain ⟨hok, hfail⟩ := course_of_failFast (n := n) rfl rfl plan
  have hfast : Happening.shown fast.trace =
      (acted (loggedSuite cs).scenes n).flatMap (Scene.shown listeners) :=
    Runner.shown_trace_supervise _ n
  have hfull : Happening.shown full.trace =
      (loggedSuite cs).scenes.flatMap (Scene.shown listeners) := by
    rw [Runner.shown_trace_supervise, acted_of_ok (Runner.tests_scenes _ ▸ whole)]
    exact (shown_scenes_congr same listeners).symm
  rw [hfast, hfull]
  refine ⟨shown_acted_begins _ n listeners, ?_, ?_⟩
  · rw [shown_acted_eq_iff heard, Runner.tests_scenes]
    exact hok
  · obtain ⟨-, -, hall⟩ := tally_course whole
    calc ((loggedSuite cs).total n).failures
        = (plan.filterMap Planned.reported?).take 1 := hfail
      _ = ((loggedSuite cs').plan.filterMap Planned.reported?).take 1 := by
          rw [reported_congr same]
      _ = ((loggedSuite cs').total n').failures.take 1 := congrArg (List.take 1) hall.symm

theorem isEmpty_take_one {α : Type} (as : List α) : (as.take 1).isEmpty = as.isEmpty := by
  cases as <;> rfl

theorem listeners_stage_ne_nil (resultsFile : Option Path) (host : Host) :
    List.range (stage resultsFile host).listeners.length ≠ [] := by
  simp [stage]

/-- Stopping at the first failure cuts a run short and changes nothing before the cut. -/
theorem failFast_cuts_short {classes classes' : List TestClass}
    (same : classes.map TestClass.untimed = classes'.map TestClass.untimed) (o : Options)
    (host : Host) :
    CutShort (selected classes o.pattern)
      (runClasses classes { o with list := false, failFast := true } host)
      (runClasses classes' { o with list := false, failFast := false } host) := by
  have choice : (chosen classes o.pattern).map (List.map TestClass.untimed) =
      (chosen classes' o.pattern).map (List.map TestClass.untimed) := by
    rw [← chosen_untimed, ← chosen_untimed, same]
  let fast := runClasses classes { o with list := false, failFast := true } host
  let full := runClasses classes' { o with list := false, failFast := false } host
  have fastEnds : fast.outcome = (chosen classes o.pattern).map fun cs =>
      (loggedSuite cs).total (notifier (stage o.resultsFile host) true) :=
    outcome_runClasses rfl classes host
  have fullEnds : full.outcome = (chosen classes' o.pattern).map fun cs =>
      (loggedSuite cs).total (notifier (stage o.resultsFile host) false) :=
    outcome_runClasses rfl classes' host
  cases hc : chosen classes o.pattern with
  | error e =>
    cases hc' : chosen classes' o.pattern with
    | error e' =>
      rw [hc, hc'] at choice
      obtain rfl := Except.error.inj choice
      rw [hc] at fastEnds
      rw [hc'] at fullEnds
      exact .refused fastEnds fullEnds
    | ok cs' =>
      rw [hc, hc'] at choice
      cases choice
  | ok cs =>
    cases hc' : chosen classes' o.pattern with
    | error e' =>
      rw [hc, hc'] at choice
      cases choice
    | ok cs' =>
      rw [hc, hc'] at choice
      rw [hc] at fastEnds
      rw [hc'] at fullEnds
      obtain ⟨begins, whole, failures⟩ := supervise_cutShort (Except.ok.inj choice)
        (listeners_stage_ne_nil o.resultsFile host)
      rw [plan_loggedSuite, selected_of_chosen hc] at whole
      have hfast := trace_runClasses (o := { o with list := false, failFast := true }) rfl hc host
      have hfull := trace_runClasses (o := { o with list := false, failFast := false }) rfl hc' host
      refine .ran fastEnds fullEnds ?_ ?_ failures ?_
      · rw [hfast, hfull]
        exact begins
      · rw [hfast, hfull]
        exact whole
      · rw [Tally.wasSuccessful, Tally.wasSuccessful]
        exact (congrArg List.isEmpty failures).trans (isEmpty_take_one _)

/-- A test fails, an ignored one is still reported, and the next class is begun and then cut off. The
cases take different times in the two runs. -/
theorem failFast_cuts_short_retimed :
    let case (name : String) (ending : Ending) (takes : Duration) : TestCase :=
      ⟨name, ⟨ending, takes⟩, false⟩
    let off : TestCase := ⟨"off", ⟨.passed, 0⟩, true⟩
    let classes (a b c : Duration) : List TestClass :=
      [⟨"A", [case "ok" .passed a, case "bad" (.failed "no") b, off]⟩,
        ⟨"B", [case "bad" (.failed "no") c]⟩]
    let o := Options.none
    let fast := runClasses (classes 1 2 3) { o with list := false, failFast := true } .empty
    let full := runClasses (classes 4 5 6) { o with list := false, failFast := false } .empty
    (classes 1 2 3).map TestClass.untimed = (classes 4 5 6).map TestClass.untimed ∧
      CutShort (selected (classes 1 2 3) none) fast full ∧
      (Happening.shown fast.trace).length = 9 ∧ (Happening.shown full.trace).length = 13 := by
  intro case off classes o fast full
  have same : (classes 1 2 3).map TestClass.untimed = (classes 4 5 6).map TestClass.untimed := rfl
  exact ⟨same, failFast_cuts_short same o .empty, by decide +kernel, by decide +kernel⟩

end Harness
end Testbench
