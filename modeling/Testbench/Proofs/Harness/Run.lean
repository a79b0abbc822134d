import Testbench.Proofs.Harness.Selected
import Testbench.Proofs.Runner.Counts
import Testbench.Proofs.Stage
/-!
# Runs of classes

A run of classes is a choice among the classes, and then a supervised run or a listing of the suite that
they make.

Main statement: `runClasses_eq`.
-/
namespace Testbench
namespace Harness

/-- What a run of classes does once the choice among the classes is made. -/
theorem runClasses_eq (classes : List TestClass) (o : Options) (host : Host) :
    runClasses classes o host =
      let log := (select classes o.pattern).2.map Output.event
      let s := stage o.resultsFile host
      match chosen classes o.pattern with
      | .error e => ⟨.error e, [], log, host⟩
      | .ok cs =>
        if o.list then ⟨.ok .empty, [], log ++ s.emit (listing (loggedSuite cs)), host⟩
        else
          let run := (loggedSuite cs).supervise (notifier s o.failFast)
          ⟨run.outcome, run.trace,
            log ++ .event (running (loggedSuite cs)) :: (s.play run.trace).2,
            (s.play run.trace).1.host⟩ := by
  have hs := select_eq classes o.pattern
  unfold runClasses
  generalize select classes o.pattern = x at hs ⊢
  obtain ⟨selection, log⟩ := x
  cases hc : chosen classes o.pattern with
  | error e =>
    rw [hc] at hs
    cases hs
    rfl
  | ok cs =>
    rw [hc] at hs
    cases hs
    rfl

/-- A run that does not list fails as the choice does, and otherwise has a result. -/
theorem outcome_runClasses {o : Options} (runs : o.list = false) (classes : List TestClass)
    (host : Host) :
    (runClasses classes o host).outcome = (chosen classes o.pattern).map fun cs =>
      (loggedSuite cs).total (notifier (stage o.resultsFile host) o.failFast) := by
  rw [runClasses_eq]
  cases chosen classes o.pattern with
  | error e => rfl
  | ok cs => simp [runs, Runner.supervise_eq, Except.map]

/-- What happens in a run that does not list. -/
theorem trace_runClasses {o : Options} (runs : o.list = false) {classes cs : List TestClass}
    (h : chosen classes o.pattern = .ok cs) (host : Host) :
    (runClasses classes o host).trace =
      ((loggedSuite cs).supervise (notifier (stage o.resultsFile host) o.failFast)).trace := by
  simp [runClasses_eq, h, runs]

/-- What a run that does not list leaves behind: the lines and the host are those of its trace. -/
theorem play_runClasses {o : Options} (runs : o.list = false) {classes cs : List TestClass}
    (h : chosen classes o.pattern = .ok cs) (host : Host) :
    let s := stage o.resultsFile host
    let x := s.play ((loggedSuite cs).supervise (notifier s o.failFast)).trace
    Output.lines (runClasses classes o host).outputs = Output.lines x.2 ∧
      (runClasses classes o host).host = x.1.host := by
  simp [runClasses_eq, h, runs]

/-! ## The scenes of a suite of classes -/

end Harness

/-- The scenes of a class that reports its start and its end. -/
def TestClass.scenes (c : TestClass) : List Scene :=
  let tests := c.planned.map Scene.test
  .call (.started c.describe c.describe.testCount) ::
    (tests ++ [.call (.finished c.describe c.describe.testCount (Scene.time tests).millis)])

theorem Harness.scenes_loggedSuite (classes : List TestClass) :
    (loggedSuite classes).scenes = classes.flatMap TestClass.scenes := by
  rw [loggedSuite, Runner.scenes, Runner.scenesAll_eq_flatMap, List.flatMap_map]
  refine List.flatMap_congr fun c _ => ?_
  simp only [Runner.scenes, Runner.describe, TestClass.scenes, TestClass.planned, List.map_map]
  rfl

end Testbench
