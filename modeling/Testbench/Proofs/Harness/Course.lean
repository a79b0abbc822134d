import Testbench.Proofs.Harness.Run
/-!
# The course of a run

What a run with a results file does to its stage, scene by scene. Each listener goes by display names, and
lets a failure wait for its test to finish. Between two tests of a run nothing waits, so repeated names do
no harm.

Main definitions: `between` and `during` for a stage between two tests and during one. Main statements:
`play_test` for one test, `play_scenes` for all scenes, and `play_supervise` for a run from its start to its
end.
-/
namespace Testbench

namespace Planned

/-- The record of a test that is not refused. -/
def record (p : Planned) : Record :=
  let d := p.description
  let millis := p.test.body.takes.millis
  if p.test.ignored then ⟨d.className, d.methodName, .ignored, 0, none⟩
  else
    match p.failure? with
    | some f => ⟨d.className, d.methodName, .failed, millis, some f.message⟩
    | none => ⟨d.className, d.methodName, .passed, millis, none⟩

theorem fits_record (p : Planned) : p.record.Fits := by
  unfold record
  split
  · exact Nat.pos_of_neZero _
  · split <;> exact p.test.body.takes.millis_lt

/-- The console lines about a test that is not refused. -/
def lines (p : Planned) : List Console.Line :=
  if p.test.ignored then []
  else
    [.started p.description.reportName,
      .finished p.description.reportName (!p.fails) p.test.body.takes.millis]

end Planned

namespace Scene

def lines : Scene → List Console.Line
  | call c => SuiteLogger.lines c
  | test p => p.lines
  | refused _ => []

/-- The tests that fail in some scenes. -/
def failed (scenes : List Scene) : List Description :=
  ((tests scenes).filter Planned.fails).map Planned.description

/-- The records of the tests in some scenes. -/
def records (scenes : List Scene) : List Record := (tests scenes).map Planned.record

/-- The results that hold the records of some scenes. -/
def results (scenes : List Scene) (time : Duration) : Results :=
  { (records scenes).foldl Results.add .empty with millis := time.millis }

theorem counted_results (scenes : List Scene) (time : Duration) : (results scenes time).Counted := by
  obtain ⟨hpassed, hfailed, hignored⟩ := Results.counted_empty.addAll (records scenes)
  exact ⟨hpassed, hfailed, hignored⟩

theorem records_results (scenes : List Scene) (time : Duration) :
    (results scenes time).records = records scenes :=
  Results.records_addAll .empty (records scenes)

/-- The results of a run can be stored, unless there are too many tests to count. -/
theorem fits_results (scenes : List Scene) (time : Duration)
    (few : (results scenes time).records.length < UInt64.size) : (results scenes time).Fits := by
  refine (counted_results scenes time).fits time.millis_lt ?_ few
  rw [records_results, records]
  intro record hrecord
  obtain ⟨p, -, rfl⟩ := List.mem_map.1 hrecord
  exact p.fits_record

theorem failed_cons (s : Scene) (scenes : List Scene) :
    failed (s :: scenes) = failed [s] ++ failed scenes := by
  rw [failed, failed, failed, ← List.map_append, ← List.filter_append, ← tests_append]
  rfl

theorem records_cons (s : Scene) (scenes : List Scene) :
    records (s :: scenes) = records [s] ++ records scenes := by
  rw [records, records, records, ← List.map_append, ← tests_append]
  rfl

end Scene

namespace Harness

/-! ## One test -/

/-- A stage between two tests of a run: nothing waits for a test to finish. -/
def between (start : Option Duration) (failed : List Description) (path : Path) (r : Results)
    (host : Host) (clock : Duration) : Stage :=
  watched ⟨start, none, [], failed⟩ ⟨path, r, [], []⟩ host clock

/-- A stage during a test that was started at a given time. A failure of the test, if there is one, waits
for the test to finish. -/
def during (d : Description) (since : Duration) (waiting : Option String) (start : Option Duration)
    (failed : List Description) (path : Path) (r : Results) (host : Host) (clock : Duration) :
    Stage :=
  watched ⟨start, some since, waiting.toList.map fun _ => (d.displayName, d), failed⟩
    ⟨path, r, [(d.displayName, since)],
      waiting.toList.map fun message => (d.displayName, ⟨d, message⟩)⟩ host clock

variable {start : Option Duration} {failed : List Description} {path : Path} {r : Results}
  {host : Host} {clock : Duration}

theorem play_ignored (d : Description) :
    (between start failed path r host clock).play ((Callback.ignored d).toEach [0, 1]) =
      (between start failed path (r.add ⟨d.className, d.methodName, .ignored, 0, none⟩) host clock,
        []) := by
  rw [between, play_toEach, hostAfter_of_ne _ _ _ (by simp)]
  rfl

theorem play_started (works : host.consoleWorks = true) (d : Description) :
    (between start failed path r host clock).play ((Callback.started d).toEach [0, 1]) =
      (during d clock none start failed path r host clock, [.line (.started d.reportName)]) := by
  rw [between, play_toEach, hostAfter_of_ne _ _ _ (by simp),
    Stage.emit_of_consoleWorks (by exact works)]
  rfl

theorem play_failure (d : Description) (since : Duration) (message : String) :
    (during d since none start failed path r host clock).play
        ((Callback.failure ⟨d, message⟩).toEach [0, 1]) =
      (during d since (some message) start failed path r host clock, []) := by
  rw [during, play_toEach, hostAfter_of_ne _ _ _ (by simp)]
  rfl

/-- The end of a test takes up what waits. -/
theorem play_finished (works : host.consoleWorks = true) (d : Description) (since : Duration)
    (waiting : Option String) :
    let millis := (clock - since).millis
    let status : Status := if waiting.isSome then .failed else .passed
    (during d since waiting start failed path r host clock).play
        ((Callback.finished d).toEach [0, 1]) =
      (between start (failed ++ waiting.toList.map fun _ => d) path
          (r.add ⟨d.className, d.methodName, status, millis, waiting⟩) host clock,
        [.line (.finished d.reportName waiting.isNone millis)]) := by
  rw [during, play_toEach, hostAfter_of_ne _ _ _ (by simp),
    Stage.emit_of_consoleWorks (by exact works)]
  cases waiting <;>
    simp [between, Console.Listener.hear, Console.Listener.since, Results.Listener.hear,
      Results.Listener.collect, Results.Listener.resultsAfter_eq, Results.Listener.verdict,
      Results.Listener.sinceStart, Pending.erase]

/-- A test is reported to the end. -/
theorem play_test (works : host.consoleWorks = true) (p : Planned) :
    let x := (between start failed path r host clock).play (p.happenings [0, 1])
    x.1 = between start (failed ++ Scene.failed [.test p]) path (r.add p.record) host
        (clock + p.takes) ∧
      Output.lines x.2 = p.lines := by
  cases hi : p.test.ignored with
  | true =>
    simp [Planned.happenings, Planned.record, Planned.lines, Planned.takes, Planned.fails,
      Planned.reported?, Scene.failed, hi, play_ignored]
  | false =>
    let d := p.description
    let takes := p.test.body.takes
    let waiting := p.test.body.ending.failure?
    let status : Status := if waiting.isSome then .failed else .passed
    let started := during d clock none start failed path r host clock
    -- The body of the test takes its time before anything else is told.
    have wait : { started with clock := started.clock + takes } =
        during d clock none start failed path r host (clock + takes) := rfl
    have fails : (during d clock none start failed path r host (clock + takes)).play
          (p.failure?.toList.flatMap fun f => (Callback.failure f).toEach [0, 1]) =
        (during d clock waiting start failed path r host (clock + takes), []) := by
      rw [Planned.failure?_eq]
      cases he : p.test.body.ending.failure? with
      | none => simp [waiting, he, Stage.play]
      | some message => simp [waiting, he, play_failure, d]
    have whole : (between start failed path r host clock).play (p.happenings [0, 1]) =
        (between start (failed ++ waiting.toList.map fun _ => d) path
          (r.add ⟨d.className, d.methodName, status, takes.millis, waiting⟩) host (clock + takes),
        [.line (.started d.reportName), .event (Runner.caseDone d p.test.body),
          .line (.finished d.reportName waiting.isNone takes.millis)]) := by
      rw [Planned.happenings, hi, if_neg Bool.false_ne_true, List.append_assoc, List.append_assoc,
        Stage.play_append, play_started works, List.cons_append, Stage.play_passed, wait,
        List.cons_append, Stage.play_logged, List.nil_append, Stage.play_append, fails,
        play_finished works, Nat.add_sub_cancel_left]
      rfl
    rw [whole]
    cases he : p.test.body.ending.failure? <;>
      simp [Planned.record, Planned.lines, Planned.takes, Planned.fails, Planned.reported?,
        Planned.failure?_eq, Scene.failed, hi, he, waiting, status, takes, d]

/-! ## All scenes -/

/-- Nothing waits between two tests of a run, whatever it goes through. -/
theorem play_scenes (works : host.consoleWorks = true) (scenes : List Scene) :
    let x := (between start failed path r host clock).play
      (scenes.flatMap (Scene.happenings [0, 1]))
    x.1 = between start (failed ++ Scene.failed scenes) path
        ((Scene.records scenes).foldl Results.add r) host (clock + Scene.time scenes) ∧
      Output.lines x.2 = scenes.flatMap Scene.lines := by
  induction scenes generalizing failed r clock with
  | nil => simp [Scene.failed, Scene.records, Scene.time, Stage.play]
  | cons s scenes ih =>
    have step : let y := (between start failed path r host clock).play (s.happenings [0, 1])
        y.1 = between start (failed ++ Scene.failed [s]) path ((Scene.records [s]).foldl Results.add r)
            host (clock + s.takes) ∧
          Output.lines y.2 = s.lines := by
      cases s with
      | test p => exact play_test works p
      | call c =>
        simp [Scene.happenings, between, play_suite, Scene.failed, Scene.records, Scene.takes,
          Scene.lines, Stage.emit_of_consoleWorks (s := watched _ _ host clock) works]
      | refused d =>
        simp [Scene.happenings, Stage.play, Scene.failed, Scene.records, Scene.takes, Scene.lines]
    obtain ⟨hstage, hlines⟩ := step
    obtain ⟨hstage', hlines'⟩ := @ih (failed ++ Scene.failed [s])
      ((Scene.records [s]).foldl Results.add r) (clock + s.takes)
    rw [List.flatMap_cons, Stage.play_append, hstage, Scene.failed_cons s scenes,
      Scene.records_cons s scenes]
    refine ⟨?_, ?_⟩
    · rw [hstage', List.append_assoc, List.foldl_append, Scene.time, Scene.time, List.map_cons,
        List.sum_cons, Nat.add_assoc]
    · rw [Output.lines_append, hlines, hlines', List.flatMap_cons]

/-! ## From the start of a run to its end -/

/-- The end of a run during which every failure was taken up. -/
theorem play_end (works : host.consoleWorks = true) (writable : host.files.Writable path) {t : Tally}
    (ht : t.runTime = clock) :
    let x := (between (some 0) failed path r host clock).play
      ((Callback.runFinished t).toEach [0, 1])
    Output.lines x.2 = Console.summary t.passedCount failed t.runTime.millis ∧
      x.1.host.files.readText path = .ok { r with millis := t.runTime.millis }.text := by
  let c : Console.Listener := ⟨some 0, none, [], failed⟩
  let l : Results.Listener := ⟨path, r, [], []⟩
  obtain ⟨hlines, hfile⟩ := play_runFinished (c := c) (r := l) clock works writable t
  have hfailed : c.withOrphans.failedTests = failed := by simp [c, Console.Listener.withOrphans]
  have hmillis : c.runMillis clock t = t.runTime.millis := by
    by_cases h0 : t.runTime = 0 <;>
      simp [c, Console.Listener.runMillis, Console.Listener.since, ← ht, h0]
  have hresults : (l.collect clock (.runFinished t)).results =
      { r with millis := t.runTime.millis } := by
    simp [l, Results.Listener.collect, Results.Listener.withOrphans, Results.Listener.withTime]
  rw [hfailed, hmillis] at hlines
  rw [hresults] at hfile
  exact ⟨hlines, hfile⟩

/-- A supervised run with a results file: its start, what is acted, and its end are reported. -/
theorem play_supervise (works : host.consoleWorks = true) (writable : host.files.Writable path)
    {n : Notifier Nat} (both : n.listeners = [0, 1]) (suite : Runner Empty) :
    let x := (stage (some path) host).play (suite.supervise n).trace
    let scenes := acted suite.scenes n
    let t := suite.total n
    Output.lines x.2 = .running suite.describe.testCount :: (scenes.flatMap Scene.lines ++
        Console.summary t.passedCount (Scene.failed scenes) t.runTime.millis) ∧
      x.1.host.files.readText path = .ok (Scene.results scenes t.runTime).text := by
  intro x scenes t
  have opening : (stage (some path) host).play
      ((Callback.runStarted suite.describe).toEach [0, 1]) =
        (between (some 0) [] path .empty host 0, [.line (.running suite.describe.testCount)]) := by
    rw [stage_some, play_toEach, hostAfter_of_ne _ _ _ (by simp),
      Stage.emit_of_consoleWorks (by exact works)]
    rfl
  obtain ⟨hstage, hlines⟩ := @play_scenes (some 0) [] path .empty host 0 works scenes
  have early (s : Stage) : (s.play (suite.earlyEnd n)).1 = s ∧
      Output.lines (s.play (suite.earlyEnd n)).2 = [] := by
    unfold Runner.earlyEnd
    cases (course suite.plan n).outcome <;> exact ⟨rfl, rfl⟩
  have htime : t.runTime = 0 + Scene.time scenes := (Nat.zero_add _).symm
  obtain ⟨hend, hfile⟩ := @play_end ([] ++ Scene.failed scenes) path
    ((Scene.records scenes).foldl Results.add .empty) host _ works writable t htime
  have htrace : (suite.supervise n).trace = (Callback.runStarted suite.describe).toEach [0, 1] ++
      (scenes.flatMap (Scene.happenings [0, 1]) ++
        (suite.earlyEnd n ++ (Callback.runFinished t).toEach [0, 1])) := by
    rw [(Runner.supervise_eq suite n).2, both]
  simp only [x, htrace, Stage.play_append, opening, hstage, (early _).1, (early _).2,
    Output.lines_append, hlines, hend]
  exact ⟨rfl, hfile⟩

end Harness
end Testbench
