import Testbench.Proofs.Console.Printed
import Testbench.Proofs.Harness.Reports
/-!
# Listing tests

A listing prints the names of the tests of the selected classes; it reads them off the description of the
suite and runs nothing. A run that no failure cuts short reports the same tests in the same order, to its
listeners and in its results, and prints how many they are.

Main definition: `Announces`. Main statement: `listing_shows_run`.
-/
namespace Testbench

/-- The name of the test that a record is about. -/
def Record.testName (r : Record) : String := r.className ++ "." ++ r.method

/-- The names of the tests that a listener is told are started or ignored. -/
def Happening.begun (listener : Nat) (trace : List (Happening Nat)) : List String :=
  (heard trace).filterMap fun x =>
    if x.1 = listener then x.2.begun?.map Description.reportName else none

namespace Planned

theorem testName_record {p : Planned} (h : p.description.isTest) :
    p.record.testName = p.description.reportName := by
  obtain ⟨m, hm⟩ := Option.isSome_iff_exists.1 h
  have hname : p.description.reportName = p.description.className ++ "." ++ m := by
    simp only [Description.reportName, Description.method?, hm]
  have hmethod : p.description.methodName = m := by
    simp only [Description.methodName, Description.method?, hm, Option.getD_some]
  rw [hname]
  unfold record
  split
  · simp [Record.testName, hmethod]
  · split <;> simp [Record.testName, hmethod]

theorem begun_happenings (p : Planned) {listener : Nat} (h : listener < 2) :
    Happening.begun listener (p.happenings [0, 1]) = [p.description.reportName] := by
  have hl : listener = 0 ∨ listener = 1 := by omega
  rcases hl with rfl | rfl <;> cases hi : p.test.ignored <;> cases hf : p.failure? <;>
    simp [happenings, Happening.begun, Callback.toEach, Happening.heard, Callback.begun?, hi, hf]

end Planned

/-! ## What is told of a run that nothing cuts short -/

theorem Happening.begun_append (listener : Nat) (a b : List (Happening Nat)) :
    begun listener (a ++ b) = begun listener a ++ begun listener b := by
  rw [begun, heard_append, List.filterMap_append]
  rfl

theorem Happening.begun_toEach {c : Callback} (h : c.begun? = none) (listener : Nat)
    (listeners : List Nat) : begun listener (c.toEach listeners) = [] := by
  refine List.filterMap_eq_nil_iff.2 fun x hx => ?_
  have hc : x.2 = c := by
    obtain ⟨h, hm, hh⟩ := List.mem_filterMap.1 hx
    obtain ⟨l, -, rfl⟩ := List.mem_map.1 hm
    cases hh
    rfl
  simp [hc, h]

theorem Scene.begun_happenings {listener : Nat} (h : listener < 2) (scenes : List Scene) :
    Happening.begun listener (scenes.flatMap (happenings [0, 1])) =
      (tests scenes).map (·.description.reportName) := by
  induction scenes with
  | nil => rfl
  | cons s scenes ih =>
    rw [List.flatMap_cons, Happening.begun_append, ih]
    cases s with
    | call c => rfl
    | refused d => rfl
    | test p =>
      have hp := p.begun_happenings h
      rw [happenings, hp]
      rfl

/-- Each listener is told of the tests of a plan that is acted in full, in order. -/
theorem Runner.begun_supervise {listener : Nat} (h : listener < 2) {n : Notifier Nat}
    (both : n.listeners = [0, 1]) {r : Runner Empty} (whole : (course r.plan n).outcome = .ok ()) :
    Happening.begun listener (supervise r n).trace = r.plan.map (·.description.reportName) := by
  have early : r.earlyEnd n = [] := by simp only [earlyEnd, whole]
  have all : acted r.scenes n = r.scenes := acted_of_ok (tests_scenes r ▸ whole)
  rw [(supervise_eq r n).2, both, early, all, Happening.begun_append, Happening.begun_append,
    Happening.begun_append, Happening.begun_toEach rfl, Happening.begun_toEach rfl,
    Scene.begun_happenings h, tests_scenes]
  simp [Happening.begun]

/-! ## Announced numbers -/

namespace Console

/-- The closing block announces and lists nothing. -/
theorem Line.announced_of_isClosing {l : Line} (h : l.isClosing = true ∨ l = .blank) :
    l.running? = none ∧ l.suiteStarted? = none ∧ l.isListed = false := by
  obtain hl | rfl := h
  · cases l <;> first | exact ⟨rfl, rfl, rfl⟩ | cases hl
  · exact ⟨rfl, rfl, rfl⟩

end Console

theorem Scene.running_lines (s : Scene) : s.lines.filterMap Console.Line.running? = [] := by
  cases s with
  | call c => cases c <;> rfl
  | refused d => rfl
  | test p =>
    rw [lines, Planned.lines]
    split <;> rfl

theorem Scene.isListed_of_mem_lines {s : Scene} {l : Console.Line} (h : l ∈ s.lines) :
    l.isListed = false := by
  cases s with
  | call c =>
    cases c with
    | started d count =>
      obtain rfl := List.mem_singleton.1 h
      rfl
    | finished d count millis => rcases List.mem_pair.1 h with rfl | rfl <;> rfl
  | refused d => exact absurd h List.not_mem_nil
  | test p =>
    rw [lines, Planned.lines] at h
    split at h
    · exact absurd h List.not_mem_nil
    · rcases List.mem_pair.1 h with rfl | rfl <;> rfl

theorem Planned.suiteStarted_lines (p : Planned) :
    p.lines.filterMap Console.Line.suiteStarted? = [] := by
  unfold lines
  split <;> rfl

theorem TestClass.testCount_describe (c : TestClass) : c.describe.testCount = c.planned.length :=
  (Runner.length_plan (.ofClass c)).symm

/-- The lines about a class announce as many tests as it has. -/
theorem TestClass.suiteStarted_lines (c : TestClass) :
    (c.scenes.flatMap Scene.lines).filterMap Console.Line.suiteStarted? =
      [(c.planned.length, c.name)] := by
  have tests : ((c.planned.map Scene.test).flatMap Scene.lines).filterMap
      Console.Line.suiteStarted? = [] := by
    rw [List.flatMap_map, List.filterMap_flatMap]
    exact List.flatMap_eq_nil_iff.2 fun p _ => p.suiteStarted_lines
  rw [scenes, List.flatMap_cons, List.flatMap_append, List.filterMap_append, List.filterMap_append,
    tests, testCount_describe]
  rfl

namespace Harness

/-- All suites together announce as many tests as are planned. -/
theorem sum_suiteStarted_lines (cs : List TestClass) :
    ((((loggedSuite cs).scenes.flatMap Scene.lines).filterMap Console.Line.suiteStarted?).map
      Prod.fst).sum = (loggedSuite cs).plan.length := by
  rw [scenes_loggedSuite, plan_loggedSuite, List.flatMap_assoc, List.filterMap_flatMap,
    List.map_flatMap, List.length_flatMap, List.map_eq_flatMap]
  refine congrArg List.sum (List.flatMap_congr fun c _ => ?_)
  rw [c.suiteStarted_lines]
  rfl

/-! ## Listing and running -/

/-- The same tests in the results and in what each of two listeners is told; and their number in what is
printed at the start of the run and, altogether, at the start of its suites. -/
structure Announces (names : List String) (r : Results) (trace : List (Happening Nat))
    (printed : List String) : Prop where
  records : r.records.map Record.testName = names
  told : ∀ listener < 2, Happening.begun listener trace = names
  running : Console.beginning "[==========] Running " printed =
    ["[==========] Running " ++ toString names.length ++ " tests."]
  suites : ∃ suites : List (Nat × String),
    Console.beginning "[----------] Running " printed = suites.map (fun started =>
      "[----------] Running " ++ toString started.1 ++ " tests from " ++ started.2 ++ ".") ∧
    (suites.map Prod.fst).sum = names.length

/-- The lines of a listing name the planned tests. -/
theorem lines_listing {o : Options} (lists : o.list = true) {classes cs : List TestClass} {host : Host}
    (h : chosen classes o.pattern = .ok cs) (works : host.consoleWorks = true) :
    Output.lines (runClasses classes o host).outputs =
      ((loggedSuite cs).plan.map (·.description.reportName)).map .listed := by
  have emitted (out : List Output) : (stage o.resultsFile host).emit out = out :=
    Stage.emit_of_consoleWorks (by exact works) out
  have names : listing (loggedSuite cs) =
      (((loggedSuite cs).plan.map (·.description.reportName)).map .listed).map .line := by
    rw [listing, ← Runner.descriptions_plan, List.map_map, List.map_map, List.map_map]
    rfl
  simp only [runClasses_eq, h, lists, if_true, emitted, names, Output.lines_append,
    Output.lines_map_event, Output.lines_map_line, List.nil_append]

/-- A listing prints the bare names of the planned tests. -/
theorem printed_listing {o : Options} (lists : o.list = true) {classes cs : List TestClass}
    {host : Host} (h : chosen classes o.pattern = .ok cs) (works : host.consoleWorks = true) :
    Output.printed (runClasses classes o host).outputs =
      (loggedSuite cs).plan.map (·.description.reportName) := by
  have bare : Console.Line.text ∘ Console.Line.listed = id := rfl
  rw [Output.printed, lines_listing lists h works, List.map_map, bare, List.map_id]

/-- The lines of a supervised run list nothing. -/
theorem unlisted_supervise {path : Path} {host : Host} (works : host.consoleWorks = true)
    (writable : host.files.Writable path) {n : Notifier Nat} (both : n.listeners = [0, 1])
    (r : Runner Empty) :
    ∀ l ∈ Output.lines ((stage (some path) host).play (r.supervise n).trace).2,
      l.isListed = false := by
  intro l h
  rw [(play_supervise works writable both r).1] at h
  rcases List.mem_cons.1 h with rfl | h
  · rfl
  rcases List.mem_append.1 h with h | h
  · obtain ⟨s, -, hs⟩ := List.mem_flatMap.1 h
    exact Scene.isListed_of_mem_lines hs
  · exact (Console.Line.announced_of_isClosing (Console.of_mem_summary h)).2.2

/-- A run of a suite that nothing cuts short announces the tests of its plan. -/
theorem announces_supervise {path : Path} {host : Host} (works : host.consoleWorks = true)
    (writable : host.files.Writable path) {n : Notifier Nat} (both : n.listeners = [0, 1])
    {cs : List TestClass} (whole : (course (loggedSuite cs).plan n).outcome = .ok ()) :
    let run := (loggedSuite cs).supervise n
    let x := (stage (some path) host).play run.trace
    let names := (loggedSuite cs).plan.map (·.description.reportName)
    ∃ r : Results, x.1.host.files.readText path = .ok r.text ∧
      (names.length < UInt64.size → Results.load path x.1.host.files = .ok r) ∧
        Announces names r run.trace (Output.printed x.2) := by
  obtain ⟨hlines, hfile⟩ := play_supervise works writable both (loggedSuite cs)
  have all : acted (loggedSuite cs).scenes n = (loggedSuite cs).scenes :=
    acted_of_ok (Runner.tests_scenes (loggedSuite cs) ▸ whole)
  -- Nothing is cut off, so the file and the lines tell of all scenes.
  rw [all] at hlines hfile
  have records := Scene.records_results (loggedSuite cs).scenes ((loggedSuite cs).total n).runTime
  rw [Scene.records, Runner.tests_scenes] at records
  refine ⟨_, hfile, fun few => ?load, ?_⟩
  case load =>
    refine Results.load_of_readText (Scene.fits_results _ _ ?_) hfile
    rwa [records, List.length_map, ← List.length_map (·.description.reportName)]
  have unlisted := unlisted_supervise works writable both (loggedSuite cs)
  constructor
  case records =>
    rw [records, List.map_map]
    exact List.map_congr_left fun p hp => Planned.testName_record (Runner.isTest_of_mem_plan hp)
  case told => exact fun listener h => Runner.begun_supervise h both whole
  case running =>
    have scenes : ((loggedSuite cs).scenes.flatMap Scene.lines).filterMap
        Console.Line.running? = [] := by
      rw [List.filterMap_flatMap]
      exact List.flatMap_eq_nil_iff.2 fun s _ => s.running_lines
    have closing := Console.filterMap_summary fun l hl => (Console.Line.announced_of_isClosing hl).1
    have opening (n : Nat) (lines : List Console.Line) :
        (Console.Line.running n :: lines).filterMap Console.Line.running? =
          n :: lines.filterMap Console.Line.running? := rfl
    rw [Output.printed, Console.beginning_texts fun l hl => Console.beginning_running (unlisted l hl),
      hlines, opening, List.filterMap_append, scenes, closing, ← Runner.length_plan, List.length_map]
    rfl
  case suites =>
    have closing :=
      Console.filterMap_summary fun l hl => (Console.Line.announced_of_isClosing hl).2.1
    refine ⟨_, Console.beginning_texts fun l hl => Console.beginning_suiteStarted (unlisted l hl), ?_⟩
    rw [hlines, List.filterMap_cons_none rfl, List.filterMap_append, closing, List.append_nil,
      sum_suiteStarted_lines, List.length_map]

/-- A run of the chosen classes that is not to stop at a failure announces their tests. -/
theorem announces_run {o : Options} {path : Path} {host : Host} (runs : o.list = false)
    (full : o.failFast = false) (file : o.resultsFile = some path) (works : host.consoleWorks = true)
    (writable : host.files.Writable path) {classes cs : List TestClass}
    (h : chosen classes o.pattern = .ok cs) :
    let run := runClasses classes o host
    let names := (loggedSuite cs).plan.map (·.description.reportName)
    ∃ r : Results, run.host.files.readText path = .ok r.text ∧
      (names.length < UInt64.size → Results.load path run.host.files = .ok r) ∧
        Announces names r run.trace (Output.printed run.outputs) := by
  intro run
  obtain ⟨hlines, hhost⟩ := play_runClasses runs h host
  rw [Output.printed, hlines, ← Output.printed, hhost, trace_runClasses runs h host, file]
  exact announces_supervise works writable rfl (course_of_not_failFast full rfl _)

/-- A listing fails as the run does. If the run is not to stop at a failure and its results can be
written, the listing prints exactly the names of the tests that the run reports. -/
theorem listing_shows_run (classes : List TestClass) (o : Options) (host : Host) :
    let listing := runClasses classes { o with list := true } host
    let run := runClasses classes { o with list := false } host
    (∀ e, listing.outcome = .error e ↔ run.outcome = .error e) ∧
      ∀ path t, o.failFast = false → o.resultsFile = some path → host.consoleWorks = true →
        host.files.Writable path → run.outcome = .ok t →
        let names := Output.printed listing.outputs
        ∃ r, run.host.files.readText path = .ok r.text ∧
          (names.length < UInt64.size → Results.load path run.host.files = .ok r) ∧
            Announces names r run.trace (Output.printed run.outputs) := by
  intro listing run
  have outcome : run.outcome = (chosen classes o.pattern).map fun cs =>
      (loggedSuite cs).total (notifier (stage o.resultsFile host) o.failFast) :=
    outcome_runClasses rfl classes host
  refine ⟨fun e => ?_, fun path t full file works writable ended => ?_⟩
  · rw [outcome]
    cases hc : chosen classes o.pattern <;> simp [listing, runClasses_eq, hc, Except.map]
  · cases hc : chosen classes o.pattern with
    | error e => simp [outcome, hc, Except.map] at ended
    | ok cs =>
      have names := printed_listing (o := { o with list := true }) rfl hc works
      rw [names]
      exact announces_run (o := { o with list := false }) rfl full file works writable hc

/-- A pattern leaves out one class and one case of the other, of which one case is ignored and one of a
repeated name fails. -/
theorem listing_shows_run_filtered :
    let case (name : String) (ending : Ending) : TestCase := ⟨name, ⟨ending, 1000000⟩, false⟩
    let off : TestCase := ⟨"off", ⟨.passed, 0⟩, true⟩
    let classes : List TestClass :=
      [⟨"A", [case "x" .passed, case "x" (.failed "no"), case "y" .passed, off]⟩,
        ⟨"B", [case "x" .passed]⟩]
    let path := Path.ofString "out.json"
    let o := { Options.none with pattern := some "A.*-*y", resultsFile := some path }
    let t : Tally := ⟨2, 1, [⟨.test "A" "x" [], "no"⟩], 2000000⟩
    let listing := runClasses classes { o with list := true } .empty
    let run := runClasses classes { o with list := false } .empty
    o.failFast = false ∧ o.resultsFile = some path ∧ Host.empty.consoleWorks = true ∧
      Host.empty.files.Writable path ∧ run.outcome = .ok t ∧
      Output.printed listing.outputs = ["A.x", "A.x", "A.off"] ∧
      Output.printed run.outputs =
        ["[==========] Running 3 tests.", "[----------] Running 3 tests from A.",
          "[ RUN      ] A.x", "[       OK ] A.x (1 ms)", "[ RUN      ] A.x",
          "[  FAILED  ] A.x (1 ms)", "[----------] Run 3 test cases from A (2 ms)", "",
          "[==========] 2 tests ran. (2 ms total)", "[  PASSED  ] 1 tests.",
          "[  FAILED  ] 1 tests, listed below:", "[  FAILED  ] A.x", "", "1 FAILED TESTS"] ∧
      ∃ r, run.host.files.readText path = .ok r.text ∧ Results.load path run.host.files = .ok r ∧
        Announces ["A.x", "A.x", "A.off"] r run.trace (Output.printed run.outputs) := by
  intro case off classes path o t listing run
  have hrun : run = runClasses classes { o with list := false } .empty := rfl
  have writable : Host.empty.files.Writable path := by decide +kernel
  have ended : run.outcome = .ok t := by decide +kernel
  have names : Output.printed listing.outputs = ["A.x", "A.x", "A.off"] := by decide +kernel
  obtain ⟨r, text, loaded, announces⟩ :=
    (listing_shows_run classes o .empty).2 path t rfl rfl rfl writable ended
  rw [← hrun] at text
  rw [names, ← hrun] at loaded announces
  have printed : Output.printed run.outputs =
      ["[==========] Running 3 tests.", "[----------] Running 3 tests from A.",
        "[ RUN      ] A.x", "[       OK ] A.x (1 ms)", "[ RUN      ] A.x",
        "[  FAILED  ] A.x (1 ms)", "[----------] Run 3 test cases from A (2 ms)", "",
        "[==========] 2 tests ran. (2 ms total)", "[  PASSED  ] 1 tests.",
        "[  FAILED  ] 1 tests, listed below:", "[  FAILED  ] A.x", "", "1 FAILED TESTS"] := by
    decide +kernel
  exact ⟨rfl, rfl, rfl, writable, ended, names, printed, r, text, loaded (by decide), announces⟩

end Harness
end Testbench
