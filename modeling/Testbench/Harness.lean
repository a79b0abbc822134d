import Testbench.CommandLine.Options
import Testbench.Log.Filter
import Testbench.Stage
import Testbench.Suite
/-!
# The harness

A run of test classes: suites are built and filtered, and their tests are listed or run; then the exit
status tells how it went.

Main definitions: `Runner.supervise` brackets a run by the notices of its start and its end,
`Harness.runClasses` does what options ask for, `Harness.runProgram` starts from a command line.
-/
namespace Testbench

/-- How a supervised run ended, and everything after it. -/
structure Supervised (β ι : Type) where
  outcome : Except Error Tally
  runner : Runner β
  notifier : Notifier ι
  trace : List (Happening ι)

namespace Runner
variable {β ι : Type}

def stoppedEarly : Log.Event :=
  ⟨.warn, "suitelog::test_main", some "test run stopped early", []⟩

/-- The listeners learn that a run is over and how long it took. -/
def conclude (r : Runner β) (n : Notifier ι) (before : List (Happening ι)) (time : Duration) :
    Supervised β ι :=
  let e := n.fire (.runFinished time)
  ⟨.ok e.notifier.tally, r, e.notifier, before ++ e.trace⟩

/-- Runs a runner between the notices of the start and the end of a run. A stop that was asked for ends
the run early and well; any other error ends it without a notice. -/
def supervise [RunnerKind β] (r : Runner β) (n : Notifier ι) : Supervised β ι :=
  let opening := n.fire (.runStarted r.describe)
  let (after, e) := r.run opening.notifier
  let trace := opening.trace ++ e.trace
  let time := Happening.duration e.trace
  match e.outcome with
  | .ok () => conclude after e.notifier trace time
  | .error .stoppedByUser => conclude after e.notifier (trace ++ [.logged stoppedEarly]) time
  | .error e' => ⟨.error e', after, e.notifier, trace⟩

end Runner

/-- There is no runner of this kind. -/
instance : RunnerKind Empty := ⟨Empty.elim, Empty.elim, Empty.elim⟩

namespace Harness

/-- How a run of classes ended, what happened, what it put out, and how it left the host. -/
structure Report where
  outcome : Except Error Tally
  trace : List (Happening Nat)
  outputs : List Output
  host : Host

/-- The suite of all classes, filtered if a pattern is given, and the events on the way. -/
def select (classes : List TestClass) (pattern : Option String) :
    Except Error (Runner Empty) × List Log.Event :=
  match Runner.logging .plain classes with
  | .error e => (.error e, [])
  | .ok suite =>
    match pattern with
    | none => (.ok suite, [])
    | some spec =>
      match PatternFilter.parse spec with
      | .error e => (.error e, [])
      | .ok f =>
        let x := suite.filter f.toFilter
        (x.outcome.map fun () => x.runner, x.log)

def running (suite : Runner Empty) : Log.Event :=
  ⟨.info, "suitelog::test_main", some "running suite",
    [("classes", toString (suite.size?.getD 0)), ("tests", toString suite.testCount)]⟩

/-- The console listens first, the results file second if there is one. -/
def stage (resultsFile : Option Path) (host : Host) : Stage where
  listeners := .console .fresh :: (resultsFile.map fun p => .results (.fresh p)).toList
  logger := .both .console .events
  host
  clock := 0

/-- A notifier with all listeners of a stage, on which nothing was fired yet. -/
def notifier (s : Stage) (failFast : Bool) : Notifier Nat :=
  ⟨List.range s.listeners.length, .empty, false, failFast⟩

/-- The names of the selected tests. -/
def listing (suite : Runner Empty) : List Output :=
  suite.describe.tests.map fun d => .line (.listed d.reportName)

/-- Builds, filters and then lists or runs classes, as options ask. -/
def runClasses (classes : List TestClass) (o : Options) (host : Host) : Report :=
  let (selected, log) := select classes o.pattern
  let log := log.map Output.event
  match selected with
  | .error e => ⟨.error e, [], log, host⟩
  | .ok suite =>
    let s := stage o.resultsFile host
    if o.list then ⟨.ok .empty, [], log ++ s.emit (listing suite), host⟩
    else
      let run := suite.supervise (notifier s o.failFast)
      let (s', out) := s.play run.trace
      ⟨run.outcome, run.trace, log ++ .event (running suite) :: out, s'.host⟩

/-! ## Programs -/

/-- What a finished program leaves behind. -/
structure Exit where
  status : Nat
  console : String
  errors : String
  host : Host

/-- The last events, about how a run ended. -/
def closing : Except Error Tally → List Log.Event
  | .ok t =>
    if t.wasSuccessful then []
    else [⟨.info, "suitelog::test_main", some "test run failed",
      [("failed", toString t.failureCount)]⟩]
  | .error e => [⟨.error, "suitelog::test_main", some e.message, []⟩]

/-- Zero if the run was successful, and one if not. -/
def status : Except Error Tally → Nat
  | .ok t => if t.wasSuccessful then 0 else 1
  | .error _ => 1

/-- The last line about an error that ended a run. -/
def lastWords : Except Error Tally → List String
  | .ok _ => []
  | .error e => ["error: " ++ e.message]

def text (lines : List String) : String := String.join (lines.map (· ++ "\n"))

/-- What a refused command line leaves behind; a fault in it is followed by a hint. -/
def refused (r : CommandLine.Refusal) (program : String) (host : Host) : Exit :=
  if r.isFault then
    ⟨2, "", text [r.message, "", CommandLine.Refusal.usage program,
      "For more information, try '--help'."], host⟩
  else ⟨0, r.message, "", host⟩

/-- A program that runs classes as its arguments and its environment ask. -/
def runProgram (classes : List TestClass) (arguments : List CommandLine.Argument)
    (environment : Option ByteArray) (host : Host) : Exit :=
  match Options.ofArguments arguments with
  | .error r =>
    refused r ((arguments.head?.map CommandLine.programName).getD "suitelog") host
  | .ok o =>
    let spec := o.log.spec environment
    let filter := Log.Filter.ofSpec spec
    let report := runClasses classes o host
    let events := Output.events report.outputs ++ closing report.outcome
    { status := status report.outcome
      console := text (Output.printed report.outputs)
      errors := text (Log.Filter.complaints spec ++
        (events.filter filter.passes).map Log.Event.consoleLine ++ lastWords report.outcome)
      host := report.host }

end Harness
end Testbench
