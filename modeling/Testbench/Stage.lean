import Testbench.Console.Listener
import Testbench.Results.Listener
import Testbench.Runner
/-!
# The stage of a run

The listeners of a run, the logger of its suites, its host and its clock. A trace is played on a stage:
listeners hear what they are told, the logger hears of suites, and the outputs come out in order. Lines
for a console that cannot be written to are lost, and nobody learns of it.

Main definitions: `Stage.perceive`, `Stage.play`.
-/
namespace Testbench

/-- Who hears of the start and the end of suites. -/
inductive SuiteLogger where
  | console
  | events
  | both (first second : SuiteLogger)
  | record
  deriving DecidableEq, Repr, Inhabited

/-- What comes out of a run. -/
inductive Output where
  | line (l : Console.Line)
  | event (e : Log.Event)
  | suite (call : SuiteCall)
  | heard (listener : Nat) (callback : Callback)
  deriving DecidableEq, Repr

namespace SuiteLogger

/-- The event of a call about a suite. -/
def event : SuiteCall → Log.Event
  | .started d count =>
    ⟨.info, "suitelog::logger", some "suite_started",
      [("suite", d.displayName), ("tests", toString count)]⟩
  | .finished d count millis =>
    ⟨.info, "suitelog::logger", some "suite_finished",
      [("suite", d.displayName), ("tests", toString count), ("elapsed_ms", toString millis)]⟩

def lines : SuiteCall → List Console.Line
  | .started d count => Console.suiteStarted d count
  | .finished d count millis => Console.suiteFinished d count millis

def hear (call : SuiteCall) : SuiteLogger → List Output
  | console => (lines call).map .line
  | events => [.event (event call)]
  | both first second => first.hear call ++ second.hear call
  | record => [.suite call]

end SuiteLogger

inductive Listener where
  | console (l : Console.Listener)
  | results (l : Results.Listener)
  | recorder (label : Nat)
  | silent

namespace Listener

/-- The listener after a callback, the files it leaves and what it puts out. -/
def hear (l : Listener) (now : Duration) (fs : Files) (c : Callback) :
    Listener × Files × List Output :=
  match l with
  | console l =>
    let (l, lines) := l.hear now c
    (.console l, fs, lines.map .line)
  | results l =>
    let (l, fs, events) := l.hear now fs c
    (.results l, fs, events.map .event)
  | recorder label => (.recorder label, fs, [.heard label c])
  | silent => (.silent, fs, [])

end Listener

/-- Where a run takes place: its files, and whether its console can be written to. -/
structure Host where
  files : Files
  consoleWorks : Bool

def Host.empty : Host := ⟨.empty, true⟩

/-- What comes out of a host: without a working console, no lines. -/
def Host.emits (h : Host) : Output → Bool
  | .line _ => h.consoleWorks
  | _ => true

structure Stage where
  listeners : List Listener
  logger : SuiteLogger
  host : Host
  clock : Duration

namespace Stage

/-- The outputs that come out on this stage. -/
def emit (s : Stage) (out : List Output) : List Output := out.filter s.host.emits

/-- The stage after its files changed. -/
def withFiles (s : Stage) (files : Files) : Stage := { s with host := { s.host with files } }

/-- The stage after one happening, and what is put out; a listener is known by its position. -/
def perceive (s : Stage) : Happening Nat → Stage × List Output
  | .told i c =>
    match s.listeners[i]? with
    | none => (s, [])
    | some l =>
      let (l, files, out) := l.hear s.clock s.host.files c
      ({ s.withFiles files with listeners := s.listeners.set i l }, s.emit out)
  | .suite call => (s, s.emit (s.logger.hear call))
  | .logged e => (s, [.event e])
  | .passed time => ({ s with clock := s.clock + time }, [])

/-- The stage after a trace, and all that is put out, in order. -/
def play (s : Stage) : List (Happening Nat) → Stage × List Output
  | [] => (s, [])
  | h :: trace =>
    let (s', out) := s.perceive h
    let (s'', out') := play s' trace
    (s'', out ++ out')

/-- A trace may be played in parts. -/
theorem play_append (s : Stage) (a b : List (Happening Nat)) :
    s.play (a ++ b) =
      (((s.play a).1.play b).1, (s.play a).2 ++ ((s.play a).1.play b).2) := by
  induction a generalizing s with
  | nil => rfl
  | cons h a ih => simp [play, ih]

end Stage

/-- The console lines among outputs. -/
def Output.lines (outputs : List Output) : List Console.Line :=
  outputs.filterMap fun | .line l => some l | _ => none

/-- What is printed to the console, write by write. -/
def Output.printed (outputs : List Output) : List String := (lines outputs).map Console.Line.text

/-- The events among outputs. -/
def Output.events (outputs : List Output) : List Log.Event :=
  outputs.filterMap fun | .event e => some e | _ => none

end Testbench
