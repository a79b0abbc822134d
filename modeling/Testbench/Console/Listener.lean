import Testbench.Console.Line
import Testbench.Notifier
import Testbench.Pending
/-!
# The console listener

It turns callbacks into console lines. A failure waits under its display name until that test finishes;
failures that no finish ever takes up are listed at the end of the run, in the order of names.
-/
namespace Testbench.Console

structure Listener where
  runStart : Option Duration
  testStart : Option Duration
  pending : Pending Description
  failedTests : List Description
  deriving DecidableEq, Repr

namespace Listener

def fresh : Listener := ⟨none, none, [], []⟩

/-- The milliseconds since a start that may not have been seen. -/
def since (start : Option Duration) (now : Duration) : Nat :=
  match start with
  | none => 0
  | some t => (now - t).millis

/-- The time printed for a run: the one reported, unless that is zero. -/
def runMillis (l : Listener) (now : Duration) (t : Tally) : Nat :=
  if t.runTime = 0 then since l.runStart now else t.runTime.millis

/-- Failures that no finish took up count as failed tests. -/
def withOrphans (l : Listener) : Listener :=
  { l with
    pending := []
    failedTests := l.failedTests ++ l.pending.inOrder Description.displayName }

/-- The listener after a callback at time `now`, and the lines that it writes. -/
def hear (l : Listener) (now : Duration) : Callback → Listener × List Line
  | .runStarted d => ({ l with runStart := some now }, [.running d.testCount])
  | .runFinished t =>
    let l' := l.withOrphans
    (l', summary t.passedCount l'.failedTests (l.runMillis now t))
  | .started d => ({ l with testStart := some now }, [.started d.reportName])
  | .failure f =>
    ({ l with pending := l.pending.put f.description.displayName f.description }, [])
  | .finished d =>
    let passed := (l.pending.lookup d.displayName).isNone
    ({ l with
        testStart := none
        pending := l.pending.erase d.displayName
        failedTests := if passed then l.failedTests else l.failedTests ++ [d] },
      [.finished d.reportName passed (since l.testStart now)])
  | .ignored _ => (l, [])

end Listener
end Testbench.Console
