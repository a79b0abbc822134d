import Testbench.Files.Basic
import Testbench.Notifier
import Testbench.Pending
import Testbench.Results.Printer
import Testbench.Results.Reader
/-!
# The results listener

It collects one record for each finished or ignored test and writes the results to a file when the run
finishes. A failure waits under its display name until that test finishes; failures that no finish ever
takes up get records of their own at the end of the run, in the order of names.
-/
namespace Testbench
namespace Results

/-- Stores results; what was there before is replaced. -/
def save (r : Results) (path : Path) (fs : Files) : Except Error Files :=
  match fs.write path r.text.toUTF8 with
  | .ok fs' => .ok fs'
  | .error e => .error (.file e)

/-- Reads results back. -/
def load (path : Path) (fs : Files) : Except Error Results :=
  match fs.readText path with
  | .ok s => ofText s
  | .error e => .error (.file e)

structure Listener where
  path : Path
  results : Results
  started : Pending Duration
  failures : Pending Failure

namespace Listener

def fresh (path : Path) : Listener := ⟨path, .empty, [], []⟩

/-- The milliseconds since a test was started, if that was seen. -/
def sinceStart (l : Listener) (name : String) (now : Duration) : Nat :=
  match l.started.lookup name with
  | none => 0
  | some t => (now - t).millis

/-- The results after a test finished; a failure that waits under its name is taken up. -/
def resultsAfter (l : Listener) (d : Description) (now : Duration) : Results :=
  let r := l.results
  let millis := l.sinceStart d.displayName now
  match l.failures.lookup d.displayName with
  | some f => push { r with failed := r.failed + 1 } (.of d .failed millis (some f.message))
  | none => push { r with passed := r.passed + 1 } (.of d .passed millis none)

/-- The record of a failure that no finish took up. -/
def orphan (f : Failure) : Record := .of f.description .failed 0 (some f.message)

/-- The results with the record of such a failure. -/
def addOrphan (r : Results) (f : Failure) : Results :=
  push { r with failed := r.failed + 1 } (orphan f)

/-- Failures that no finish took up get records. -/
def withOrphans (l : Listener) : Listener :=
  { l with
    results := (l.failures.inOrder fun f => f.description.displayName).foldl addOrphan l.results
    failures := [] }

def withTime (l : Listener) (d : Duration) : Listener :=
  { l with results := { l.results with millis := d.millis } }

/-- The event that tells how the writing of the file ended. -/
def saved (l : Listener) : Except Error Files → Log.Event
  | .ok _ =>
    ⟨.info, "suitelog::json", some "json_results_written",
      [("path", l.path.shown), ("tests", toString l.results.records.length)]⟩
  | .error e =>
    ⟨.warn, "suitelog::json", some "failed to write JSON results",
      [("path", l.path.shown), ("error", e.message)]⟩

/-- The listener after a callback at time `now`. -/
def collect (l : Listener) (now : Duration) : Callback → Listener
  | .runStarted _ => l
  | .runFinished t => l.withOrphans.withTime t.runTime
  | .started d => { l with started := l.started.put d.displayName now }
  | .failure f => { l with failures := l.failures.put f.description.displayName f }
  | .finished d =>
    { l with
      results := l.resultsAfter d now
      started := l.started.erase d.displayName
      failures := l.failures.erase d.displayName }
  | .ignored d =>
    let r := l.results
    { l with results := push { r with ignored := r.ignored + 1 } (.of d .ignored 0 none) }

/-- The listener after a callback, the files it leaves, and the events it logs. -/
def hear (l : Listener) (now : Duration) (fs : Files) (c : Callback) :
    Listener × Files × List Log.Event :=
  let l' := l.collect now c
  match c with
  | .runFinished _ =>
    let written := l'.results.save l'.path fs
    (l', written.toOption.getD fs, [l'.saved written])
  | _ => (l', fs, [])

end Listener
end Results
end Testbench
