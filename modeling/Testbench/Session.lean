import Testbench.Harness
import Testbench.Runner.Scripted
/-!
# Sessions

A session holds one runner, one notifier and the stage they play on, and serves requests one after
another: questions about the runner, filters, runs, and single firings.
-/
namespace Testbench

inductive Request where
  | describe
  | tests
  | count
  | size
  | isFilterable
  | filterBy (f : Filter)
  | filterByPattern (spec : String)
  | run
  | supervise
  | renew (failFast : Bool)
  | isStopped
  | tally
  | read (path : Path)
  | fire (f : Firing)

inductive Reply where
  | nothing
  | done
  | failed (e : Error)
  | description (d : Description)
  | names (ns : List String)
  | number (n : Nat)
  | size (n : Option Nat)
  | flag (b : Bool)
  | tally (t : Tally)
  | text (s : Option String)

structure Session (β : Type) where
  runner : Runner β
  notifier : Notifier Nat
  stage : Stage

namespace Session
variable {β : Type}

def start (r : Runner β) (s : Stage) (failFast : Bool) : Session β :=
  ⟨r, Harness.notifier s failFast, s⟩

/-- The session after a trace was played. -/
def play (s : Session β) (trace : List (Happening Nat)) : Session β × List Output :=
  let (stage, out) := s.stage.play trace
  ({ s with stage }, out)

def verdict : Except Error Unit → Reply
  | .ok () => .done
  | .error e => .failed e

def filter [RunnerKind β] (s : Session β) (f : Filter) : Session β × Reply × List Output :=
  let x := s.runner.filter f
  ({ s with runner := x.runner }, verdict x.outcome, x.log.map .event)

def run [RunnerKind β] (s : Session β) : Session β × Reply × List Output :=
  let (runner, e) := s.runner.run s.notifier
  let (s, out) := { s with runner, notifier := e.notifier }.play e.trace
  (s, verdict e.outcome, out)

def supervise [RunnerKind β] (s : Session β) : Session β × Reply × List Output :=
  let x := s.runner.supervise s.notifier
  let (s, out) := { s with runner := x.runner, notifier := x.notifier }.play x.trace
  (s, match x.outcome with | .ok t => .tally t | .error e => .failed e, out)

/-- A single firing; only the end of a run has an answer of its own. -/
def fire (s : Session β) (f : Firing) : Session β × Reply × List Output :=
  let e := s.notifier.fire f
  let (s, out) := { s with notifier := e.notifier }.play e.trace
  let reply : Reply :=
    match e.outcome, f with
    | .error e', _ => .failed e'
    | .ok (), .runFinished _ => .tally e.notifier.tally
    | .ok (), _ => .nothing
  (s, reply, out)

/-- The session after a request, the reply, and what was put out meanwhile. -/
def serve [RunnerKind β] (s : Session β) : Request → Session β × Reply × List Output
  | .describe => (s, .description s.runner.describe, [])
  | .tests => (s, .names (s.runner.describe.tests.map Description.displayName), [])
  | .count => (s, .number s.runner.testCount, [])
  | .size => (s, .size s.runner.size?, [])
  | .isFilterable => (s, .flag s.runner.isFilterable, [])
  | .filterBy f => s.filter f
  | .filterByPattern spec =>
    match PatternFilter.parse spec with
    | .error e => (s, .failed e, [])
    | .ok f => s.filter f.toFilter
  | .run => s.run
  | .supervise => s.supervise
  | .renew failFast => ({ s with notifier := .fresh failFast }, .done, [])
  | .isStopped => (s, .flag s.notifier.stopRequested, [])
  | .tally => (s, .tally s.notifier.tally, [])
  | .read path => (s, .text (s.stage.host.files.readText path).toOption, [])
  | .fire f => s.fire f

end Session
end Testbench
