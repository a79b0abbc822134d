import Testbench.Description
import Testbench.Duration
import Testbench.Error
import Testbench.Log.Event
/-!
# Notifying listeners

Runners fire events at a notifier. It keeps a tally, passes each event on to the listeners in the order
of their registration, and refuses to start a test once a stop is requested. What a firing does is an
`Effect`: how it ended, the notifier afterwards, and the trace of what happened, in order.

Main definitions: `Notifier.fire`, `Effect.andThen`, `Happening.duration`.
-/
namespace Testbench

structure Failure where
  description : Description
  message : String
  deriving DecidableEq, Repr

/-- Counts kept while a run is in progress. -/
structure Tally where
  runCount : Nat
  ignoreCount : Nat
  failures : List Failure
  runTime : Duration
  deriving DecidableEq, Repr

namespace Tally

def empty : Tally := ⟨0, 0, [], 0⟩

def failureCount (t : Tally) : Nat := t.failures.length

/-- The finished tests less the failures, or zero if more failures were reported. -/
def passedCount (t : Tally) : Nat := t.runCount - t.failures.length

def wasSuccessful (t : Tally) : Bool := t.failures.isEmpty

end Tally

/-- What a listener is told. -/
inductive Callback where
  | runStarted (d : Description)
  | runFinished (tally : Tally)
  | started (d : Description)
  | finished (d : Description)
  | failure (f : Failure)
  | ignored (d : Description)
  deriving DecidableEq, Repr

/-- What a runner may ask of a notifier. -/
inductive Firing where
  | runStarted (d : Description)
  | runFinished (runTime : Duration)
  | started (d : Description)
  | finished (d : Description)
  | failure (f : Failure)
  | ignored (d : Description)
  | stop
  deriving DecidableEq, Repr

/-- What is reported to the logger of suites. -/
inductive SuiteCall where
  | started (d : Description) (count : Nat)
  | finished (d : Description) (count millis : Nat)
  deriving DecidableEq, Repr

/-- One thing that happens during a run; listeners are known by keys of type `ι`. -/
inductive Happening (ι : Type) where
  | told (listener : ι) (callback : Callback)
  | suite (call : SuiteCall)
  | logged (event : Log.Event)
  | passed (time : Duration)
  deriving DecidableEq, Repr

def Happening.time {ι : Type} : Happening ι → Duration
  | passed time => time
  | _ => 0

/-- How much time passes during a trace. -/
def Happening.duration {ι : Type} : List (Happening ι) → Duration
  | [] => 0
  | h :: trace => h.time + duration trace

theorem Happening.duration_append {ι : Type} (a b : List (Happening ι)) :
    Happening.duration (a ++ b) = Happening.duration a + Happening.duration b := by
  induction a with
  | nil => simp [duration]
  | cons h a ih => rw [List.cons_append, duration, duration, ih, Nat.add_assoc]

structure Notifier (ι : Type) where
  listeners : List ι
  tally : Tally
  stopRequested : Bool
  failFast : Bool
  deriving DecidableEq, Repr

/-- How something ended, the notifier after it, and what happened meanwhile. -/
structure Effect (ι : Type) where
  outcome : Except Error Unit
  notifier : Notifier ι
  trace : List (Happening ι)

namespace Effect
variable {ι : Type}

/-- Nothing happens. -/
def idle (n : Notifier ι) : Effect ι := ⟨.ok (), n, []⟩

/-- One effect and, if it ends well, another after it. -/
def andThen (e : Effect ι) (next : Notifier ι → Effect ι) : Effect ι :=
  match e.outcome with
  | .ok () =>
    let e' := next e.notifier
    ⟨e'.outcome, e'.notifier, e.trace ++ e'.trace⟩
  | .error _ => e

theorem andThen_of_ok {e : Effect ι} (h : e.outcome = .ok ()) (next : Notifier ι → Effect ι) :
    e.andThen next = ⟨(next e.notifier).outcome, (next e.notifier).notifier,
      e.trace ++ (next e.notifier).trace⟩ := by
  simp only [andThen, h]

theorem andThen_of_error {e : Effect ι} {err : Error} (h : e.outcome = .error err)
    (next : Notifier ι → Effect ι) : e.andThen next = e := by
  simp only [andThen, h]

theorem andThen_idle (e : Effect ι) : e.andThen idle = e := by
  rcases h : e.outcome with err | _
  · rw [andThen_of_error h]
  · rw [andThen_of_ok h]
    simp [idle, ← h]

theorem andThen_assoc (e : Effect ι) (f g : Notifier ι → Effect ι) :
    (e.andThen f).andThen g = e.andThen fun n => (f n).andThen g := by
  rcases h : e.outcome with err | _
  · rw [andThen_of_error h, andThen_of_error h, andThen_of_error h]
  · rw [andThen_of_ok h, andThen_of_ok h]
    rcases hf : (f e.notifier).outcome with err | _
    · rw [andThen_of_error rfl, andThen_of_error hf, hf]
    · rw [andThen_of_ok rfl, andThen_of_ok hf, List.append_assoc]

end Effect

/-- The event that reports a refused start. -/
def refusal (d : Description) : Log.Event :=
  ⟨.debug, "suitelog::notifier", some "stop requested; refusing to start test",
    [("test", d.displayName)]⟩

namespace Notifier
variable {ι : Type}

/-- A notifier without listeners, on which nothing was fired yet. -/
def fresh (failFast : Bool) : Notifier ι := ⟨[], .empty, false, failFast⟩

def addListener (n : Notifier ι) (l : ι) : Notifier ι := { n with listeners := n.listeners ++ [l] }

/-- Every listener is told the same, in the order of registration. -/
def tell (n : Notifier ι) (c : Callback) : List (Happening ι) := n.listeners.map (.told · c)

def withTally (n : Notifier ι) (t : Tally) : Notifier ι := { n with tally := t }

/-- What one firing does. Only the start of a test can be refused. -/
def fire (n : Notifier ι) : Firing → Effect ι
  | .runStarted d => ⟨.ok (), n, n.tell (.runStarted d)⟩
  | .runFinished runTime =>
    let t := { n.tally with runTime }
    ⟨.ok (), n.withTally t, n.tell (.runFinished t)⟩
  | .started d =>
    if n.stopRequested then ⟨.error .stoppedByUser, n, [.logged (refusal d)]⟩
    else ⟨.ok (), n, n.tell (.started d)⟩
  | .finished d =>
    ⟨.ok (), n.withTally { n.tally with runCount := n.tally.runCount + 1 }, n.tell (.finished d)⟩
  | .failure f =>
    ⟨.ok (),
      { n with
        tally := { n.tally with failures := n.tally.failures ++ [f] }
        stopRequested := n.stopRequested || n.failFast },
      n.tell (.failure f)⟩
  | .ignored d =>
    ⟨.ok (), n.withTally { n.tally with ignoreCount := n.tally.ignoreCount + 1 },
      n.tell (.ignored d)⟩
  | .stop => ⟨.ok (), { n with stopRequested := true }, []⟩

end Notifier
end Testbench
