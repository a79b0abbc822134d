import Testbench.Proofs.Runner.Scenes
/-!
# Histories of firings

Anything may be fired at a notifier, in any order. What it passes on to listeners is the history of
firings without the stops and the refused starts, and its tally counts what was passed on.

Main definitions: `Notifier.fireAll` for a history, `Notifier.told` for what listeners learn of it. Main
statement: `tally_fireAll`.
-/
namespace Testbench
variable {ι : Type}

namespace Callback

def isFinished : Callback → Bool
  | finished _ => true
  | _ => false

def isIgnored : Callback → Bool
  | ignored _ => true
  | _ => false

/-- The failure that a callback reports, if it does. -/
def failure? : Callback → Option Failure
  | failure f => some f
  | _ => none

end Callback

namespace Notifier

/-- What a firing passes on to listeners, if anything. -/
def passedOn? (n : Notifier ι) : Firing → Option Callback
  | .runStarted d => some (.runStarted d)
  | .runFinished runTime => some (.runFinished { n.tally with runTime })
  | .started d => if n.stopRequested then none else some (.started d)
  | .finished d => some (.finished d)
  | .failure f => some (.failure f)
  | .ignored d => some (.ignored d)
  | .stop => none

/-- Firings one after another, each some time after the one before it: the notifier after them, and all
that happens. A refusal does not keep the next one from being fired. -/
def fireAll (n : Notifier ι) : List (Duration × Firing) → Notifier ι × List (Happening ι)
  | [] => (n, [])
  | (time, f) :: history =>
    let e := n.fire f
    let (after, trace) := fireAll e.notifier history
    (after, .passed time :: (e.trace ++ trace))

/-- What listeners are told of a history, and when. -/
def told (n : Notifier ι) (clock : Duration) :
    List (Duration × Firing) → List (Duration × Callback)
  | [] => []
  | (time, f) :: history =>
    (n.passedOn? f).toList.map (clock + time, ·) ++ told (n.fire f).notifier (clock + time) history

theorem callbacks_told (n : Notifier ι) (clock time : Duration) (f : Firing)
    (history : List (Duration × Firing)) :
    (n.told clock ((time, f) :: history)).map Prod.snd = (n.passedOn? f).toList ++
      ((n.fire f).notifier.told (clock + time) history).map Prod.snd := by
  rw [told, List.map_append, List.map_map]
  exact congrArg (· ++ _) (List.map_id _)

/-- Each firing is passed on at most once. -/
theorem length_told (n : Notifier ι) (clock : Duration) (history : List (Duration × Firing)) :
    (n.told clock history).length ≤ history.length := by
  induction history generalizing n clock with
  | nil => exact Nat.le_refl 0
  | cons x history ih =>
    have passed : (n.passedOn? x.2).toList.length ≤ 1 := Option.length_toList_le
    have rest := ih (n.fire x.2).notifier (clock + x.1)
    rw [told, List.length_append, List.length_map, List.length_cons]
    omega

/-- Every listener is told what is passed on; nothing but an event comes of any other firing. -/
theorem trace_fire (n : Notifier ι) (f : Firing) :
    (∃ c, n.passedOn? f = some c ∧ (n.fire f).trace = c.toEach n.listeners) ∨
      (n.passedOn? f = none ∧ ∃ events : List Log.Event, (n.fire f).trace = events.map .logged) := by
  cases f with
  | started d =>
    cases hs : n.stopRequested with
    | true =>
      refine .inr ⟨by simp [passedOn?, hs], [refusal d], ?_⟩
      simp [fire, hs]
    | false =>
      refine .inl ⟨.started d, by simp [passedOn?, hs], ?_⟩
      simp [fire, hs, tell, Callback.toEach]
  | stop => exact .inr ⟨rfl, [], rfl⟩
  | _ => exact .inl ⟨_, rfl, rfl⟩

@[simp] theorem listeners_fire (n : Notifier ι) (f : Firing) :
    (n.fire f).notifier.listeners = n.listeners := by
  cases f with
  | started d => cases hs : n.stopRequested <;> simp [fire, hs]
  | _ => rfl

theorem listeners_fireAll (n : Notifier ι) (history : List (Duration × Firing)) :
    (n.fireAll history).1.listeners = n.listeners := by
  induction history generalizing n with
  | nil => rfl
  | cons x history ih => exact (ih (n.fire x.2).notifier).trans (n.listeners_fire x.2)

/-- A history may be fired in parts. -/
theorem fireAll_append (n : Notifier ι) (a b : List (Duration × Firing)) :
    n.fireAll (a ++ b) = (((n.fireAll a).1.fireAll b).1,
      (n.fireAll a).2 ++ ((n.fireAll a).1.fireAll b).2) := by
  induction a generalizing n with
  | nil => rfl
  | cons x a ih => simp [fireAll, ih]

/-- How long a history takes. -/
def duration (history : List (Duration × Firing)) : Duration := (history.map Prod.fst).sum

theorem told_append (n : Notifier ι) (clock : Duration) (a b : List (Duration × Firing)) :
    n.told clock (a ++ b) =
      n.told clock a ++ (n.fireAll a).1.told (clock + duration a) b := by
  induction a generalizing n clock with
  | nil => rfl
  | cons x a ih =>
    obtain ⟨time, f⟩ := x
    have htime : clock + duration ((time, f) :: a) = clock + time + duration a := by
      simp [duration, Nat.add_assoc]
    rw [List.cons_append, told, told, ih, htime, List.append_assoc]
    rfl

/-- The end of a run after a history: every listener is told of it, with the tally so far. -/
theorem fireAll_concat_runFinished (n : Notifier ι) (history : List (Duration × Firing))
    (time runTime : Duration) :
    let t : Tally := { (n.fireAll history).1.tally with runTime }
    n.fireAll (history ++ [(time, .runFinished runTime)]) =
      ((n.fireAll history).1.withTally t, (n.fireAll history).2 ++
        .passed time :: (Callback.runFinished t).toEach n.listeners) := by
  intro t
  rw [n.fireAll_append, ← n.listeners_fireAll history]
  simp [fireAll, fire, tell, Callback.toEach, t]

theorem told_concat_runFinished (n : Notifier ι) (clock : Duration)
    (history : List (Duration × Firing)) (time runTime : Duration) :
    n.told clock (history ++ [(time, .runFinished runTime)]) = n.told clock history ++
      [(clock + duration history + time,
        .runFinished { (n.fireAll history).1.tally with runTime })] :=
  n.told_append clock history _

/-! ## The tally -/

theorem tally_fire (n : Notifier ι) (f : Firing) :
    let passedOn := (n.passedOn? f).toList
    (n.fire f).notifier.tally.runCount =
        n.tally.runCount + passedOn.countP Callback.isFinished ∧
      (n.fire f).notifier.tally.ignoreCount =
        n.tally.ignoreCount + passedOn.countP Callback.isIgnored ∧
      (n.fire f).notifier.tally.failures =
        n.tally.failures ++ passedOn.filterMap Callback.failure? := by
  cases f with
  | started d =>
    cases hs : n.stopRequested <;>
      simp [fire, passedOn?, hs, Callback.isFinished, Callback.isIgnored, Callback.failure?]
  | _ =>
    simp [fire, passedOn?, withTally, Callback.isFinished, Callback.isIgnored, Callback.failure?]

/-- The tally counts what was passed on: the tests that finished, those that were ignored, and the
failures. -/
theorem tally_fireAll (n : Notifier ι) (clock : Duration) (history : List (Duration × Firing)) :
    let callbacks := (n.told clock history).map Prod.snd
    (n.fireAll history).1.tally.runCount =
        n.tally.runCount + callbacks.countP Callback.isFinished ∧
      (n.fireAll history).1.tally.ignoreCount =
        n.tally.ignoreCount + callbacks.countP Callback.isIgnored ∧
      (n.fireAll history).1.tally.failures =
        n.tally.failures ++ callbacks.filterMap Callback.failure? := by
  induction history generalizing n clock with
  | nil => simp [fireAll, told]
  | cons x history ih =>
    obtain ⟨time, f⟩ := x
    obtain ⟨hrun, hignore, hfail⟩ := n.tally_fire f
    obtain ⟨hrun', hignore', hfail'⟩ := ih (n.fire f).notifier (clock + time)
    simp only [callbacks_told, List.countP_append, List.filterMap_append, ← Nat.add_assoc,
      ← List.append_assoc, ← hrun, ← hignore, ← hfail]
    exact ⟨hrun', hignore', hfail'⟩

end Notifier
end Testbench
