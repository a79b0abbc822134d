import Mathlib.Data.List.Induction
import Testbench.Proofs.Listeners.Results
/-!
# Failures that wait

Which failure waits under a name can be read off the history of callbacks: the latest one of that name,
unless a test of that name or a run has finished since. A results listener recalls these failures and
no others.

Main definitions: `waiting`, `Results.Listener.Recalls`. Main statement: `recalls_collectAll`.
-/
namespace Testbench

namespace Callback

/-- Whether a callback leaves no failure waiting under a name. -/
def clears (name : String) : Callback → Bool
  | finished d => d.displayName == name
  | runFinished _ => true
  | _ => false

/-- The failure that a callback reports under a name, if it does. -/
def failureOf? (name : String) : Callback → Option Failure
  | failure f => if f.description.displayName = name then some f else none
  | _ => none

end Callback

/-- The failure that waits under a name: the latest one since a test of that name and since a run last
finished. -/
def waiting (past : List Callback) (name : String) : Option Failure :=
  (past.reverse.takeWhile fun c => !c.clears name).findSome? (Callback.failureOf? name)

theorem waiting_concat (past : List Callback) (c : Callback) (name : String) :
    waiting (past ++ [c]) name =
      if c.clears name then none else (c.failureOf? name).or (waiting past name) := by
  have hrev : (past ++ [c]).reverse = c :: past.reverse := by simp
  rw [waiting, hrev, List.takeWhile_cons]
  cases hc : c.clears name with
  | true => rfl
  | false =>
    simp only [Bool.not_false, if_true, Bool.false_eq_true, if_false, List.findSome?_cons]
    cases c.failureOf? name <;> rfl

namespace Results.Listener

/-- The failures of a listener are those that wait, each under its own name. -/
structure Recalls (l : Listener) (past : List Callback) : Prop where
  distinct : l.failures.Distinct
  keyed : l.failures.Keyed fun f => f.description.displayName
  lookup : ∀ name, l.failures.lookup name = waiting past name

theorem recalls_fresh (path : Path) : (fresh path).Recalls [] where
  distinct := Pending.distinct_nil
  keyed := fun _ he => absurd he List.not_mem_nil
  lookup := fun _ => rfl

theorem keyed_collect {l : Listener} (h : l.failures.Keyed fun f => f.description.displayName)
    (now : Duration) (c : Callback) :
    (l.collect now c).failures.Keyed fun f => f.description.displayName := by
  cases c with
  | runFinished t => exact fun _ he => absurd he List.not_mem_nil
  | failure f => exact h.put f
  | finished d => exact h.erase _
  | _ => exact h

theorem lookup_collect (l : Listener) (now : Duration) (c : Callback) (name : String) :
    (l.collect now c).failures.lookup name =
      if c.clears name then none else (c.failureOf? name).or (l.failures.lookup name) := by
  cases c with
  | failure f =>
    simp only [collect, Pending.lookup_put, Callback.clears, Callback.failureOf?]
    by_cases h : f.description.displayName = name <;> simp [h]
  | finished d =>
    simp only [collect, Pending.lookup_erase, Callback.clears, Callback.failureOf?]
    by_cases h : d.displayName = name <;> simp [h]
  | _ => rfl

theorem Recalls.collect {l : Listener} {past : List Callback} (h : l.Recalls past)
    (now : Duration) (c : Callback) : (l.collect now c).Recalls (past ++ [c]) where
  distinct := distinct_collect h.distinct now c
  keyed := keyed_collect h.keyed now c
  lookup := by
    intro name
    rw [lookup_collect, h.lookup, waiting_concat]

/-- After any callbacks a listener recalls the failures that wait. -/
theorem recalls_collectAll (path : Path) (told : List (Duration × Callback)) :
    ((fresh path).collectAll told).Recalls (told.map Prod.snd) := by
  induction told using List.reverseRecOn with
  | nil => exact recalls_fresh path
  | append_singleton told x ih =>
    rw [collectAll_concat, List.map_append, List.map_singleton]
    exact ih.collect x.1 x.2

/-- What a listener takes at the end of a run is what waits. -/
theorem Recalls.mem_inOrder_iff {l : Listener} {past : List Callback} (h : l.Recalls past)
    {f : Failure} :
    (f ∈ l.failures.inOrder fun f => f.description.displayName) ↔
      waiting past f.description.displayName = some f := by
  rw [Pending.mem_inOrder_iff, ← h.lookup, h.distinct.lookup_eq_some_iff]
  constructor
  · rintro ⟨⟨name, f⟩, he, rfl⟩
    obtain rfl : name = f.description.displayName := h.keyed _ he
    exact he
  · intro he
    exact ⟨_, he, rfl⟩

end Results.Listener
end Testbench
