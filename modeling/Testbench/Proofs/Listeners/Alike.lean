import Mathlib.Data.List.Forall2
import Testbench.Proofs.Listeners.Console
import Testbench.Proofs.Listeners.Results
/-!
# Two listeners judge alike

A console keeps the descriptions of failed tests, a results listener keeps failures and records. If both
hear the same callbacks, each at times of its own, they call the same tests failed, in the same order.

Main definition: `Alike`, which every callback keeps. Main statement: `judge_alike`.
-/
namespace Testbench

/-- A record of a failure of the described test or suite. -/
def Description.FailedIn (d : Description) (r : Record) : Prop :=
  ∃ millis message, r = ⟨d.className, d.methodName, .failed, millis, some message⟩

namespace Results

/-- The records of what failed. -/
def failedRecords (r : Results) : List Record := r.records.filter (·.status = .failed)

theorem failedRecords_add_of_failed {record : Record} (h : record.status = .failed) (r : Results) :
    (r.add record).failedRecords = r.failedRecords ++ [record] := by
  simp [failedRecords, add, h]

theorem failedRecords_add_of_not_failed {record : Record} (h : record.status ≠ .failed) (r : Results) :
    (r.add record).failedRecords = r.failedRecords := by
  simp [failedRecords, add, h]

theorem failedRecords_addAll_of_failed {records : List Record}
    (h : ∀ record ∈ records, record.status = .failed) (r : Results) :
    (records.foldl add r).failedRecords = r.failedRecords ++ records := by
  have hall : records.filter (·.status = .failed) = records :=
    List.filter_eq_self.2 fun record hmem => decide_eq_true (h record hmem)
  rw [failedRecords, records_addAll, List.filter_append, hall]
  rfl

/-- At the end of a run the failures that wait are recorded. -/
theorem Listener.failedRecords_collect_runFinished (l : Listener) (now : Duration) (t : Tally) :
    (l.collect now (.runFinished t)).results.failedRecords = l.results.failedRecords ++
      (l.failures.inOrder fun f => f.description.displayName).map orphan := by
  have failed : ∀ record ∈ (l.failures.inOrder fun f => f.description.displayName).map orphan,
      record.status = .failed := by
    intro record hrecord
    obtain ⟨f, -, rfl⟩ := List.mem_map.1 hrecord
    exact status_orphan f
  have whole := failedRecords_addAll_of_failed failed l.results
  rwa [← results_withOrphans] at whole

theorem Counted.length_failedRecords {r : Results} (h : r.Counted) :
    r.failedRecords.length = r.failed := by
  rw [h.failed, List.countP_eq_length_filter]
  rfl

end Results

/-- The same failures wait, and the failed tests of a console are those on record. -/
structure Alike (c : Console.Listener) (l : Results.Listener) : Prop where
  pending : c.pending = l.failures.mapValues Failure.description
  failed : List.Forall₂ Description.FailedIn c.failedTests l.results.failedRecords

namespace Alike
variable {c : Console.Listener} {l : Results.Listener}

theorem fresh (path : Path) : Alike .fresh (.fresh path) := ⟨rfl, .nil⟩

theorem lookup (h : Alike c l) (name : String) :
    c.pending.lookup name = (l.failures.lookup name).map Failure.description := by
  rw [h.pending, Pending.lookup_mapValues]

/-- A test that finishes is shown as passed if it is recorded as passed, and as failed if it is recorded as
failed. -/
theorem finished (h : Alike c l) (d : Description) (now now' : Duration) :
    ∃ ok millis record, (c.hear now (.finished d)).2 = [.finished d.reportName ok millis] ∧
      (l.collect now' (.finished d)).results.records = l.results.records ++ [record] ∧
      (ok = true ↔ record.status = .passed) ∧ (ok = false ↔ record.status = .failed) := by
  refine ⟨_, _, l.verdict d now', rfl, l.records_finished now' d, ?_⟩
  rw [h.lookup, l.status_verdict]
  cases l.failures.lookup d.displayName <;> simp

/-- What waits at the end of a run fails on both sides. -/
theorem orphans (h : Alike c l) :
    List.Forall₂ Description.FailedIn (c.pending.inOrder Description.displayName)
      ((l.failures.inOrder fun f => f.description.displayName).map Results.Listener.orphan) := by
  rw [h.pending, Pending.inOrder_mapValues, List.forall₂_map_left_iff, List.forall₂_map_right_iff,
    List.forall₂_same]
  intro f _
  exact ⟨0, f.message, rfl⟩

theorem hear (h : Alike c l) (now now' : Duration) (cb : Callback) :
    Alike (c.hear now cb).1 (l.collect now' cb) := by
  have hlookup := h.lookup
  have horphans := h.orphans
  obtain ⟨hpending, hfailed⟩ := h
  cases cb with
  | runStarted d => exact ⟨hpending, hfailed⟩
  | started d => exact ⟨hpending, hfailed⟩
  | failure f =>
    refine ⟨?_, hfailed⟩
    simp only [Console.Listener.hear, Results.Listener.collect, hpending, Pending.mapValues_put]
  | ignored d =>
    refine ⟨hpending, ?_⟩
    rw [l.results_ignored, Results.failedRecords_add_of_not_failed (by simp)]
    exact hfailed
  | finished d =>
    constructor
    · simp only [Console.Listener.hear, Results.Listener.collect, hpending, Pending.mapValues_erase]
    · rw [l.results_finished]
      simp only [Console.Listener.hear, hlookup, Results.Listener.verdict]
      cases l.failures.lookup d.displayName with
      | none =>
        rw [Results.failedRecords_add_of_not_failed (by simp)]
        exact hfailed
      | some f =>
        rw [Results.failedRecords_add_of_failed rfl]
        exact List.rel_append hfailed (.cons ⟨_, f.message, rfl⟩ .nil)
  | runFinished t =>
    refine ⟨rfl, ?_⟩
    rw [l.failedRecords_collect_runFinished]
    exact List.rel_append hfailed horphans

/-- Callbacks that two listeners hear, each at times of its own. -/
theorem hearAll (h : Alike c l) (told : List (Duration × Duration × Callback)) :
    Alike (c.hearAll (told.map fun x => (x.1, x.2.2))) (l.collectAll (told.map fun x => x.2)) := by
  induction told generalizing c l with
  | nil => exact h
  | cons x told ih => exact ih (h.hear x.1 x.2.1 x.2.2)

theorem of_told (path : Path) (told : List (Duration × Callback)) :
    Alike (Console.Listener.fresh.hearAll told) ((Results.Listener.fresh path).collectAll told) := by
  have alike := (Alike.fresh path).hearAll (told.map fun x => (x.1, x))
  simpa [Function.comp_def] using alike

theorem length_failedTests (h : Alike c l) (counted : l.results.Counted) :
    c.failedTests.length = l.results.failed :=
  h.failed.length_eq.trans counted.length_failedRecords

end Alike

/-- A console and a results listener that hear the same callbacks judge alike: a test that finishes is
shown as passed or failed just as it is recorded, and when a run finishes the console names as many tests
as count as failed, each by the description of the record that stands in its place. -/
theorem judge_alike (path : Path) (told : List (Duration × Duration × Callback))
    (now now' : Duration) :
    let c := Console.Listener.fresh.hearAll (told.map fun x => (x.1, x.2.2))
    let l := (Results.Listener.fresh path).collectAll (told.map fun x => x.2)
    (∀ d, ∃ ok millis record, (c.hear now (.finished d)).2 = [.finished d.reportName ok millis] ∧
        (l.collect now' (.finished d)).results.records = l.results.records ++ [record] ∧
        (ok = true ↔ record.status = .passed) ∧ (ok = false ↔ record.status = .failed)) ∧
      ∀ t,
        let named := (c.hear now (.runFinished t)).2.filterMap Console.Line.failed?
        let failed := (c.hear now (.runFinished t)).1.failedTests
        let r := (l.collect now' (.runFinished t)).results
        named.length = r.failed ∧ named = failed.map Description.reportName ∧
          List.Forall₂ Description.FailedIn failed r.failedRecords := by
  intro c l
  have alike : Alike c l := (Alike.fresh path).hearAll told
  refine ⟨fun d => alike.finished d now now', ?_⟩
  intro t named failed r
  have ends : Alike (c.hear now (.runFinished t)).1 (l.collect now' (.runFinished t)) :=
    alike.hear now now' (.runFinished t)
  have counted : r.Counted := Results.Listener.counted_collect
    (Results.Listener.counted_collectAll Results.counted_empty _) now' (.runFinished t)
  have hnamed : named = failed.map Description.reportName := Console.failed_summary _ _ _
  have count : named.length = r.failed := by
    rw [hnamed, List.length_map]
    exact ends.length_failedTests counted
  exact ⟨count, hnamed, ends.failed⟩

end Testbench
