import Mathlib.Data.List.Induction
import Testbench.Console.Listener
import Testbench.Proofs.Notifier
import Testbench.Proofs.Pending
/-!
# Failed tests of a console

The tests that a console holds as failed, and those that wait to be, go by the names under which failures
were reported: no failure is lost when another one takes its place, and none comes from elsewhere. The
block that closes a run names the failed tests.

Main definition: `Listener.Blames`. Main statements: `Listener.blames_hearAll` and, for the end of a run,
`Listener.mem_names_failedTests_iff`.
-/
namespace Testbench.Console

/-! ## The closing block -/

/-- The test that a line of the closing block names. -/
def Line.failed? : Line → Option String
  | failed test => some test
  | _ => none

theorem failed_summary (passed : Nat) (failed : List Description) (millis : Nat) :
    (summary passed failed millis).filterMap Line.failed? = failed.map Description.reportName := by
  have named : (failed.map fun d => Line.failed d.reportName).filterMap Line.failed? =
      failed.map Description.reportName := by
    rw [List.filterMap_map]
    exact congrFun (List.filterMap_eq_map (f := Description.reportName)) failed
  unfold summary failedBlock
  split
  · rename_i h
    rw [List.isEmpty_iff.1 h]
    rfl
  · simp only [List.filterMap_cons, List.filterMap_append, named, Line.failed?]
    exact List.append_nil _

/-- The closing block has a part for failed tests if there are any. -/
theorem failedHead_mem_summary_iff {passed : Nat} {failed : List Description} {millis : Nat} :
    (∃ count, Line.failedHead count ∈ summary passed failed millis) ↔ failed ≠ [] := by
  unfold summary failedBlock
  split
  · rename_i h
    simp [List.isEmpty_iff.1 h]
  · rename_i h
    have hne : failed ≠ [] := fun he => h (by simp [he])
    simp [hne]

namespace Listener

/-- The listener after callbacks, each with the time at which it is heard. -/
def hearAll (l : Listener) (told : List (Duration × Callback)) : Listener :=
  told.foldl (fun l x => (l.hear x.1 x.2).1) l

theorem hearAll_append (l : Listener) (a b : List (Duration × Callback)) :
    l.hearAll (a ++ b) = (l.hearAll a).hearAll b := List.foldl_append

theorem hearAll_concat (l : Listener) (told : List (Duration × Callback)) (now : Duration)
    (c : Callback) : l.hearAll (told ++ [(now, c)]) = ((l.hearAll told).hear now c).1 :=
  l.hearAll_append told [(now, c)]

theorem keyed_hear {l : Listener} (h : l.pending.Keyed Description.displayName) (now : Duration)
    (c : Callback) : (l.hear now c).1.pending.Keyed Description.displayName := by
  cases c with
  | runFinished t => exact fun _ he => absurd he List.not_mem_nil
  | failure f => exact h.put f.description
  | finished d => exact h.erase _
  | _ => exact h

theorem distinct_hear {l : Listener} (h : l.pending.Distinct) (now : Duration) (c : Callback) :
    (l.hear now c).1.pending.Distinct := by
  cases c with
  | runFinished t => exact Pending.distinct_nil
  | failure f => exact h.put _ f.description
  | finished d => exact h.erase _
  | _ => exact h

theorem keyed_hearAll (told : List (Duration × Callback)) :
    (fresh.hearAll told).pending.Keyed Description.displayName := by
  induction told using List.reverseRecOn with
  | nil => exact fun _ he => absurd he List.not_mem_nil
  | append_singleton told x ih =>
    rw [hearAll_concat]
    exact keyed_hear ih x.1 x.2

/-- A name is that of a failed test, or of one that waits to be. -/
def Blames (l : Listener) (name : String) : Prop :=
  name ∈ l.failedTests.map Description.displayName ∨ name ∈ l.pending.map Prod.fst

theorem blames_fresh (name : String) : ¬ fresh.Blames name := by
  simp [Blames, fresh]

/-- A callback adds the name of the failure that it reports, and no other. -/
theorem blames_hear {l : Listener} (h : l.pending.Keyed Description.displayName) (now : Duration)
    (c : Callback) (name : String) : (l.hear now c).1.Blames name ↔
      l.Blames name ∨ ∃ f, c.failure? = some f ∧ f.description.displayName = name := by
  cases c with
  | failure f =>
    simp only [hear, Blames, Pending.mem_names_put_iff, Callback.failure?]
    grind
  | finished d =>
    -- The name of the finished test goes over to the failed tests if it waits.
    simp only [hear, Blames, Pending.mem_names_erase_iff, Callback.failure?]
    cases hl : (l.pending.lookup d.displayName).isNone with
    | true =>
      have hnot := Pending.isNone_lookup_iff.1 hl
      grind
    | false =>
      have hwaits : d.displayName ∈ l.pending.map Prod.fst := by
        by_contra hnot
        exact absurd (Pending.isNone_lookup_iff.2 hnot) (by simp [hl])
      simp only [Bool.false_eq_true, if_false, List.map_append, List.map_singleton,
        List.mem_append, List.mem_singleton]
      grind
  | runFinished t =>
    have hnames := h.perm_names.mem_iff (a := name)
    simp only [hear, withOrphans, Blames, List.map_append, List.mem_append, hnames,
      Callback.failure?]
    simp
  | _ => simp [hear, Blames, Callback.failure?]

/-- The names are those under which failures were reported. -/
theorem blames_hearAll (told : List (Duration × Callback)) (name : String) :
    (fresh.hearAll told).Blames name ↔
      name ∈ ((told.map Prod.snd).filterMap Callback.failure?).map (·.description.displayName) := by
  induction told using List.reverseRecOn with
  | nil => exact iff_of_false (blames_fresh name) List.not_mem_nil
  | append_singleton told x ih =>
    rw [hearAll_concat, blames_hear (keyed_hearAll told), ih]
    simp

/-- When a run has finished nothing waits, so the failed tests have the names of all failures. -/
theorem mem_names_failedTests_iff (told : List (Duration × Callback))
    (now : Duration) (t : Tally) (name : String) :
    let whole := told ++ [(now, .runFinished t)]
    name ∈ (fresh.hearAll whole).failedTests.map Description.displayName ↔
      name ∈ ((whole.map Prod.snd).filterMap Callback.failure?).map (·.description.displayName) := by
  intro whole
  have drained : (fresh.hearAll whole).pending = [] := by
    simp only [whole, hearAll_concat]
    rfl
  have blames := blames_hearAll whole name
  rwa [Blames, drained, List.map_nil, or_iff_left List.not_mem_nil] at blames

/-- When a run has finished there are failed tests if any failure was reported. -/
theorem failedTests_ne_nil_iff (told : List (Duration × Callback)) (now : Duration) (t : Tally) :
    let whole := told ++ [(now, .runFinished t)]
    (fresh.hearAll whole).failedTests ≠ [] ↔
      (whole.map Prod.snd).filterMap Callback.failure? ≠ [] := by
  intro whole
  have names (name : String) := mem_names_failedTests_iff told now t name
  have none_failed : (fresh.hearAll whole).failedTests.map Description.displayName = [] ↔
      ((whole.map Prod.snd).filterMap Callback.failure?).map (·.description.displayName) = [] := by
    simp only [List.eq_nil_iff_forall_not_mem, names, whole]
  simpa only [List.map_eq_nil_iff, not_iff_not] using none_failed

end Listener
end Testbench.Console
