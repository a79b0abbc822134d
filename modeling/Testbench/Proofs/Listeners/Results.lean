import Testbench.Proofs.Notifier
import Testbench.Proofs.Pending
import Testbench.Results.Listener
/-!
# What a results listener counts

Results count their records by status. A results listener records a test that finishes as passed unless a
failure waits under its name; a failure that is not taken up in this way by a finish spoils no test.

Main statement: `passed_collectAll`.
-/
namespace Testbench
namespace Results

/-! ## Counting records -/

/-- One more record, counted by its status. -/
def add (r : Results) (record : Record) : Results :=
  { r with
    passed := r.passed + if record.status = .passed then 1 else 0
    failed := r.failed + if record.status = .failed then 1 else 0
    ignored := r.ignored + if record.status = .ignored then 1 else 0
    records := r.records ++ [record] }

/-- The counts of some results are those of their records. -/
structure Counted (r : Results) : Prop where
  passed : r.passed = r.records.countP (·.status = .passed)
  failed : r.failed = r.records.countP (·.status = .failed)
  ignored : r.ignored = r.records.countP (·.status = .ignored)

theorem counted_empty : empty.Counted := ⟨rfl, rfl, rfl⟩

theorem Counted.add {r : Results} (h : r.Counted) (record : Record) : (r.add record).Counted := by
  obtain ⟨hp, hf, hi⟩ := h
  constructor
  · simp [Results.add, hp, List.countP_append, List.countP_cons]
  · simp [Results.add, hf, List.countP_append, List.countP_cons]
  · simp [Results.add, hi, List.countP_append, List.countP_cons]

theorem Counted.addAll {r : Results} (h : r.Counted) (records : List Record) :
    (records.foldl Results.add r).Counted := by
  induction records generalizing r with
  | nil => exact h
  | cons record records ih => exact ih (h.add record)

@[simp] theorem records_addAll (r : Results) (records : List Record) :
    (records.foldl Results.add r).records = r.records ++ records := by
  induction records generalizing r with
  | nil => exact (List.append_nil _).symm
  | cons record records ih => rw [List.foldl_cons, ih, Results.add, List.append_assoc]; rfl

/-- Only records of passed tests count as passed. -/
theorem passed_addAll (r : Results) {records : List Record}
    (h : ∀ record ∈ records, record.status ≠ .passed) :
    (records.foldl Results.add r).passed = r.passed := by
  induction records generalizing r with
  | nil => rfl
  | cons record records ih =>
    obtain ⟨hne, hrest⟩ := List.forall_mem_cons.1 h
    rw [List.foldl_cons, ih _ hrest]
    simp [Results.add, hne]

end Results

/-! ## Failures that are taken up -/

namespace Callback

/-- Whether a failure that waits under a name is taken up by a finish: it is not if another failure takes
its place before, or if the run finishes. -/
def takesUp (name : String) : List Callback → Bool
  | [] => false
  | failure f :: cs => if f.description.displayName = name then false else takesUp name cs
  | finished d :: cs => if d.displayName = name then true else takesUp name cs
  | runFinished _ :: _ => false
  | _ :: cs => takesUp name cs

/-- How many failures no finish takes up. -/
def untaken : List Callback → Nat
  | [] => 0
  | failure f :: cs => (if takesUp f.description.displayName cs then 0 else 1) + untaken cs
  | _ :: cs => untaken cs

theorem takesUp_failure_of_ne {name : String} {f : Failure} (h : name ≠ f.description.displayName)
    (cs : List Callback) : takesUp name (failure f :: cs) = takesUp name cs := by
  rw [takesUp, if_neg h.symm]

theorem takesUp_finished_of_ne {name : String} {d : Description} (h : name ≠ d.displayName)
    (cs : List Callback) : takesUp name (finished d :: cs) = takesUp name cs := by
  rw [takesUp, if_neg h.symm]

end Callback

namespace Results.Listener

/-! ## What a callback records -/

/-- The record of a test that finishes: it has failed if a failure waits under its name. -/
def verdict (l : Listener) (d : Description) (now : Duration) : Record :=
  let millis := l.sinceStart d.displayName now
  match l.failures.lookup d.displayName with
  | some f => ⟨d.className, d.methodName, .failed, millis, some f.message⟩
  | none => ⟨d.className, d.methodName, .passed, millis, none⟩

/-- The status of a test that finishes says whether a failure waits under its name. -/
theorem status_verdict (l : Listener) (d : Description) (now : Duration) :
    (l.verdict d now).status =
      if (l.failures.lookup d.displayName).isSome then .failed else .passed := by
  unfold verdict
  cases l.failures.lookup d.displayName <;> rfl

/-- A test that finishes is counted as its record says. -/
theorem resultsAfter_eq (l : Listener) (d : Description) (now : Duration) :
    l.resultsAfter d now = l.results.add (l.verdict d now) := by
  unfold resultsAfter verdict
  cases l.failures.lookup d.displayName <;> rfl

theorem results_finished (l : Listener) (now : Duration) (d : Description) :
    (l.collect now (.finished d)).results = l.results.add (l.verdict d now) :=
  l.resultsAfter_eq d now

theorem records_finished (l : Listener) (now : Duration) (d : Description) :
    (l.collect now (.finished d)).results.records = l.results.records ++ [l.verdict d now] := by
  rw [results_finished, add]

theorem results_ignored (l : Listener) (now : Duration) (d : Description) :
    (l.collect now (.ignored d)).results =
      l.results.add ⟨d.className, d.methodName, .ignored, 0, none⟩ := rfl

theorem addOrphan_eq : addOrphan = fun r f => r.add (orphan f) := rfl

/-- The failures that no finish took up are counted as failed. -/
theorem results_withOrphans (l : Listener) :
    l.withOrphans.results =
      ((l.failures.inOrder fun f => f.description.displayName).map orphan).foldl add l.results := by
  rw [List.foldl_map, withOrphans, addOrphan_eq]

theorem records_withOrphans (l : Listener) :
    l.withOrphans.results.records = l.results.records ++
      (l.failures.inOrder fun f => f.description.displayName).map orphan := by
  rw [results_withOrphans, records_addAll]

theorem status_orphan (f : Failure) : (orphan f).status = .failed := rfl

/-! ## After several callbacks -/

/-- The listener after callbacks, each with the time at which it is heard. -/
def collectAll (l : Listener) (told : List (Duration × Callback)) : Listener :=
  told.foldl (fun l x => l.collect x.1 x.2) l

theorem collectAll_append (l : Listener) (a b : List (Duration × Callback)) :
    l.collectAll (a ++ b) = (l.collectAll a).collectAll b := List.foldl_append

theorem collectAll_concat (l : Listener) (told : List (Duration × Callback)) (now : Duration)
    (c : Callback) : l.collectAll (told ++ [(now, c)]) = (l.collectAll told).collect now c :=
  l.collectAll_append told [(now, c)]

/-- What every callback keeps holds after all of them. -/
theorem collectAll_invariant {motive : Listener → Prop}
    (step : ∀ l now c, motive l → motive (l.collect now c)) {l : Listener} (h : motive l)
    (told : List (Duration × Callback)) : motive (l.collectAll told) := by
  induction told generalizing l with
  | nil => exact h
  | cons x told ih => exact ih (step l x.1 x.2 h)

theorem hear_fst (l : Listener) (now : Duration) (fs : Files) (c : Callback) :
    (l.hear now fs c).1 = l.collect now c := by
  cases c <;> rfl

theorem path_collect (l : Listener) (now : Duration) (c : Callback) :
    (l.collect now c).path = l.path := by
  cases c <;> rfl

theorem path_collectAll (l : Listener) (told : List (Duration × Callback)) :
    (l.collectAll told).path = l.path :=
  collectAll_invariant (motive := fun l' => l'.path = l.path)
    (fun l' now c h => (l'.path_collect now c).trans h) rfl told

theorem counted_collect {l : Listener} (h : l.results.Counted) (now : Duration) (c : Callback) :
    (l.collect now c).results.Counted := by
  cases c with
  | runFinished t =>
    have counted : l.withOrphans.results.Counted := l.results_withOrphans ▸ h.addAll _
    exact ⟨counted.passed, counted.failed, counted.ignored⟩
  | finished d => exact l.results_finished now d ▸ h.add _
  | ignored d => exact l.results_ignored now d ▸ h.add _
  | _ => exact h

/-- The counts are right after every callback. -/
theorem counted_collectAll {l : Listener} (h : l.results.Counted) (told : List (Duration × Callback)) :
    (l.collectAll told).results.Counted :=
  collectAll_invariant (motive := fun l => l.results.Counted)
    (fun _ now c h => counted_collect h now c) h told

/-- Failures wait under distinct names. -/
theorem distinct_collect {l : Listener} (h : l.failures.Distinct) (now : Duration) (c : Callback) :
    (l.collect now c).failures.Distinct := by
  cases c with
  | runFinished t => exact Pending.distinct_nil
  | failure f => exact h.put _ f
  | finished d => exact h.erase _
  | _ => exact h

theorem passed_withOrphans (l : Listener) : l.withOrphans.results.passed = l.results.passed := by
  rw [results_withOrphans]
  refine passed_addAll _ fun record h => ?_
  obtain ⟨f, -, rfl⟩ := List.mem_map.1 h
  simp [status_orphan]

/-- What one callback does to the passed tests and to the failures that wait, given what comes after
it. -/
theorem passed_collect {l : Listener} (h : l.failures.Distinct) (now : Duration) (c : Callback)
    (cs : List Callback) :
    (l.collect now c).results.passed + c.failure?.toList.length +
        (l.failures.countP fun e => Callback.takesUp e.1 (c :: cs)) + Callback.untaken cs =
      l.results.passed + (if c.isFinished then 1 else 0) +
        ((l.collect now c).failures.countP fun e => Callback.takesUp e.1 cs) +
        Callback.untaken (c :: cs) := by
  cases c with
  | runStarted d => rfl
  | started d => rfl
  | ignored d => rfl
  | runFinished t =>
    have hpassed : (l.collect now (.runFinished t)).results.passed = l.results.passed :=
      l.passed_withOrphans
    have hnone : (l.failures.countP fun e => Callback.takesUp e.1 (.runFinished t :: cs)) = 0 := by
      simp [Callback.takesUp]
    rw [hpassed, hnone]
    rfl
  | failure f =>
    -- The failure takes the place of one that waits under its name.
    let name := f.description.displayName
    have others : ((l.failures.erase name).countP fun e => Callback.takesUp e.1 (.failure f :: cs)) =
        (l.failures.erase name).countP fun e => Callback.takesUp e.1 cs :=
      List.countP_congr fun e he => by
        rw [Callback.takesUp_failure_of_ne (Pending.mem_erase_iff.1 he).2]
    have replaced : Callback.takesUp name (.failure f :: cs) = false := by
      simp [Callback.takesUp, name]
    have hcount := h.countP_eq name fun name => Callback.takesUp name (.failure f :: cs)
    rw [others, replaced, Bool.and_false] at hcount
    have hput : (l.collect now (.failure f)).failures = l.failures.erase name ++ [(name, f)] := rfl
    rw [hcount, hput, List.countP_append, Callback.untaken]
    cases ht : Callback.takesUp name cs <;>
      simp [collect, Callback.failure?, Callback.isFinished, name, ht] <;> omega
  | finished d =>
    -- The failure that waits under the name of the test is taken up.
    let name := d.displayName
    have others : ((l.failures.erase name).countP fun e => Callback.takesUp e.1 (.finished d :: cs)) =
        (l.failures.erase name).countP fun e => Callback.takesUp e.1 cs :=
      List.countP_congr fun e he => by
        rw [Callback.takesUp_finished_of_ne (Pending.mem_erase_iff.1 he).2]
    have taken : Callback.takesUp name (.finished d :: cs) = true := by
      simp [Callback.takesUp, name]
    have hcount := h.countP_eq name fun name => Callback.takesUp name (.finished d :: cs)
    rw [others, taken, Bool.and_true] at hcount
    have herase : (l.collect now (.finished d)).failures = l.failures.erase name := rfl
    have hpassed : (l.collect now (.finished d)).results.passed = l.results.passed +
        if (l.failures.lookup name).isSome then 0 else 1 := by
      simp only [results_finished, add, status_verdict]
      cases (l.failures.lookup name).isSome <;> simp
    rw [hcount, herase, hpassed]
    simp only [Callback.failure?, Callback.isFinished, Callback.untaken]
    cases (l.failures.lookup name).isSome <;> grind

/-- Every finish passes a test unless it takes up a failure. -/
theorem passed_collectAll {l : Listener} (h : l.failures.Distinct) (told : List (Duration × Callback)) :
    let cs := told.map Prod.snd
    (l.collectAll told).results.passed + (cs.filterMap Callback.failure?).length +
        (l.failures.countP fun e => Callback.takesUp e.1 cs) =
      l.results.passed + cs.countP Callback.isFinished + Callback.untaken cs := by
  induction told generalizing l with
  | nil => simp [collectAll, Callback.takesUp, Callback.untaken]
  | cons x told ih =>
    obtain ⟨now, c⟩ := x
    have step := passed_collect h now c (told.map Prod.snd)
    have rest := ih (distinct_collect h now c)
    have hfail : ((c :: told.map Prod.snd).filterMap Callback.failure?).length =
        c.failure?.toList.length + ((told.map Prod.snd).filterMap Callback.failure?).length := by
      rw [List.filterMap_cons]
      cases c.failure? <;> simp [Nat.add_comm]
    have hall : l.collectAll ((now, c) :: told) = (l.collect now c).collectAll told := rfl
    simp only [List.map_cons, hall, hfail, List.countP_cons] at rest ⊢
    omega

end Results.Listener
end Testbench
