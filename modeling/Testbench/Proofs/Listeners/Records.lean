import Testbench.Proofs.Listeners.Waiting
import Testbench.Proofs.Results.Storage
/-!
# Records follow the history

What a results listener has recorded can be read off the history of callbacks. A test that finishes has
failed if a failure waits under its name; one that is ignored is recorded as such; and when a run finishes,
each failure that still waits is recorded, in the order of names.

Main definitions: `Adds` for one callback, `Chronicle` for a history. Main statement:
`records_chronicle`.
-/
namespace Testbench

/-! ## What a history records -/

/-- The records that a callback adds, given the callbacks before it. Each has the class and the method of what
it is about. -/
inductive Adds (past : List Callback) : Callback → List Record → Prop
  | failed {d : Description} {f : Failure} (waits : waiting past d.displayName = some f)
    (millis : Nat) :
    Adds past (.finished d) [⟨d.className, d.methodName, .failed, millis, some f.message⟩]
  | passed {d : Description} (none_waits : waiting past d.displayName = none) (millis : Nat) :
    Adds past (.finished d) [⟨d.className, d.methodName, .passed, millis, none⟩]
  | ignored (d : Description) :
    Adds past (.ignored d) [⟨d.className, d.methodName, .ignored, 0, none⟩]
  | runFinished (t : Tally) {fs : List Failure}
    (increasing : fs.Pairwise fun f g => f.description.displayName < g.description.displayName)
    (waits : ∀ f, f ∈ fs ↔ waiting past f.description.displayName = some f) :
    Adds past (.runFinished t) (fs.map fun f =>
      ⟨f.description.className, f.description.methodName, .failed, 0, some f.message⟩)
  | runStarted (d : Description) : Adds past (.runStarted d) []
  | started (d : Description) : Adds past (.started d) []
  | failure (f : Failure) : Adds past (.failure f) []

/-- The records of a history, each callback with what it adds. -/
inductive Chronicle : List Callback → List Record → Prop
  | start : Chronicle [] []
  | next {past : List Callback} {records added : List Record} {c : Callback} :
    Chronicle past records → Adds past c added → Chronicle (past ++ [c]) (records ++ added)

namespace Results

/-- Results whose counts are right and whose times fit into 64 bits can be stored, unless there are too many
records to count. -/
theorem Counted.fits {r : Results} (h : r.Counted) (millis : r.millis < UInt64.size)
    (records : ∀ record ∈ r.records, record.Fits) (few : r.records.length < UInt64.size) : r.Fits := by
  have counts (p : Record → Bool) : r.records.countP p < UInt64.size :=
    Nat.lt_of_le_of_lt List.countP_le_length few
  exact ⟨h.passed ▸ counts _, h.failed ▸ counts _, h.ignored ▸ counts _, millis, records⟩

end Results

namespace Results.Listener

theorem Recalls.adds_verdict {l : Listener} {past : List Callback} (h : l.Recalls past)
    (d : Description) (now : Duration) : Adds past (.finished d) [l.verdict d now] := by
  rw [verdict, h.lookup]
  cases hw : waiting past d.displayName with
  | none => exact .passed hw _
  | some f => exact .failed hw _

/-- What a callback adds to the records of a listener. -/
theorem Recalls.adds_collect {l : Listener} {past : List Callback} (h : l.Recalls past)
    (now : Duration) (c : Callback) :
    ∃ added, Adds past c added ∧ (l.collect now c).results.records = l.results.records ++ added := by
  cases c with
  | runStarted d => exact ⟨[], .runStarted d, (List.append_nil _).symm⟩
  | started d => exact ⟨[], .started d, (List.append_nil _).symm⟩
  | failure f => exact ⟨[], .failure f, (List.append_nil _).symm⟩
  | finished d => exact ⟨[l.verdict d now], h.adds_verdict d now, l.records_finished now d⟩
  | ignored d => exact ⟨_, .ignored d, rfl⟩
  | runFinished t =>
    refine ⟨_, .runFinished t (h.distinct.pairwise_inOrder h.keyed) fun f => h.mem_inOrder_iff, ?_⟩
    exact l.records_withOrphans

theorem chronicle_collectAll (path : Path) (told : List (Duration × Callback)) :
    Chronicle (told.map Prod.snd) ((fresh path).collectAll told).results.records := by
  induction told using List.reverseRecOn with
  | nil => exact .start
  | append_singleton told x ih =>
    obtain ⟨added, hadds, hrecords⟩ := (recalls_collectAll path told).adds_collect x.1 x.2
    rw [collectAll_concat, hrecords, List.map_append, List.map_singleton]
    exact .next ih hadds

/-! ## What is stored -/

/-- All times that a listener recorded fit into 64 bits. -/
def Timed (l : Listener) : Prop :=
  l.results.millis < UInt64.size ∧ ∀ record ∈ l.results.records, record.Fits

theorem fits_verdict (l : Listener) (d : Description) (now : Duration) : (l.verdict d now).Fits := by
  have since : l.sinceStart d.displayName now < UInt64.size := by
    unfold sinceStart
    cases l.started.lookup d.displayName with
    | none => exact Nat.pos_of_neZero _
    | some t => exact Duration.millis_lt _
  unfold verdict
  cases l.failures.lookup d.displayName <;> exact since

theorem timed_collect {l : Listener} (h : l.Timed) (now : Duration) (c : Callback) :
    (l.collect now c).Timed := by
  obtain ⟨hmillis, hrecords⟩ := h
  have one_more {record : Record} (hrecord : record.Fits) :
      ∀ other ∈ l.results.records ++ [record], other.Fits := by
    intro other hother
    rcases List.mem_append.1 hother with hold | hnew
    · exact hrecords other hold
    · rwa [List.mem_singleton.1 hnew]
  have zero_lt : 0 < UInt64.size := Nat.pos_of_neZero _
  cases c with
  | finished d =>
    rw [Timed, results_finished]
    exact ⟨hmillis, one_more (l.fits_verdict d now)⟩
  | ignored d => exact ⟨hmillis, one_more zero_lt⟩
  | runFinished t =>
    refine ⟨t.runTime.millis_lt, fun record hrecord => ?_⟩
    have hall : record ∈ l.withOrphans.results.records := hrecord
    rw [records_withOrphans] at hall
    rcases List.mem_append.1 hall with hold | hnew
    · exact hrecords record hold
    · obtain ⟨f, -, rfl⟩ := List.mem_map.1 hnew
      exact zero_lt
  | _ => exact ⟨hmillis, hrecords⟩

/-- What a listener collected can be stored, unless there are too many records to count. -/
theorem fits_collectAll (path : Path) (told : List (Duration × Callback))
    (few : ((fresh path).collectAll told).results.records.length < UInt64.size) :
    ((fresh path).collectAll told).results.Fits := by
  have counted : ((fresh path).collectAll told).results.Counted :=
    counted_collectAll counted_empty told
  have timed : ((fresh path).collectAll told).Timed :=
    collectAll_invariant (motive := Timed) (fun _ now c h => timed_collect h now c)
      ⟨Nat.pos_of_neZero _, fun _ h => absurd h List.not_mem_nil⟩ told
  exact counted.fits timed.1 timed.2 few

/-- A callback adds at most one to the records and the failures that wait. -/
theorem length_collect (l : Listener) (now : Duration) (c : Callback) :
    (l.collect now c).results.records.length + (l.collect now c).failures.length ≤
      l.results.records.length + l.failures.length + 1 := by
  have erased (name : String) : (l.failures.erase name).length ≤ l.failures.length :=
    List.length_filter_le _ _
  cases c with
  | failure f =>
    have put : (l.collect now (.failure f)).failures =
        l.failures.erase f.description.displayName ++ [(f.description.displayName, f)] := rfl
    have := erased f.description.displayName
    rw [put, List.length_append, List.length_singleton]
    exact Nat.add_le_add_left (Nat.add_le_add_right this 1) _
  | finished d =>
    have taken : (l.collect now (.finished d)).failures = l.failures.erase d.displayName := rfl
    have := erased d.displayName
    rw [records_finished, taken, List.length_append, List.length_singleton]
    omega
  | ignored d =>
    have kept : (l.collect now (.ignored d)).failures = l.failures := rfl
    rw [results_ignored, kept, add, List.length_append, List.length_singleton]
    omega
  | runFinished t =>
    have records : (l.collect now (.runFinished t)).results.records =
        l.withOrphans.results.records := rfl
    have taken := (Pending.perm_inOrder (fun f => f.description.displayName) l.failures).length_eq
    rw [records, records_withOrphans, List.length_append, List.length_map, taken, List.length_map]
    exact Nat.le_succ _
  | _ => exact Nat.le_succ _

/-- There are no more records than callbacks. -/
theorem length_records_collectAll (path : Path) (told : List (Duration × Callback)) :
    ((fresh path).collectAll told).results.records.length ≤ told.length := by
  have whole : ((fresh path).collectAll told).results.records.length +
      ((fresh path).collectAll told).failures.length ≤ told.length := by
    induction told using List.reverseRecOn with
    | nil => exact Nat.le_refl 0
    | append_singleton told x ih =>
      have step := ((fresh path).collectAll told).length_collect x.1 x.2
      rw [collectAll_concat, List.length_append, List.length_singleton]
      omega
  omega

/-- At the end of a run a listener saves its results, if they can be written. -/
theorem save_hear {l : Listener} {fs : Files} (writable : fs.Writable l.path) (now : Duration)
    (t : Tally) : (l.collect now (.runFinished t)).results.save l.path fs =
      .ok (l.hear now fs (.runFinished t)).2.1 := by
  obtain ⟨fs', hwrite⟩ := writable.write (l.collect now (.runFinished t)).results.text.toUTF8
  have saved : (l.collect now (.runFinished t)).results.save l.path fs = .ok fs' :=
    save_eq_ok_iff.2 hwrite
  simp only [hear, path_collect, saved]
  rfl

theorem writable_hear (l : Listener) {fs : Files} (writable : fs.Writable l.path) (now : Duration)
    (c : Callback) : (l.hear now fs c).2.1.Writable l.path := by
  cases c with
  | runFinished t => exact Files.Writable.again (save_eq_ok_iff.1 (save_hear writable now t))
  | _ => exact writable

/-- The records of a listener follow the history, the counts are those of the records, and whenever a run
finishes both are in the file, if it can be written. -/
theorem records_chronicle (path : Path) (told : List (Duration × Callback)) :
    let r := ((fresh path).collectAll told).results
    Chronicle (told.map Prod.snd) r.records ∧ r.Counted ∧
      ∀ before now t (fs : Files), told = before ++ [(now, .runFinished t)] → fs.Writable path →
        let fs' := (((fresh path).collectAll before).hear now fs (.runFinished t)).2.1
        fs'.readText path = .ok r.text ∧
          (r.records.length < UInt64.size → load path fs' = .ok r) := by
  intro r
  refine ⟨chronicle_collectAll path told, counted_collectAll counted_empty told, ?_⟩
  intro before now t fs htold writable fs'
  let l := (fresh path).collectAll before
  have hpath : l.path = path := path_collectAll (fresh path) before
  have hr : r = (l.collect now (.runFinished t)).results := by
    simp only [r, htold, collectAll_concat, l]
  have saved : r.save path fs = .ok fs' := by
    rw [hr, ← hpath]
    exact save_hear (hpath ▸ writable) now t
  refine ⟨readText_save saved, fun few => ?_⟩
  exact load_of_save (fits_collectAll path told few) saved

/-- A test fails and then passes under the same name, another one is ignored; of two failures of their suite the
later one is left. -/
theorem records_chronicle_rerun :
    let test : Description := .test "T" "a" []
    let suite : Description := .ofClass "T" []
    let before : List (Duration × Callback) :=
      [(0, .started test), (1, .failure ⟨test, "first"⟩), (2000000, .finished test),
        (3000000, .finished test), (4000000, .ignored (.test "T" "off" [])),
        (4000000, .failure ⟨suite, "setup"⟩), (5000000, .failure ⟨suite, "teardown"⟩)]
    let t : Tally := ⟨2, 0, [], 6000000⟩
    let path := Path.ofString "out.json"
    let r := ((fresh path).collectAll (before ++ [(6000000, .runFinished t)])).results
    let fs' := (((fresh path).collectAll before).hear 6000000 .empty (.runFinished t)).2.1
    Files.empty.Writable path ∧ r.records.length < UInt64.size ∧
      r.records = [⟨"T", "a", .failed, 2, some "first"⟩, ⟨"T", "a", .passed, 0, none⟩,
        ⟨"T", "off", .ignored, 0, none⟩, ⟨"T", "T", .failed, 0, some "teardown"⟩] ∧
      r.passed = 1 ∧ r.failed = 2 ∧ r.ignored = 1 ∧
      fs'.readText path = .ok r.text ∧ load path fs' = .ok r := by
  intro test suite before t path r fs'
  let l := (fresh path).collectAll before
  have left : (l.failures.inOrder fun f => f.description.displayName) = [⟨suite, "teardown"⟩] := by
    have waits : l.failures = [("T", ⟨suite, "teardown"⟩)] := by decide +kernel
    simp [waits, Pending.inOrder]
  have settled : l.results.records = [⟨"T", "a", .failed, 2, some "first"⟩,
      ⟨"T", "a", .passed, 0, none⟩, ⟨"T", "off", .ignored, 0, none⟩] := by decide +kernel
  have records : r.records = [⟨"T", "a", .failed, 2, some "first"⟩, ⟨"T", "a", .passed, 0, none⟩,
      ⟨"T", "off", .ignored, 0, none⟩, ⟨"T", "T", .failed, 0, some "teardown"⟩] := by
    have hr : r.records = l.withOrphans.results.records := by
      simp only [r, collectAll_concat, l]
      rfl
    rw [hr, records_withOrphans, settled, left]
    rfl
  have few : r.records.length < UInt64.size := by
    rw [records]
    decide
  have writable : Files.empty.Writable path := by decide +kernel
  obtain ⟨-, counted, stored⟩ := records_chronicle path (before ++ [(6000000, .runFinished t)])
  obtain ⟨written, loaded⟩ := stored before 6000000 t .empty rfl writable
  refine ⟨writable, few, records, ?_, ?_, ?_, written, loaded few⟩
  · exact counted.passed.trans (by rw [records]; rfl)
  · exact counted.failed.trans (by rw [records]; rfl)
  · exact counted.ignored.trans (by rw [records]; rfl)

end Results.Listener
end Testbench
