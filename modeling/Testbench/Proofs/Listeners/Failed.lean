import Testbench.Proofs.Listeners.Alike
import Testbench.Proofs.Heard
/-!
# No failure is hidden

A notifier keeps every failure that is reported; a console and a results file keep what became of them,
and a failure may be taken up by a finish, replaced by another one of its name, or left over at the end of
the run. At that end the failed tests of the console have the names of the failures all the same, and
the console and the file show that something failed just if the run was no success.

Main statement: `failures_shown`.
-/
namespace Testbench

namespace Tally

theorem wasSuccessful_eq_false_iff {t : Tally} : t.wasSuccessful = false ↔ t.failures ≠ [] := by
  rw [wasSuccessful, Bool.eq_false_iff, ne_eq, List.isEmpty_iff]

end Tally

namespace Harness

theorem nodup_listeners_notifier (s : Stage) (failFast : Bool) :
    (notifier s failFast).listeners.Nodup := List.nodup_range

theorem mem_listeners_notifier {s : Stage} {i : Nat} {l : Listener}
    (h : s.listeners[i]? = some l) (failFast : Bool) : i ∈ (notifier s failFast).listeners :=
  List.mem_range.2 (List.getElem?_eq_some_iff.1 h).1

/-- At the end of a run a console writes its summary, between the lines of other consoles. -/
theorem summary_shown {s : Stage} {i : Nat} {c : Console.Listener}
    (hi : s.listeners[i]? = some (.console c)) (history : List (Duration × Firing))
    (time runTime : Duration) (failFast : Bool) :
    let n := notifier s failFast
    let whole := history ++ [(time, .runFinished runTime)]
    ∃ millis, s.host.consoleWorks = true → ∃ before after,
      Output.lines (s.play (n.fireAll whole).2).2 =
        Output.lines (s.play (n.fireAll history).2).2 ++ before ++
          Console.summary (n.fireAll whole).1.tally.passedCount
            (c.hearAll (n.told s.clock whole)).failedTests millis ++ after := by
  intro n whole
  let told := n.told s.clock history
  let t : Tally := { (n.fireAll history).1.tally with runTime }
  let now := s.clock + Notifier.duration history + time
  let written (k : Nat) : List Console.Line :=
    (s.listeners[k]?).elim [] fun l => (l.afterAll told).lines now (.runFinished t)
  have passed : (n.fireAll whole).1.tally.passedCount = t.passedCount := by
    rw [n.fireAll_concat_runFinished]
    rfl
  have own : written i = Console.summary (n.fireAll whole).1.tally.passedCount
      (c.hearAll (n.told s.clock whole)).failedTests ((c.hearAll told).runMillis now t) := by
    simp only [written, hi, Option.elim_some, passed, whole, n.told_concat_runFinished]
    exact Listener.lines_console_runFinished c told now t
  refine ⟨(c.hearAll told).runMillis now t, fun works => ?_⟩
  have hlines : Output.lines (s.play (n.fireAll whole).2).2 =
      Output.lines (s.play (n.fireAll history).2).2 ++ n.listeners.flatMap written :=
    Stage.lines_play_fireAll (nodup_listeners_notifier s failFast) works history time runTime
  obtain ⟨earlier, later, hsplit⟩ := List.append_of_mem (mem_listeners_notifier hi failFast)
  refine ⟨earlier.flatMap written, later.flatMap written, ?_⟩
  rw [hlines, hsplit, List.flatMap_append, List.flatMap_cons, own]
  simp only [List.append_assoc]

/-- A console and a results file after a history of firings that ends with the end of the run: the failed
tests of the console have the names of the failures of the run, and the run was no success if and only if
the console lists failed tests, and if and only if the file counts some. -/
theorem failures_shown {s : Stage} {i j : Nat} {path : Path}
    (hi : s.listeners[i]? = some (.console .fresh))
    (hj : s.listeners[j]? = some (.results (.fresh path))) (history : List (Duration × Firing))
    (time runTime : Duration) (failFast : Bool) :
    let n := notifier s failFast
    let whole := history ++ [(time, .runFinished runTime)]
    let t := (n.fireAll whole).1.tally
    let x := s.play (n.fireAll whole).2
    ∃ c l millis,
      let shown := Console.summary t.passedCount c.failedTests millis
      x.1.listeners[i]? = some (.console c) ∧ x.1.listeners[j]? = some (.results l) ∧
        (s.host.consoleWorks = true → ∃ before after, Output.lines x.2 =
          Output.lines (s.play (n.fireAll history).2).2 ++ before ++ shown ++ after) ∧
        (s.SoleWriter j path → x.1.host.files.readText path = .ok l.results.text ∧
          (whole.length < UInt64.size → Results.load path x.1.host.files = .ok l.results)) ∧
        (∀ name, name ∈ c.failedTests.map Description.displayName ↔
          name ∈ t.failures.map (·.description.displayName)) ∧
        (t.wasSuccessful = false ↔ ∃ count, Console.Line.failedHead count ∈ shown) ∧
        (t.wasSuccessful = false ↔ 0 < l.results.failed) := by
  intro n whole t x
  let told := n.told s.clock whole
  let c := Console.Listener.fresh.hearAll told
  let l := (Results.Listener.fresh path).collectAll told
  have nodup : n.listeners.Nodup := nodup_listeners_notifier s failFast
  have hc : x.1.listeners[i]? = some (.console c) := by
    have heard := Stage.getElem?_play_fireAll (s := s) nodup (mem_listeners_notifier hi failFast) whole
    rwa [hi, Option.map_some, Listener.afterAll_console] at heard
  have hl : x.1.listeners[j]? = some (.results l) := by
    have heard := Stage.getElem?_play_fireAll (s := s) nodup (mem_listeners_notifier hj failFast) whole
    rwa [hj, Option.map_some, Listener.afterAll_results] at heard
  obtain ⟨millis, hlines⟩ := summary_shown hi history time runTime failFast
  have hfile (sole : s.SoleWriter j path) : x.1.host.files.readText path = .ok l.results.text ∧
      (whole.length < UInt64.size → Results.load path x.1.host.files = .ok l.results) := by
    have text : x.1.host.files.readText path = .ok l.results.text :=
      Stage.readText_play_fireAll nodup sole hj (mem_listeners_notifier hj failFast) history time
        runTime
    refine ⟨text, fun few => Results.load_of_readText ?_ text⟩
    have fewer : l.results.records.length ≤ whole.length :=
      Nat.le_trans (Results.Listener.length_records_collectAll path told)
        (n.length_told s.clock whole)
    exact Results.Listener.fits_collectAll path told (Nat.lt_of_le_of_lt fewer few)
  have failures : t.failures = (told.map Prod.snd).filterMap Callback.failure? :=
    (n.tally_fireAll s.clock whole).2.2
  have ended : told = n.told s.clock history ++ _ := n.told_concat_runFinished _ _ _ _
  have names (name : String) : name ∈ c.failedTests.map Description.displayName ↔
      name ∈ t.failures.map (·.description.displayName) := by
    rw [failures]
    simp only [c, ended]
    exact Console.Listener.mem_names_failedTests_iff _ _ _ name
  have some_failed : c.failedTests ≠ [] ↔ t.failures ≠ [] := by
    rw [failures]
    simp only [c, ended]
    exact Console.Listener.failedTests_ne_nil_iff _ _ _
  have counted : l.results.Counted :=
    Results.Listener.counted_collectAll Results.counted_empty told
  have count : c.failedTests.length = l.results.failed :=
    (Alike.of_told path told).length_failedTests counted
  refine ⟨c, l, millis, hc, hl, hlines, hfile, names, ?_, ?_⟩
  · rw [Tally.wasSuccessful_eq_false_iff, Console.failedHead_mem_summary_iff, some_failed]
  · rw [Tally.wasSuccessful_eq_false_iff, ← some_failed, ← count, List.length_pos_iff]

/-- A test fails twice before it finishes, and its suite fails after that: three failures, under two
names. -/
theorem failures_shown_replaced :
    let test : Description := .test "T" "a" []
    let suite : Description := .ofClass "T" []
    let history : List (Duration × Firing) :=
      [(0, .started test), (1, .failure ⟨test, "first"⟩), (1, .failure ⟨test, "second"⟩),
        (1, .finished test), (0, .failure ⟨suite, "teardown"⟩)]
    let path := Path.ofString "out.json"
    let s : Stage := ⟨[.results (.fresh path), .recorder 0, .console .fresh], .record, .empty, 0⟩
    let n := notifier s true
    let whole := history ++ [(0, .runFinished 3)]
    let t := (n.fireAll whole).1.tally
    let x := s.play (n.fireAll whole).2
    s.listeners[2]? = some (.console .fresh) ∧ s.listeners[0]? = some (.results (.fresh path)) ∧
      s.host.consoleWorks = true ∧ s.SoleWriter 0 path ∧
      t.failures.map (·.description.displayName) = ["T.a", "T.a", "T"] ∧
      ∃ c l millis,
        let shown := Console.summary t.passedCount c.failedTests millis
        x.1.listeners[2]? = some (.console c) ∧ x.1.listeners[0]? = some (.results l) ∧
          (∃ before after, Output.lines x.2 =
            Output.lines (s.play (n.fireAll history).2).2 ++ before ++ shown ++ after) ∧
          x.1.host.files.readText path = .ok l.results.text ∧
          Results.load path x.1.host.files = .ok l.results ∧
          (∀ name, name ∈ c.failedTests.map Description.displayName ↔ name ∈ ["T.a", "T.a", "T"]) ∧
          (∃ count, Console.Line.failedHead count ∈ shown) ∧ 0 < l.results.failed := by
  intro test suite history path s n whole t x
  have sole : s.SoleWriter 0 path := by
    refine ⟨?_, by decide +kernel⟩
    intro k r hk
    rcases k with _ | _ | _ | k
    · cases hk
      exact ⟨rfl, rfl⟩
    all_goals cases hk
  have reported : t.failures.map (·.description.displayName) = ["T.a", "T.a", "T"] := by
    decide +kernel
  have failed : t.wasSuccessful = false := by decide +kernel
  obtain ⟨c, l, millis, hc, hl, hlines, hfile, hnames, hshown, hcounted⟩ :=
    failures_shown (s := s) (i := 2) (j := 0) rfl rfl history 0 3 true
  have named (name : String) :
      name ∈ c.failedTests.map Description.displayName ↔ name ∈ ["T.a", "T.a", "T"] := by
    rw [← reported]
    exact hnames name
  refine ⟨rfl, rfl, rfl, sole, reported, c, l, millis, ?_⟩
  simp only [x, t, whole, n]
  obtain ⟨text, loaded⟩ := hfile sole
  exact ⟨hc, hl, hlines rfl, text, loaded (by decide), named, hshown.1 failed, hcounted.1 failed⟩

end Harness
end Testbench
