import Testbench.Proofs.Heard
/-!
# How many tests passed

A console and a results file may follow any history of firings. The file counts a finished test as
passed unless its finish takes up a failure. The tally takes every failure off the finished tests, also one
that is reported against a suite and one that replaces another, so the console may count fewer.

Main statement: `passedCount_fireAll`.
-/
namespace Testbench

namespace Harness

/-- A stage after a history of firings that ends with the end of the run. -/
theorem play_fireAll_runFinished {n : Notifier Nat} (both : n.listeners = [0, 1])
    (c : Console.Listener) {r : Results.Listener} {host : Host} (works : host.consoleWorks = true)
    (writable : host.files.Writable r.path) (clock : Duration) (history : List (Duration × Firing))
    (time runTime : Duration) :
    let whole := history ++ [(time, .runFinished runTime)]
    let x := (watched c r host clock).play (n.fireAll whole).2
    (∃ before failed millis, Output.lines x.2 =
        before ++ Console.summary (n.fireAll whole).1.tally.passedCount failed millis) ∧
      x.1.host.files.readText r.path = .ok (r.collectAll (n.told clock whole)).results.text := by
  intro whole x
  have nodup : n.listeners.Nodup := by
    rw [both]
    decide
  have hfile := Stage.readText_play_fireAll nodup (soleWriter_watched c writable clock) rfl
    (by simp [both]) history time runTime
  let told := n.told clock history
  let t : Tally := { (n.fireAll history).1.tally with runTime }
  let now := clock + Notifier.duration history + time
  let before := Output.lines ((watched c r host clock).play (n.fireAll history).2).2
  have hlines : Output.lines x.2 = before ++ n.listeners.flatMap fun i =>
      ((watched c r host clock).listeners[i]?).elim [] fun l =>
        (l.afterAll told).lines now (.runFinished t) :=
    Stage.lines_play_fireAll nodup works history time runTime
  have both_lines : Output.lines x.2 = before ++ (((Listener.console c).afterAll told).lines now
      (.runFinished t) ++ ((Listener.results r).afterAll told).lines now (.runFinished t)) := by
    rw [hlines, both]
    simp [watched]
  rw [Listener.lines_console_runFinished, Listener.lines_results, List.append_nil] at both_lines
  have passed : (n.fireAll whole).1.tally.passedCount = t.passedCount := by
    rw [n.fireAll_concat_runFinished]
    rfl
  exact ⟨⟨before, _, _, passed ▸ both_lines⟩, hfile⟩

/-- The console and the results file after a history of firings that ends with the end of the run: the
console counts as passed what the file counts, less the failures that no finish took up. -/
theorem passedCount_fireAll (history : List (Duration × Firing)) (time runTime : Duration)
    (failFast : Bool) {path : Path} {host : Host} (works : host.consoleWorks = true)
    (writable : host.files.Writable path) :
    let s := stage (some path) host
    let n := notifier s failFast
    let whole := history ++ [(time, .runFinished runTime)]
    let t := (n.fireAll whole).1.tally
    let x := s.play (n.fireAll whole).2
    ∃ r : Results,
      x.1.host.files.readText path = .ok r.text ∧
        (∃ before failed millis,
          Output.lines x.2 = before ++ Console.summary t.passedCount failed millis) ∧
        r.passed = r.records.countP (·.status = .passed) ∧
        t.passedCount = r.passed - Callback.untaken ((n.told 0 whole).map Prod.snd) := by
  intro s n whole t x
  obtain ⟨hlines, hfile⟩ := play_fireAll_runFinished (n := n) rfl .fresh (r := .fresh path) works
    writable 0 history time runTime
  let l := (Results.Listener.fresh path).collectAll (n.told 0 whole)
  let callbacks := (n.told 0 whole).map Prod.snd
  have counted : l.results.Counted :=
    Results.Listener.counted_collectAll Results.counted_empty (n.told 0 whole)
  obtain ⟨hrun, -, hfail⟩ := n.tally_fireAll 0 whole
  have finished : t.runCount = callbacks.countP Callback.isFinished := hrun.trans (Nat.zero_add _)
  have failed : t.failures = callbacks.filterMap Callback.failure? := hfail
  have balance : l.results.passed + t.failures.length = t.runCount + Callback.untaken callbacks := by
    have all := Results.Listener.passed_collectAll (l := .fresh path) Pending.distinct_nil
      (n.told 0 whole)
    rw [finished, failed]
    exact all.trans (congrArg (· + _) (Nat.zero_add _))
  have less : t.passedCount = l.results.passed - Callback.untaken callbacks := by
    rw [Tally.passedCount]
    omega
  exact ⟨l.results, hfile, hlines, counted.passed, less⟩

/-- Of three tests two pass; two failures of the third one and one of the suite are reported, and one of
the three is taken up. -/
theorem passedCount_fireAll_untaken :
    let test (name : String) : Description := .test "T" name []
    let suite : Description := .ofClass "T" []
    let history : List (Duration × Firing) :=
      [(0, .started (test "a")), (1, .finished (test "a")), (0, .started (test "b")),
        (1, .failure ⟨test "b", "first"⟩), (1, .failure ⟨test "b", "second"⟩),
        (0, .finished (test "b")), (0, .failure ⟨suite, "teardown"⟩), (0, .started (test "c")),
        (1, .finished (test "c"))]
    let path := Path.ofString "out.json"
    let s := stage (some path) .empty
    let n := notifier s false
    let whole := history ++ [(0, .runFinished 4)]
    let t := (n.fireAll whole).1.tally
    Host.empty.consoleWorks = true ∧ Host.empty.files.Writable path ∧ t.passedCount = 0 ∧
      Callback.untaken ((n.told 0 whole).map Prod.snd) = 2 ∧
      ∃ r : Results,
        (s.play (n.fireAll whole).2).1.host.files.readText path = .ok r.text ∧
          (∃ before failed millis, Output.lines (s.play (n.fireAll whole).2).2 =
            before ++ Console.summary t.passedCount failed millis) ∧
          r.passed = r.records.countP (·.status = .passed) ∧
          t.passedCount = r.passed - Callback.untaken ((n.told 0 whole).map Prod.snd) := by
  intro test suite history path s n whole t
  have writable : Host.empty.files.Writable path := by decide +kernel
  have none_left : t.passedCount = 0 := by decide +kernel
  have two : Callback.untaken ((n.told 0 whole).map Prod.snd) = 2 := by decide +kernel
  refine ⟨rfl, writable, none_left, two, ?_⟩
  simp only [t, whole, n, s]
  exact passedCount_fireAll history 0 4 false rfl writable

/-- A test passes and its suite then fails: the file counts one passed test, and the console none. -/
theorem passedCount_lt_passed :
    let a : Description := .test "T" "a" []
    let whole : List (Duration × Firing) :=
      [(0, .started a), (0, .finished a), (0, .failure ⟨.ofClass "T" [], "teardown failed"⟩),
        (0, .runFinished 1)]
    let path := Path.ofString "out.json"
    let s := stage (some path) .empty
    let n := notifier s false
    ∃ r : Results, (s.play (n.fireAll whole).2).1.host.files.readText path = .ok r.text ∧
      r.passed = 1 ∧ (n.fireAll whole).1.tally.passedCount = 0 := by
  intro a whole path s n
  have writable : Host.empty.files.Writable path := by decide +kernel
  let l := (Results.Listener.fresh path).collectAll (n.told 0 whole)
  have one : l.results.passed = 1 := by decide +kernel
  have none_left : (n.fireAll whole).1.tally.passedCount = 0 := by decide +kernel
  have written := (play_fireAll_runFinished (n := n) rfl .fresh (r := .fresh path) rfl writable 0
    (whole.take 3) 0 1).2
  exact ⟨l.results, written, one, none_left⟩

end Harness
end Testbench
