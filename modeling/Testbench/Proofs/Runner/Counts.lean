import Testbench.Proofs.Runner.Scenes
/-!
# What a plan adds to the tally

Each test of a plan adds to one count of the tally, and its failure, if it has one, to the failures. A
supervised run ends with the tally of the tests that were acted.

Main statements: `tally_course` for the tests of a plan that are all reported, and `supervise_eq` for how
a supervised run ends and what happens in it.
-/
namespace Testbench
variable {ι : Type}

namespace Planned

/-- The failure that is reported of a test; an ignored test has none. -/
def reported? (p : Planned) : Option Failure := if p.test.ignored then none else p.failure?

def fails (p : Planned) : Bool := p.reported?.isSome

theorem runCount_settle (p : Planned) (n : Notifier ι) :
    (p.settle n).tally.runCount = n.tally.runCount + if p.test.ignored then 0 else 1 := by
  cases hi : p.test.ignored <;> simp [settle, Notifier.withTally, hi]

theorem ignoreCount_settle (p : Planned) (n : Notifier ι) :
    (p.settle n).tally.ignoreCount = n.tally.ignoreCount + if p.test.ignored then 1 else 0 := by
  cases hi : p.test.ignored <;> simp [settle, Notifier.withTally, hi]

theorem failures_settle (p : Planned) (n : Notifier ι) :
    (p.settle n).tally.failures = n.tally.failures ++ p.reported?.toList := by
  cases hi : p.test.ignored <;> simp [settle, Notifier.withTally, reported?, hi]

theorem stopRequested_settle (p : Planned) (n : Notifier ι) :
    (p.settle n).stopRequested = (n.stopRequested || (p.fails && n.failFast)) := by
  cases hi : p.test.ignored <;> simp [settle, Notifier.withTally, fails, reported?, hi]

@[simp] theorem failFast_settle (p : Planned) (n : Notifier ι) :
    (p.settle n).failFast = n.failFast := by
  cases hi : p.test.ignored <;> simp [settle, Notifier.withTally, hi]

end Planned

/-- Tests that are all reported are counted, those that are ignored apart, and their failures are kept in
order. -/
theorem tally_course {ps : List Planned} {n : Notifier ι} (h : (course ps n).outcome = .ok ()) :
    (course ps n).notifier.tally.runCount = n.tally.runCount + ps.countP (!·.test.ignored) ∧
      (course ps n).notifier.tally.ignoreCount = n.tally.ignoreCount + ps.countP (·.test.ignored) ∧
      (course ps n).notifier.tally.failures =
        n.tally.failures ++ ps.filterMap Planned.reported? := by
  induction ps generalizing n with
  | nil => simp [course]
  | cons p ps ih =>
    by_cases hp : p.isRefused n
    · rw [course_cons_refused hp] at h
      cases h
    · rw [course_cons hp] at h ⊢
      obtain ⟨hrun, hignore, hfail⟩ := ih h
      refine ⟨?_, ?_, ?_⟩
      · rw [hrun, p.runCount_settle, List.countP_cons]
        cases p.test.ignored <;> simp [Nat.add_assoc, Nat.add_comm]
      · rw [hignore, p.ignoreCount_settle, List.countP_cons]
        cases p.test.ignored <;> simp [Nat.add_assoc, Nat.add_comm]
      · rw [hfail, p.failures_settle, List.filterMap_cons, List.append_assoc]
        cases p.reported? <;> rfl

/-- A notifier that was not asked to stop and does not stop by itself refuses nothing. -/
theorem course_of_not_failFast {n : Notifier ι} (hf : n.failFast = false)
    (hs : n.stopRequested = false) (ps : List Planned) : (course ps n).outcome = .ok () := by
  induction ps generalizing n with
  | nil => rfl
  | cons p ps ih =>
    have hp : ¬ p.isRefused n := by simp [Planned.isRefused, hs]
    rw [course_cons hp]
    refine ih ?_ ?_
    · rw [p.failFast_settle, hf]
    · rw [p.stopRequested_settle, hs, hf, Bool.and_false, Bool.or_false]

/-! ## Supervised runs -/

namespace Runner

/-- The tally that a supervised run of a tree ends with. -/
def total (r : Runner Empty) (n : Notifier ι) : Tally :=
  { (course r.plan n).notifier.tally with runTime := Scene.time (acted r.scenes n) }

/-- The notice of an early end, if there is one. -/
def earlyEnd (r : Runner Empty) (n : Notifier ι) : List (Happening ι) :=
  match (course r.plan n).outcome with
  | .ok _ => []
  | .error _ => [.logged stoppedEarly]

theorem follows_scenes (r : Runner Empty) (n : Notifier ι) : Follows r.plan n (run r n).2 :=
  tests_scenes r ▸ (shows_run r n).follows

/-- A supervised run of a tree always has a result. It is announced, acted, and closed with its tally. -/
theorem supervise_eq (r : Runner Empty) (n : Notifier ι) :
    (supervise r n).outcome = .ok (r.total n) ∧
      (supervise r n).trace = (Callback.runStarted r.describe).toEach n.listeners ++
        ((acted r.scenes n).flatMap (Scene.happenings n.listeners) ++
          (r.earlyEnd n ++ (Callback.runFinished (r.total n)).toEach n.listeners)) := by
  have follows := follows_scenes r n
  have htrace := trace_run r n
  have htime : Happening.duration (run r n).2.trace = Scene.time (acted r.scenes n) := by
    rw [htrace, Scene.duration_flatMap_happenings]
  have hlisteners : (run r n).2.notifier.listeners = n.listeners := by
    rw [follows.notifier, listeners_course]
  rw [supervise, earlyEnd, total, ← follows.outcome, ← follows.notifier, ← htrace, ← htime]
  simp only [Notifier.fire]
  -- The only error of a run is a refusal, which closes the run early but is no error of its own.
  rcases ho : (run r n).2.outcome with err | _
  · obtain ⟨rfl, -⟩ := course_of_error (follows.outcome.symm.trans ho)
    simp [conclude, Notifier.fire, Notifier.withTally, Notifier.tell, Callback.toEach, hlisteners]
  · simp [conclude, Notifier.fire, Notifier.withTally, Notifier.tell, Callback.toEach, hlisteners]

end Runner
end Testbench
