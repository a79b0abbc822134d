import Mathlib.Data.List.Basic
import Testbench.Proofs.Trace
import Testbench.Runner
/-!
# Leaves

The leaves of a tree of runners are its classes and its runners of other kinds, from left to right. A
tree is described by the tests of its leaves, and it runs as its leaves do one after another, except
that its wrappers call the logger of suites.

Main statements: `tests_describe` and `quiet_run`.
-/
namespace Testbench.Runner
variable {β ι : Type}

mutual

def leaves : Runner β → List (Runner β)
  | ofClass c => [ofClass c]
  | suite _ children => leavesAll children
  | logged inner => leaves inner
  | other b => [other b]

def leavesAll : List (Runner β) → List (Runner β)
  | [] => []
  | r :: rs => leaves r ++ leavesAll rs

end

theorem leavesAll_eq_flatMap (rs : List (Runner β)) : leavesAll rs = rs.flatMap leaves := by
  induction rs with
  | nil => rfl
  | cons r rs ih => rw [leavesAll, ih, List.flatMap_cons]

theorem exists_of_mem_leaves {r l : Runner β} (h : l ∈ r.leaves) :
    (∃ c, l = ofClass c) ∨ ∃ b, l = other b := by
  induction r with
  | ofClass c => exact .inl ⟨c, List.mem_singleton.1 h⟩
  | suite name children ih =>
    rw [leaves, leavesAll_eq_flatMap, List.mem_flatMap] at h
    obtain ⟨r, hr, hl⟩ := h
    exact ih r hr hl
  | logged inner ih => exact ih h
  | other b => exact .inr ⟨b, List.mem_singleton.1 h⟩

/-! ## Classes and scripts call nobody -/

theorem calls_reportFailure (d : Description) (body : Body) (n : Notifier ι) :
    Happening.calls (reportFailure d body n).trace = [] := by
  unfold reportFailure
  cases body.ending.failure? with
  | none => rfl
  | some message => exact n.calls_fire _

theorem calls_runCase (c : TestClass) (t : TestCase) (n : Notifier ι) :
    Happening.calls (runCase c t n).trace = [] := by
  unfold runCase
  split
  · exact n.calls_fire _
  · refine Effect.calls_andThen (n.calls_fire _) fun n => ?_
    refine Effect.calls_andThen rfl fun n => ?_
    exact Effect.calls_andThen (calls_reportFailure _ _ n) fun n => n.calls_fire _

theorem calls_runCases (c : TestClass) (ts : List TestCase) (n : Notifier ι) :
    Happening.calls (runCases c ts n).trace = [] := by
  induction ts generalizing n with
  | nil => rfl
  | cons t ts ih => exact Effect.calls_andThen (calls_runCase c t n) ih

theorem calls_play (s : Script β) (n : Notifier ι) : Happening.calls (play s n).2.trace = [] := by
  induction s generalizing n with
  | done outcome after => rfl
  | fire f next ih =>
    rw [play, Happening.calls_append, n.calls_fire, ih]
    rfl
  | wait time next ih => exact ih n

variable [RunnerKind β]

/-! ## Descriptions -/

omit [RunnerKind β] in
theorem tests_ofClass (c : TestClass) : c.describe.tests = c.cases.map c.describeCase := by
  rw [TestClass.describe, Description.ofClass, Description.tests]
  simp only [Option.isSome_none, Bool.false_eq_true, if_false, Description.testsAll_eq_flatMap,
    List.flatMap_map]
  exact List.map_eq_flatMap.symm

theorem tests_suite (name : String) (children : List (Runner β)) :
    (describe (suite name children)).tests = children.flatMap fun r => (describe r).tests := by
  simp only [describe, Description.suite, Description.tests, Option.isSome_none, Bool.false_eq_true,
    if_false, Description.testsAll_eq_flatMap, describeAll_eq_map, List.flatMap_map]

/-- A tree stands for the tests of its leaves. -/
theorem tests_describe (r : Runner β) :
    (describe r).tests = r.leaves.flatMap fun l => (describe l).tests := by
  induction r with
  | ofClass c => simp [leaves]
  | suite name children ih =>
    rw [tests_suite, leaves, leavesAll_eq_flatMap, List.flatMap_assoc]
    exact List.flatMap_congr fun r hr => ih r hr
  | logged inner ih => rw [leaves, ← ih, describe]
  | other b => simp [leaves]

/-! ## Runs of lists -/

theorem runAll_append_of_ok {rs : List (Runner β)} {n : Notifier ι}
    (h : (runAll rs n).2.outcome = .ok ()) (ss : List (Runner β)) :
    runAll (rs ++ ss) n = ((runAll rs n).1 ++ (runAll ss (runAll rs n).2.notifier).1,
      (runAll rs n).2.andThen fun n => (runAll ss n).2) := by
  induction rs generalizing n with
  | nil => rfl
  | cons r rs ih =>
    rcases hr : (run r n).2.outcome with e | _
    · rw [runAll_cons_error hr] at h
      exact absurd (hr.symm.trans h) (by simp)
    · rw [runAll_cons_ok hr] at h ⊢
      simp only [Effect.andThen_of_ok hr] at h
      rw [List.cons_append, runAll_cons_ok hr, Effect.andThen_assoc]
      simp only [List.cons_append, Effect.andThen_of_ok hr, ih h]

theorem runAll_append_of_error {rs : List (Runner β)} {n : Notifier ι} {e : Error}
    (h : (runAll rs n).2.outcome = .error e) (ss : List (Runner β)) :
    runAll (rs ++ ss) n = ((runAll rs n).1 ++ ss, (runAll rs n).2) := by
  induction rs generalizing n with
  | nil => exact absurd h (by simp [runAll, Effect.idle])
  | cons r rs ih =>
    rcases hr : (run r n).2.outcome with e' | _
    · rw [List.cons_append, runAll_cons_error hr, runAll_cons_error hr, List.cons_append]
    · rw [runAll_cons_ok hr] at h ⊢
      simp only [Effect.andThen_of_ok hr] at h
      rw [List.cons_append, runAll_cons_ok hr]
      simp only [List.cons_append, Effect.andThen_of_ok hr, ih h]

theorem runAll_singleton (r : Runner β) (n : Notifier ι) :
    runAll [r] n = ([(run r n).1], (run r n).2) := by
  rcases h : (run r n).2.outcome with e | _
  · rw [runAll_cons_error h]
  · rw [runAll_cons_ok h]
    exact congrArg (Prod.mk _) (Effect.andThen_idle _)

/-! ## Runs of trees -/

theorem calls_run_of_mem_leaves {r l : Runner β} (h : l ∈ r.leaves) (n : Notifier ι) :
    Happening.calls (run l n).2.trace = [] := by
  induction r with
  | ofClass c => rw [List.mem_singleton.1 h]; exact calls_runCases c c.cases n
  | suite name children ih =>
    rw [leaves, leavesAll_eq_flatMap, List.mem_flatMap] at h
    obtain ⟨r, hr, hl⟩ := h
    exact ih r hr hl
  | logged inner ih => exact ih h
  | other b => rw [List.mem_singleton.1 h]; exact calls_play _ n

theorem quiet_bracketed (d : Description) (e : Effect ι) :
    Happening.quiet (bracketed d e) = Happening.quiet e.trace := by
  rcases h : e.outcome with err | _
  · rw [bracketed_of_error d h, Happening.quiet_suite]
  · rw [bracketed_of_ok d h]
    simp

/-- Trees run one after another as all their leaves do, if each of them runs as its leaves do. -/
theorem quiet_runAll {rs : List (Runner β)}
    (h : ∀ r ∈ rs, ∀ n : Notifier ι, (run r n).2.quiet = (runAll r.leaves n).2 ∧
      (run r n).1.leaves = (runAll r.leaves n).1) (n : Notifier ι) :
    (runAll rs n).2.quiet = (runAll (leavesAll rs) n).2 ∧
      leavesAll (runAll rs n).1 = (runAll (leavesAll rs) n).1 := by
  induction rs generalizing n with
  | nil => exact ⟨rfl, rfl⟩
  | cons r rs ih =>
    obtain ⟨he, hl⟩ := h r List.mem_cons_self n
    have ho : (run r n).2.outcome = (runAll r.leaves n).2.outcome := by rw [← he]; rfl
    have hn : (run r n).2.notifier = (runAll r.leaves n).2.notifier := by rw [← he]; rfl
    rcases hr : (run r n).2.outcome with e | _
    · rw [runAll_cons_error hr, leavesAll, leavesAll, runAll_append_of_error (ho ▸ hr)]
      exact ⟨he, by rw [hl]⟩
    · obtain ⟨hes, hls⟩ := ih (fun r hr => h r (List.mem_cons_of_mem _ hr)) (run r n).2.notifier
      rw [runAll_cons_ok hr, leavesAll, leavesAll, runAll_append_of_ok (ho ▸ hr), ← hn]
      refine ⟨?_, by rw [hl, hls]⟩
      rw [Effect.quiet_andThen, he, Effect.andThen_of_ok (ho ▸ hr), Effect.andThen_of_ok (ho ▸ hr),
        ← hn, hes]

/-- Up to calls to the logger of suites, a tree runs as its leaves do one after another. -/
theorem quiet_run (r : Runner β) (n : Notifier ι) :
    (run r n).2.quiet = (runAll r.leaves n).2 ∧ (run r n).1.leaves = (runAll r.leaves n).1 := by
  induction r generalizing n with
  | ofClass c =>
    rw [leaves, runAll_singleton]
    exact ⟨Effect.quiet_of_calls (calls_runCases c c.cases n), rfl⟩
  | suite name children ih =>
    rw [run_suite, leaves, leaves]
    exact quiet_runAll ih n
  | logged inner ih =>
    obtain ⟨he, hl⟩ := ih n
    rw [run_logged]
    refine ⟨?_, hl⟩
    rw [Effect.quiet, quiet_bracketed]
    exact he
  | other b =>
    rw [leaves, runAll_singleton]
    exact ⟨Effect.quiet_of_calls (calls_play _ n), rfl⟩

theorem outcome_run (r : Runner β) (n : Notifier ι) :
    (run r n).2.outcome = (runAll r.leaves n).2.outcome := by
  rw [← (quiet_run r n).1]
  rfl

theorem notifier_run (r : Runner β) (n : Notifier ι) :
    (run r n).2.notifier = (runAll r.leaves n).2.notifier := by
  rw [← (quiet_run r n).1]
  rfl

end Testbench.Runner
