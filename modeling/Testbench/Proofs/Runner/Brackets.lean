import Testbench.Proofs.Runner.Leaves
/-!
# Calls to the logger of suites are balanced

The calls of a run are brackets around the runs of leaves. `Runner.steps` lists what a run of a tree
goes through, calls and leaves, each leaf with the descriptions of the wrapped runners around it.
`SuiteCall.unclosed` reads calls as brackets.

Main statement: `calls_run_balanced`. A run that ends well makes all calls of its tree, and they close
each other; one that fails makes those before the failing leaf, and the wrappers around that leaf stay
open.
-/
namespace Testbench

namespace SuiteCall

/-- The open suites after a call, the innermost first. Only the innermost one can finish, and only as
it was when it started. -/
def next (opened : List (Description × Nat)) : SuiteCall → Option (List (Description × Nat))
  | started d count => some ((d, count) :: opened)
  | finished d count _ =>
    match opened with
    | [] => none
    | innermost :: outer => if innermost = (d, count) then some outer else none

/-- The open suites after some calls, unless a call closes another suite than the innermost one. -/
def unclosed (opened : List (Description × Nat)) (calls : List SuiteCall) :
    Option (List (Description × Nat)) :=
  calls.foldlM next opened

/-- The same call, whatever time was measured. -/
def untimed : SuiteCall → SuiteCall
  | started d count => started d count
  | finished d count _ => finished d count 0

theorem unclosed_map_untimed (opened : List (Description × Nat)) (calls : List SuiteCall) :
    unclosed opened (calls.map untimed) = unclosed opened calls := by
  rw [unclosed, List.foldlM_map, unclosed]
  congr 1
  funext opened c
  cases c <;> rfl

end SuiteCall

namespace Runner
variable {β ι : Type}

/-! ## Steps -/

/-- One thing that a run goes through: a call, or a leaf inside wrappers around runners with the
descriptions `above`, the innermost first. -/
inductive Step (β : Type) where
  | call (c : SuiteCall)
  | leaf (above : List Description) (r : Runner β)

namespace Step

def calls (steps : List (Step β)) : List SuiteCall :=
  steps.filterMap fun
    | call c => some c
    | leaf .. => none

def leaves (steps : List (Step β)) : List (Runner β) :=
  steps.filterMap fun
    | call _ => none
    | leaf _ r => some r

/-- A runner that started is known by its description and by how many tests that stands for. -/
def counted (d : Description) : Description × Nat := (d, d.testCount)

def opening (d : Description) : Step β := call (.started d d.testCount)

def closing (d : Description) : Step β := call (.finished d d.testCount 0)

/-- The open suites after a step. A leaf is in its place if the open suites are those above it. -/
def next (opened : List (Description × Nat)) : Step β → Option (List (Description × Nat))
  | call c => c.next opened
  | leaf above _ => if opened = above.map counted then some opened else none

@[simp] theorem next_opening (opened : List (Description × Nat)) (d : Description) :
    next opened (opening d : Step β) = some (counted d :: opened) := rfl

@[simp] theorem next_closing (opened : List (Description × Nat)) (d : Description) :
    next (counted d :: opened) (closing d : Step β) = some opened := by
  simp [next, closing, SuiteCall.next, counted]

@[simp] theorem calls_append (a b : List (Step β)) : calls (a ++ b) = calls a ++ calls b :=
  List.filterMap_append

@[simp] theorem leaves_append (a b : List (Step β)) : leaves (a ++ b) = leaves a ++ leaves b :=
  List.filterMap_append

/-- Steps in their place make calls in their place. -/
theorem unclosed_calls {opened opened' : List (Description × Nat)} {steps : List (Step β)}
    (h : steps.foldlM next opened = some opened') :
    SuiteCall.unclosed opened (calls steps) = some opened' := by
  induction steps generalizing opened with
  | nil => exact h
  | cons s steps ih =>
    rw [List.foldlM_cons] at h
    obtain ⟨middle, hs, hrest⟩ := Option.bind_eq_some_iff.1 h
    cases s with
    | call c =>
      change SuiteCall.unclosed opened (c :: calls steps) = some opened'
      rw [SuiteCall.unclosed, List.foldlM_cons]
      exact Option.bind_eq_some_iff.2 ⟨middle, hs, ih hrest⟩
    | leaf above r =>
      have hm : opened = middle := by grind [next]
      exact hm ▸ ih hrest

/-- The suites that are open before a leaf in its place are those above it. -/
theorem next_before_leaf {opened opened' : List (Description × Nat)} {before after : List (Step β)}
    {above : List Description} {r : Runner β}
    (h : (before ++ leaf above r :: after).foldlM next opened = some opened') :
    before.foldlM next opened = some (above.map counted) := by
  rw [List.foldlM_append] at h
  obtain ⟨middle, hb, h⟩ := Option.bind_eq_some_iff.1 h
  rw [List.foldlM_cons] at h
  obtain ⟨_, hl, -⟩ := Option.bind_eq_some_iff.1 h
  have hm : middle = above.map counted := by grind [next]
  rw [hb, hm]

end Step

variable [RunnerKind β]

mutual

/-- What a run of a tree goes through inside the wrappers `above`, unless a leaf fails. -/
def steps (above : List Description) : Runner β → List (Step β)
  | ofClass c => [.leaf above (ofClass c)]
  | suite _ children => stepsAll above children
  | logged inner =>
    .opening (describe inner) :: (steps (describe inner :: above) inner ++
      [.closing (describe inner)])
  | other b => [.leaf above (other b)]

def stepsAll (above : List Description) : List (Runner β) → List (Step β)
  | [] => []
  | r :: rs => steps above r ++ stepsAll above rs

end

theorem stepsAll_eq_flatMap (above : List Description) (rs : List (Runner β)) :
    stepsAll above rs = rs.flatMap (steps above) := by
  induction rs with
  | nil => rfl
  | cons r rs ih => rw [stepsAll, ih, List.flatMap_cons]

theorem leaves_steps (above : List Description) (r : Runner β) :
    Step.leaves (steps above r) = r.leaves := by
  induction r generalizing above with
  | ofClass c => rfl
  | suite name children ih =>
    rw [steps, leaves, stepsAll_eq_flatMap, leavesAll_eq_flatMap, Step.leaves, List.filterMap_flatMap]
    exact List.flatMap_congr fun r hr => ih r hr above
  | logged inner ih =>
    rw [steps, leaves, ← ih (describe inner :: above)]
    simp [Step.leaves, Step.opening, Step.closing]
  | other b => rfl

theorem next_stepsAll {above : List Description} {rs : List (Runner β)}
    (h : ∀ r ∈ rs, (steps above r).foldlM Step.next (above.map Step.counted) =
      some (above.map Step.counted)) :
    (stepsAll above rs).foldlM Step.next (above.map Step.counted) =
      some (above.map Step.counted) := by
  induction rs with
  | nil => rfl
  | cons r rs ih =>
    rw [stepsAll, List.foldlM_append, h r List.mem_cons_self]
    exact ih fun r hr => h r (List.mem_cons_of_mem _ hr)

/-- Every step of a tree is in its place, and a tree closes what it opens. -/
theorem next_steps (above : List Description) (r : Runner β) :
    (steps above r).foldlM Step.next (above.map Step.counted) = some (above.map Step.counted) := by
  induction r generalizing above with
  | ofClass c => simp [steps, Step.next]
  | suite name children ih =>
    rw [steps]
    exact next_stepsAll fun r hr => ih r hr above
  | logged inner ih =>
    have h := ih (describe inner :: above)
    rw [List.map_cons] at h
    simp [steps, List.foldlM_append, h]
  | other b => simp [steps, Step.next]

/-! ## Calls of a run that ends well -/

/-- Runners that end well make the calls of their steps, if each of them does. -/
theorem calls_runAll_of_ok {above : List Description} {rs : List (Runner β)}
    (h : ∀ r ∈ rs, ∀ n : Notifier ι, (run r n).2.outcome = .ok () →
      (Happening.calls (run r n).2.trace).map SuiteCall.untimed = Step.calls (steps above r))
    {n : Notifier ι} (ho : (runAll rs n).2.outcome = .ok ()) :
    (Happening.calls (runAll rs n).2.trace).map SuiteCall.untimed =
      Step.calls (stepsAll above rs) := by
  induction rs generalizing n with
  | nil => rfl
  | cons r rs ih =>
    rcases hr : (run r n).2.outcome with e | _
    · rw [runAll_cons_error hr] at ho
      exact absurd (hr.symm.trans ho) (by simp)
    · rw [runAll_cons_ok hr] at ho ⊢
      simp only [Effect.andThen_of_ok hr] at ho ⊢
      rw [Happening.calls_append, List.map_append, h r List.mem_cons_self n hr,
        ih (fun r hr => h r (List.mem_cons_of_mem _ hr)) ho, stepsAll, Step.calls_append]

theorem calls_run_of_ok {r : Runner β} {n : Notifier ι} (h : (run r n).2.outcome = .ok ())
    (above : List Description) :
    (Happening.calls (run r n).2.trace).map SuiteCall.untimed = Step.calls (steps above r) := by
  induction r generalizing n above with
  | ofClass c =>
    rw [calls_run_of_mem_leaves (r := ofClass c) (List.mem_singleton.2 rfl)]
    rfl
  | suite name children ih =>
    rw [run_suite] at h ⊢
    rw [steps]
    exact calls_runAll_of_ok (fun r hr n ho => ih r hr ho above) h
  | logged inner ih =>
    have ho : (run inner n).2.outcome = .ok () := h
    have hs := ih ho (describe inner :: above)
    rw [run_logged, steps]
    simp only
    rw [bracketed_of_ok _ ho, Happening.calls_suite, Happening.calls_append, List.map_cons,
      List.map_append, hs]
    simp [Happening.calls, SuiteCall.untimed, Step.calls, Step.opening, Step.closing]
  | other b =>
    rw [calls_run_of_mem_leaves (r := other b) (List.mem_singleton.2 rfl)]
    rfl

/-! ## Where a failed run stops -/

/-- An effect that comes from going through the steps `before` and then through a leaf that fails. -/
structure Cut (before : List (Step β)) (leaf : Runner β) (n : Notifier ι) (e : Effect ι) : Prop where
  passed : (runAll (Step.leaves before) n).2.outcome = .ok ()
  failed : (run leaf (runAll (Step.leaves before) n).2.notifier).2.outcome = e.outcome
  calls : (Happening.calls e.trace).map SuiteCall.untimed = Step.calls before
  last : (run leaf (runAll (Step.leaves before) n).2.notifier).2.trace <:+ e.trace

/-- An effect that comes from going through some steps up to a leaf that fails. -/
def StopsWithin (steps : List (Step β)) (n : Notifier ι) (e : Effect ι) : Prop :=
  ∃ before above leaf after, steps = before ++ .leaf above leaf :: after ∧ Cut before leaf n e

theorem stopsWithin_leaf {l : Runner β} (h : l ∈ l.leaves) (above : List Description)
    (n : Notifier ι) : StopsWithin [.leaf above l] n (run l n).2 := by
  refine ⟨[], above, l, [], rfl, rfl, rfl, ?_, List.suffix_rfl⟩
  rw [calls_run_of_mem_leaves h]
  rfl

/-- The steps after the leaf that fails do not matter. -/
theorem StopsWithin.append {steps : List (Step β)} {n : Notifier ι} {e : Effect ι}
    (h : StopsWithin steps n e) (more : List (Step β)) : StopsWithin (steps ++ more) n e := by
  obtain ⟨before, above, leaf, after, rfl, cut⟩ := h
  exact ⟨before, above, leaf, after ++ more, by simp, cut⟩

theorem StopsWithin.bracketed {steps : List (Step β)} {n : Notifier ι} {e : Effect ι} {err : Error}
    (he : e.outcome = .error err) (h : StopsWithin steps n e) (d : Description) :
    StopsWithin (.opening d :: (steps ++ [.closing d])) n { e with trace := bracketed d e } := by
  obtain ⟨before, above, leaf, after, rfl, cut⟩ := h
  rw [bracketed_of_error d he]
  refine ⟨.opening d :: before, above, leaf, after ++ [.closing d], by simp, cut.passed, cut.failed,
    ?_, cut.last.trans (List.suffix_cons _ _)⟩
  rw [Happening.calls_suite, List.map_cons, cut.calls]
  rfl

/-- A runner that ends well, and after it steps up to a leaf that fails. -/
theorem StopsWithin.after {r : Runner β} {n : Notifier ι} {above : List Description}
    {more : List (Step β)} {f : Notifier ι → Effect ι} (hr : (run r n).2.outcome = .ok ())
    (h : StopsWithin more (run r n).2.notifier (f (run r n).2.notifier)) :
    StopsWithin (steps above r ++ more) n ((run r n).2.andThen f) := by
  obtain ⟨before, above', leaf, after, rfl, cut⟩ := h
  have hrun : runAll (Step.leaves (steps above r ++ before)) n =
      ((runAll r.leaves n).1 ++ (runAll (Step.leaves before) (run r n).2.notifier).1,
        (runAll r.leaves n).2.andThen fun n => (runAll (Step.leaves before) n).2) := by
    rw [Step.leaves_append, leaves_steps, runAll_append_of_ok ((outcome_run r n).symm.trans hr),
      notifier_run]
  have hl : (runAll r.leaves n).2.outcome = .ok () := (outcome_run r n).symm.trans hr
  rw [Effect.andThen_of_ok hr]
  refine ⟨steps above r ++ before, above', leaf, after, by simp, ?_, ?_, ?_, ?_⟩
  · rw [hrun, Effect.andThen_of_ok hl, ← notifier_run]
    exact cut.passed
  · rw [hrun, Effect.andThen_of_ok hl, ← notifier_run]
    exact cut.failed
  · rw [Happening.calls_append, List.map_append, calls_run_of_ok hr above, cut.calls,
      Step.calls_append]
  · rw [hrun, Effect.andThen_of_ok hl, ← notifier_run]
    exact cut.last.trans (List.suffix_append _ _)

/-- If one of some runners fails, then at a leaf of its own; the runners before it ended well. -/
theorem stopsWithin_stepsAll {above : List Description} {rs : List (Runner β)} {err : Error}
    (h : ∀ r ∈ rs, ∀ n : Notifier ι, (run r n).2.outcome = .error err →
      StopsWithin (steps above r) n (run r n).2)
    {n : Notifier ι} (ho : (runAll rs n).2.outcome = .error err) :
    StopsWithin (stepsAll above rs) n (runAll rs n).2 := by
  induction rs generalizing n with
  | nil => exact absurd ho (by simp [runAll, Effect.idle])
  | cons r rs ih =>
    rcases hr : (run r n).2.outcome with e | _
    · rw [runAll_cons_error hr] at ho ⊢
      exact (h r List.mem_cons_self n ho).append _
    · rw [runAll_cons_ok hr] at ho ⊢
      simp only [Effect.andThen_of_ok hr] at ho
      have rest := ih (fun r hr => h r (List.mem_cons_of_mem _ hr)) ho
      exact rest.after (f := fun n => (runAll rs n).2) hr

theorem stopsWithin_steps {r : Runner β} {n : Notifier ι} {err : Error}
    (h : (run r n).2.outcome = .error err) (above : List Description) :
    StopsWithin (steps above r) n (run r n).2 := by
  induction r generalizing n above with
  | ofClass c => exact stopsWithin_leaf (List.mem_singleton.2 rfl) above n
  | suite name children ih =>
    rw [run_suite] at h ⊢
    rw [steps]
    exact stopsWithin_stepsAll (fun r hr n ho => ih r hr ho above) h
  | logged inner ih =>
    have ho : (run inner n).2.outcome = .error err := h
    exact (ih ho (describe inner :: above)).bracketed ho _
  | other b => exact stopsWithin_leaf (List.mem_singleton.2 rfl) above n

/-! ## Balance -/

/-- The calls of a run are balanced. If it ends well, they are all the calls of the tree, and none stays
open. If it fails, they are those before the failing leaf: the suites around that leaf stay open, its
run comes last, and the leaves after it are left as they are. -/
theorem calls_run_balanced (r : Runner β) (n : Notifier ι) :
    let e := (run r n).2
    let calls := Happening.calls e.trace
    match e.outcome with
    | .ok () =>
      calls.map SuiteCall.untimed = Step.calls (steps [] r) ∧ SuiteCall.unclosed [] calls = some []
    | .error err => ∃ before above leaf after,
      steps [] r = before ++ .leaf above leaf :: after ∧
      let past := runAll (Step.leaves before) n
      let last := run leaf past.2.notifier
      past.2.outcome = .ok () ∧ last.2.outcome = .error err ∧
        calls.map SuiteCall.untimed = Step.calls before ∧
        SuiteCall.unclosed [] calls = some (above.map Step.counted) ∧
        Happening.calls last.2.trace = [] ∧ last.2.trace <:+ e.trace ∧
        Happening.quiet e.trace = past.2.trace ++ last.2.trace ∧
        e.notifier = last.2.notifier ∧
        (run r n).1.leaves = past.1 ++ last.1 :: Step.leaves after := by
  have placed := next_steps [] r
  simp only
  rcases ho : (run r n).2.outcome with err | _
  · obtain ⟨before, above, leaf, after, hs, cut⟩ := stopsWithin_steps ho []
    have hl : r.leaves = Step.leaves before ++ leaf :: Step.leaves after := by
      rw [← leaves_steps [] r, hs, Step.leaves_append]
      rfl
    have hf : (run leaf (runAll (Step.leaves before) n).2.notifier).2.outcome = .error err :=
      cut.failed.trans ho
    have hmem : leaf ∈ r.leaves := by simp [hl]
    obtain ⟨he, hr⟩ := quiet_run r n
    have hn := notifier_run r n
    rw [hl, runAll_append_of_ok cut.passed, runAll_cons_error hf] at hr
    rw [hl, runAll_append_of_ok cut.passed, Effect.andThen_of_ok cut.passed,
      runAll_cons_error hf] at he hn
    refine ⟨before, above, leaf, after, hs, cut.passed, hf, cut.calls, ?_,
      calls_run_of_mem_leaves hmem _, cut.last, congrArg (Effect.trace ·) he, hn, hr⟩
    rw [hs] at placed
    rw [← SuiteCall.unclosed_map_untimed, cut.calls]
    exact Step.unclosed_calls (Step.next_before_leaf placed)
  · refine ⟨calls_run_of_ok ho [], ?_⟩
    rw [← SuiteCall.unclosed_map_untimed, calls_run_of_ok ho []]
    exact Step.unclosed_calls placed

end Runner
end Testbench
