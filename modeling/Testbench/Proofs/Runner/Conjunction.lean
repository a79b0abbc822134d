import Testbench.Proofs.Runner.Selection
/-!
# Successive filters

Of two filters applied one after the other, the second decides on the tree that the first has pruned.
Still, their order does not matter: what stays of a class are the cases that both accept, and what stays
of another leaf is all of it, if each of them accepts one of its tests.

Main definition: `Filtered.andThen`. Main statements: `select_bind_comm` and `select_of_select` for
pruning, and `filters_commute` for the filtering of suites.
-/
namespace Testbench.Runner
variable {β : Type}

/-- One filtering and, if it ends well, another of what it leaves. -/
def Filtered.andThen (x : Filtered β) (next : Runner β → Filtered β) : Filtered β :=
  match x.outcome with
  | .ok () =>
    let y := next x.runner
    ⟨y.outcome, y.runner, x.log ++ y.log⟩
  | .error _ => x

variable [RunnerKind β]

/-- What two filters leave of a leaf: the cases of a class that both accept, and any other leaf whole if
each of them accepts one of its tests. -/
def keptByBoth (f g : PatternFilter) : Runner β → Option (Runner β)
  | ofClass c =>
    let cases := c.cases.filter fun t =>
      f.acceptsName (c.describeCase t).displayName && g.acceptsName (c.describeCase t).displayName
    if cases.isEmpty then none else some (ofClass { c with cases })
  | other b =>
    let tests := (RunnerKind.describe b).tests
    let accepts (f : PatternFilter) := tests.any fun t => f.acceptsName t.displayName
    if accepts f && accepts g then some (other b) else none
  | suite _ _ | logged _ => none

/-! ## Pruning twice -/

omit [RunnerKind β] in
theorem keptCases_comm (f g : Filter) (c : TestClass) :
    keptCases g { c with cases := keptCases f c } =
      keptCases f { c with cases := keptCases g c } := by
  simp only [keptCases, List.filter_filter]
  exact List.filter_congr fun t _ => Bool.and_comm _ _

theorem select_bind_ofClass (f g : PatternFilter) (c : TestClass) :
    (select f (ofClass c : Runner β)).bind (select g) =
      let cases := keptCases g.toFilter { c with cases := keptCases f.toFilter c }
      if cases = [] then none else some (ofClass { c with cases }) := by
  rw [select_ofClass]
  by_cases h : keptCases f.toFilter c = []
  · have hg : keptCases g.toFilter { c with cases := [] } = [] := rfl
    simp [h, hg]
  · simp [h, select_ofClass]

theorem select_bind_suite (f g : PatternFilter) (name : String) (children : List (Runner β)) :
    (select f (suite name children)).bind (select g) =
      let kept := children.filterMap fun r => (select f r).bind (select g)
      if kept = [] then none else some (suite name kept) := by
  have twice : children.filterMap (fun r => (select f r).bind (select g)) =
      (children.filterMap (select f)).filterMap (select g) := List.filterMap_filterMap.symm
  rw [select_suite, twice]
  by_cases h : children.filterMap (select f) = []
  · simp [h]
  · simp [h, select_suite]

/-- Pruning by one filter and then by another is pruning in the other order. -/
theorem select_bind_comm (f g : PatternFilter) (r : Runner β) :
    (select f r).bind (select g) = (select g r).bind (select f) := by
  induction r with
  | ofClass c => simp only [select_bind_ofClass, keptCases_comm f.toFilter g.toFilter]
  | suite name children ih =>
    rw [select_bind_suite, select_bind_suite, List.filterMap_congr ih]
  | logged inner ih =>
    have wrapped (f g : PatternFilter) : (select f (logged inner)).bind (select g) =
        ((select f inner).bind (select g)).map logged := by
      rw [select]
      cases select f inner <;> simp [select]
    rw [wrapped, wrapped, ih]
  | other b =>
    simp only [select]
    split <;> split <;> simp_all [select]

/-- What a filter leaves stays as it is under that filter. -/
theorem select_of_select {f : PatternFilter} {r r' : Runner β} (h : select f r = some r') :
    select f r' = some r' := by
  induction r generalizing r' with
  | ofClass c =>
    obtain ⟨hne, rfl⟩ := select_ofClass_eq_some h
    simp [select_ofClass, keptCases_keptCases, hne]
  | suite name children ih =>
    obtain ⟨hne, rfl⟩ := select_suite_eq_some h
    have same : (children.filterMap (select f)).filterMap (select f) =
        children.filterMap (select f) := by
      rw [List.filterMap_filterMap]
      refine List.filterMap_congr fun r hr => ?_
      cases hs : select f r with
      | none => rfl
      | some r' => exact ih r hr hs
    rw [select_suite, same, if_neg hne]
  | logged inner ih =>
    obtain ⟨x, hx, rfl⟩ := select_logged_eq_some h
    simp [select, ih hx]
  | other b =>
    obtain ⟨-, rfl⟩ := select_other_eq_some h
    exact h

/-! ## The leaves that stay -/

theorem leaves_of_select {f : PatternFilter} {r r' : Runner β} (h : select f r = some r') :
    r'.leaves = r.leaves.filterMap (select f) := by
  simp [filterMap_leaves, h]

/-- Two filters leave of each leaf what both let stay. -/
theorem select_bind_leaf (f g : PatternFilter) {r l : Runner β} (h : l ∈ r.leaves) :
    (select f l).bind (select g) = keptByBoth f g l := by
  rcases exists_of_mem_leaves h with ⟨c, rfl⟩ | ⟨b, rfl⟩
  · have both : keptCases g.toFilter { c with cases := keptCases f.toFilter c } =
        c.cases.filter fun t => f.acceptsName (c.describeCase t).displayName &&
          g.acceptsName (c.describeCase t).displayName := by
      simp only [keptCases, List.filter_filter]
      exact List.filter_congr fun t _ => Bool.and_comm _ _
    simp only [select_bind_ofClass, keptByBoth, both, List.isEmpty_iff]
  · have accepts (f : PatternFilter) : f.toFilter.shouldRun (RunnerKind.describe b) =
        (RunnerKind.describe b).tests.any fun t => f.acceptsName t.displayName :=
      Description.anyTest_eq _ _
    simp only [select, keptByBoth, accepts]
    split <;> simp_all [select]

theorem Rigid.select {f : PatternFilter} {r r' : Runner β} (hr : Rigid r)
    (h : Runner.select f r = some r') : Rigid r' := by
  intro b hb
  rw [leaves_of_select h] at hb
  obtain ⟨l, hl, hs⟩ := List.mem_filterMap.1 hb
  -- A class stays a class, so this leaf was there before.
  rcases exists_of_mem_leaves hl with ⟨c, rfl⟩ | ⟨b', rfl⟩
  · cases (select_ofClass_eq_some hs).2
  · cases (select_other_eq_some hs).2
    exact hr b hl

/-! ## Filtering twice -/

/-- Filtering a suite ends well with what pruning leaves of it, and fails if that is nothing. -/
theorem filter_suite_eq_ok_iff (f : PatternFilter) {name : String} {children : List (Runner β)}
    (hr : Rigid (suite name children)) (r : Runner β) :
    (filter f.toFilter (suite name children)).outcome = .ok () ∧
        (filter f.toFilter (suite name children)).runner = r ↔
      select f (suite name children) = some r := by
  obtain ⟨ho, hrunner⟩ := filter_suite f hr
  rw [ho, hrunner, select_suite, remains]
  by_cases h : children.filterMap (select f) = [] <;> simp [h]

theorem andThen_filter_eq_ok_iff (f g : PatternFilter) {name : String} {children : List (Runner β)}
    (hr : Rigid (suite name children)) (r : Runner β) :
    let x := (filter f.toFilter (suite name children)).andThen (filter g.toFilter)
    x.outcome = .ok () ∧ x.runner = r ↔
      (select f (suite name children)).bind (select g) = some r := by
  intro x
  cases hs : select f (suite name children) with
  | none =>
    have failed : ∀ u, (filter f.toFilter (suite name children)).outcome ≠ .ok u := by
      intro u ho
      have := (filter_suite_eq_ok_iff f hr _).1 ⟨ho, rfl⟩
      simp [hs] at this
    have hx : x.outcome ≠ .ok () := by
      simp only [x, Filtered.andThen]
      split
      · exact absurd ‹_› (failed ())
      · exact failed ()
    simp [hx]
  | some r' =>
    obtain ⟨ho, hrunner⟩ := (filter_suite_eq_ok_iff f hr r').2 hs
    -- What the first filter leaves is again a suite.
    obtain ⟨-, rfl⟩ := select_suite_eq_some hs
    have hx : x.outcome = (filter g.toFilter (suite name (children.filterMap (select f)))).outcome ∧
        x.runner = (filter g.toFilter (suite name (children.filterMap (select f)))).runner := by
      simp [x, Filtered.andThen, ho, hrunner]
    rw [hx.1, hx.2]
    exact filter_suite_eq_ok_iff g (hr.select hs) r

/-- Two filters in either order succeed alike and leave the same tree: of each class the cases that both
accept, of each other leaf all or nothing. A filter that succeeded succeeds again and changes nothing. -/
theorem filters_commute (f g : PatternFilter) {name : String} {children : List (Runner β)}
    (hr : Rigid (suite name children)) :
    let old := suite name children
    let there := (filter f.toFilter old).andThen (filter g.toFilter)
    let back := (filter g.toFilter old).andThen (filter f.toFilter)
    let once := filter f.toFilter old
    (there.outcome = .ok () ↔ back.outcome = .ok ()) ∧
      (there.outcome = .ok () →
        there.runner = back.runner ∧ describe there.runner = describe back.runner ∧
        there.runner.leaves = old.leaves.filterMap (keptByBoth f g)) ∧
      (once.outcome = .ok () →
        (filter f.toFilter once.runner).outcome = .ok () ∧
        (filter f.toFilter once.runner).runner = once.runner) := by
  intro old there back once
  have hthere (r : Runner β) : there.outcome = .ok () ∧ there.runner = r ↔
      (select f old).bind (select g) = some r := andThen_filter_eq_ok_iff f g hr r
  have hback (r : Runner β) : back.outcome = .ok () ∧ back.runner = r ↔
      (select g old).bind (select f) = some r := andThen_filter_eq_ok_iff g f hr r
  have same (r : Runner β) : there.outcome = .ok () ∧ there.runner = r ↔
      back.outcome = .ok () ∧ back.runner = r := by
    rw [hthere, hback, select_bind_comm]
  refine ⟨⟨fun h => ((same _).1 ⟨h, rfl⟩).1, fun h => ((same _).2 ⟨h, rfl⟩).1⟩, ?_, ?_⟩
  · intro h
    have runners : there.runner = back.runner := ((same _).1 ⟨h, rfl⟩).2.symm
    refine ⟨runners, congrArg describe runners, ?_⟩
    obtain ⟨r, hf, hg⟩ := Option.bind_eq_some_iff.1 ((hthere _).1 ⟨h, rfl⟩)
    rw [leaves_of_select hg, leaves_of_select hf, List.filterMap_filterMap]
    exact List.filterMap_congr fun l hl => select_bind_leaf f g hl
  · intro h
    have hs : select f old = some once.runner := (filter_suite_eq_ok_iff f hr _).1 ⟨h, rfl⟩
    exact filter_of_select (hr.select hs) (select_of_select hs)

open Wildcard in
/-- The first filter empties a class that the second would keep, the second takes a case of another one,
and a runner that cannot be filtered is kept by each of them for a test of its own. -/
theorem filters_commute_whole_leaf :
    let f : PatternFilter := ⟨"A*", [[.only 'A', .run]], []⟩
    let g : PatternFilter := ⟨"*.b", [[.run, .only '.', .only 'b']], []⟩
    let case (name : String) : TestCase := ⟨name, ⟨.passed, 0⟩, false⟩
    let whole := Scripted.bare (.suite "whole" [.test "A" "a" [], .test "B" "b" []])
    let old := suite "all" [suite "inner" [logged (ofClass ⟨"A", [case "a", case "b"]⟩)],
      ofClass ⟨"B", [case "b"]⟩, other whole]
    let both := (filter f.toFilter old).andThen (filter g.toFilter)
    Rigid old ∧ both.outcome = .ok () ∧ (filter f.toFilter old).outcome = .ok () ∧
      (describe both.runner).tests =
        [.test "A" "b" [], .test "A" "a" [], .test "B" "b" []] ∧
      describe both.runner =
        describe ((filter g.toFilter old).andThen (filter f.toFilter)).runner := by
  intro f g case whole old both
  have hr : Rigid old := by
    intro b hb
    obtain rfl : b = whole := by simpa [old, leaves, leavesAll] using hb
    rfl
  have ho : both.outcome = .ok () := by decide +kernel
  have hf : (filter f.toFilter old).outcome = .ok () := by decide +kernel
  obtain ⟨-, same, -⟩ := filters_commute f g hr
  exact ⟨hr, ho, hf, by decide +kernel, (same ho).2.1⟩

end Testbench.Runner
