import Mathlib.Data.List.Flatten
import Testbench.Proofs.Filter
import Testbench.Proofs.Runner.Leaves
import Testbench.Proofs.Runner.Sifting
import Testbench.Runner.Scripted
/-!
# Filters keep what they select

A pattern filter prunes a tree: classes lose the cases that are not accepted, other leaves stay whole if
one of their tests is accepted, and nothing that became empty stays. `Runner.select` is this pruning,
defined without the ways in which filtering fails.

Main statements: `filter_of_select`, by which filtering a tree whose other leaves cannot be filtered is
pruning it, and `filter_suite_keeps_selected` for the tests of a suite.
-/
namespace Testbench
open Runner

/-! ## Selected cases -/

namespace PatternFilter

theorem shouldRun_describeCase (f : PatternFilter) (c : TestClass) (t : TestCase) :
    f.toFilter.shouldRun (c.describeCase t) = f.acceptsName (c.describeCase t).displayName := rfl

end PatternFilter

namespace Runner
variable {β : Type} [RunnerKind β]

/-! ## Pruning -/

mutual

/-- What a filter leaves of a tree, if anything. -/
def select (f : PatternFilter) : Runner β → Option (Runner β)
  | ofClass c =>
    match c.cases.filter fun t => f.acceptsName (c.describeCase t).displayName with
    | [] => none
    | cases => some (ofClass { c with cases })
  | suite name children =>
    match selectAll f children with
    | [] => none
    | kept => some (suite name kept)
  | logged inner => (select f inner).map logged
  | other b => if f.toFilter.shouldRun (RunnerKind.describe b) then some (other b) else none

def selectAll (f : PatternFilter) : List (Runner β) → List (Runner β)
  | [] => []
  | r :: rs => (select f r).toList ++ selectAll f rs

end

theorem selectAll_eq_filterMap (f : PatternFilter) (rs : List (Runner β)) :
    selectAll f rs = rs.filterMap (select f) := by
  induction rs with
  | nil => rfl
  | cons r rs ih =>
    rw [selectAll, ih, List.filterMap_cons]
    cases select f r <;> rfl

theorem select_suite (f : PatternFilter) (name : String) (children : List (Runner β)) :
    select f (suite name children) =
      if children.filterMap (select f) = [] then none
      else some (suite name (children.filterMap (select f))) := by
  rw [select, selectAll_eq_filterMap]
  cases children.filterMap (select f) <;> rfl

theorem select_ofClass (f : PatternFilter) (c : TestClass) :
    select f (ofClass c : Runner β) =
      if keptCases f.toFilter c = [] then none
      else some (ofClass { c with cases := keptCases f.toFilter c }) := by
  rw [select]
  change (match keptCases f.toFilter c with
    | [] => none
    | cases => some (ofClass { c with cases })) = _
  cases keptCases f.toFilter c <;> rfl

theorem select_ofClass_eq_some {f : PatternFilter} {c : TestClass} {r : Runner β}
    (h : select f (ofClass c) = some r) :
    keptCases f.toFilter c ≠ [] ∧ r = ofClass { c with cases := keptCases f.toFilter c } := by
  rw [select_ofClass] at h
  split at h
  · cases h
  · exact ⟨‹_›, (Option.some.inj h).symm⟩

theorem select_suite_eq_some {f : PatternFilter} {name : String} {children : List (Runner β)}
    {r : Runner β} (h : select f (suite name children) = some r) :
    children.filterMap (select f) ≠ [] ∧ r = suite name (children.filterMap (select f)) := by
  rw [select_suite] at h
  split at h
  · cases h
  · exact ⟨‹_›, (Option.some.inj h).symm⟩

theorem select_logged_eq_some {f : PatternFilter} {inner r : Runner β}
    (h : select f (logged inner) = some r) : ∃ x, select f inner = some x ∧ r = logged x := by
  rw [select] at h
  obtain ⟨x, hx, rfl⟩ := Option.map_eq_some_iff.1 h
  exact ⟨x, hx, rfl⟩

theorem select_other_eq_some {f : PatternFilter} {b : β} {r : Runner β}
    (h : select f (other b) = some r) :
    f.toFilter.shouldRun (RunnerKind.describe b) ∧ r = other b := by
  rw [select] at h
  split at h
  · exact ⟨‹_›, (Option.some.inj h).symm⟩
  · cases h

theorem selects_describe_suite (f : PatternFilter) (name : String) (children : List (Runner β)) :
    f.Selects (describe (suite name children)) ↔ ∃ r ∈ children, f.Selects (describe r) := by
  simp only [PatternFilter.Selects, tests_suite, List.mem_flatMap]
  constructor
  · rintro ⟨t, ⟨r, hr, ht⟩, hf⟩
    exact ⟨r, hr, t, ht, hf⟩
  · rintro ⟨r, hr, t, ht, hf⟩
    exact ⟨t, ⟨r, hr, ht⟩, hf⟩

omit [RunnerKind β] in
theorem keptCases_eq_nil_iff (f : PatternFilter) (c : TestClass) :
    keptCases f.toFilter c = [] ↔ ¬ f.Selects c.describe := by
  simp [keptCases, PatternFilter.shouldRun_describeCase, PatternFilter.Selects, tests_ofClass]

/-- Nothing is left of a tree if and only if none of its tests is accepted. -/
theorem select_eq_none_iff (f : PatternFilter) (r : Runner β) :
    select f r = none ↔ ¬ f.Selects (describe r) := by
  induction r with
  | ofClass c =>
    rw [select_ofClass, describe, ← keptCases_eq_nil_iff]
    split <;> simp_all
  | suite name children ih =>
    rw [selects_describe_suite, select_suite]
    have hnil : children.filterMap (select f) = [] ↔
        ¬ ∃ r ∈ children, f.Selects (describe r) := by
      rw [List.filterMap_eq_nil_iff]
      push Not
      exact forall₂_congr ih
    split <;> simp_all
  | logged inner ih =>
    rw [select, Option.map_eq_none_iff]
    exact ih
  | other b =>
    rw [select, ← f.shouldRun_iff, describe]
    split <;> simp_all

theorem exists_select_iff (f : PatternFilter) (r : Runner β) :
    (∃ r', select f r = some r') ↔ f.Selects (describe r) := by
  rw [← Option.ne_none_iff_exists', ne_eq, select_eq_none_iff, not_not]

omit [RunnerKind β] in
theorem keptCases_keptCases (f : Filter) (c : TestClass) :
    keptCases f { c with cases := keptCases f c } = keptCases f c := by
  simp only [keptCases, List.filter_filter]
  exact List.filter_congr fun t _ => Bool.and_self _

/-- What a filter leaves of a tree has an accepted test. -/
theorem selects_of_select {f : PatternFilter} {r r' : Runner β} (h : select f r = some r') :
    f.Selects (describe r') := by
  induction r generalizing r' with
  | ofClass c =>
    obtain ⟨hne, rfl⟩ := select_ofClass_eq_some h
    rw [← keptCases_keptCases, ne_eq, keptCases_eq_nil_iff, not_not] at hne
    exact hne
  | suite name children ih =>
    obtain ⟨hne, rfl⟩ := select_suite_eq_some h
    obtain ⟨k, hk⟩ := List.exists_mem_of_ne_nil _ hne
    obtain ⟨r, hr, hs⟩ := List.mem_filterMap.1 hk
    exact (selects_describe_suite f name _).2 ⟨k, hk, ih r hr hs⟩
  | logged inner ih =>
    obtain ⟨x, hx, rfl⟩ := select_logged_eq_some h
    change f.Selects (describe x)
    exact ih hx
  | other b =>
    obtain ⟨hb, rfl⟩ := select_other_eq_some h
    exact (f.shouldRun_iff _).1 hb

/-- A filter acts on the leaves of a tree one by one. -/
theorem filterMap_leaves (f : PatternFilter) (r : Runner β) :
    r.leaves.filterMap (select f) = (select f r).toList.flatMap leaves := by
  induction r with
  | ofClass c => by_cases h : keptCases f.toFilter c = [] <;> simp [leaves, select_ofClass, h]
  | suite name children ih =>
    have hleaves : (select f (suite name children)).toList.flatMap leaves =
        (children.filterMap (select f)).flatMap leaves := by
      rw [select_suite]
      split <;> simp_all [leaves, leavesAll_eq_flatMap]
    rw [hleaves, leaves, leavesAll_eq_flatMap, List.filterMap_flatMap, List.flatMap_congr ih,
      ← List.flatMap_assoc]
    congr 1
    exact (List.filterMap_eq_flatMap_toList _ _).symm
  | logged inner ih =>
    rw [leaves, ih, select]
    cases select f inner <;> simp [leaves]
  | other b =>
    by_cases h : f.toFilter.shouldRun (RunnerKind.describe b) <;> simp [leaves, select, h]

/-! ## Filtering is pruning -/

/-- Only classes, suites and wrappers can be filtered in this tree. -/
def Rigid (r : Runner β) : Prop := ∀ b, other b ∈ r.leaves → RunnerKind.filter? b = none

theorem Rigid.of_mem {name : String} {children : List (Runner β)} (h : Rigid (suite name children))
    {r : Runner β} (hr : r ∈ children) : Rigid r := by
  intro b hb
  refine h b ?_
  rw [leaves, leavesAll_eq_flatMap]
  exact List.mem_flatMap_of_mem hr hb

/-- A child of which something is left stays as it was pruned, and no child ends the filtering. -/
theorem survivor?_eq_select {f : PatternFilter} {r : Runner β}
    (h : ∀ r', select f r = some r' →
      (filter f.toFilter r).outcome = .ok () ∧ (filter f.toFilter r).runner = r') :
    survivor? f.toFilter r = select f r ∧ ∀ e, ¬ Aborts f.toFilter r e := by
  rw [survivor?]
  by_cases hr : f.toFilter.shouldRun (describe r)
  · obtain ⟨r', hr'⟩ := (exists_select_iff f r).2 ((f.shouldRun_iff _).1 hr)
    obtain ⟨ho, hrunner⟩ := h r' hr'
    refine ⟨by simp [hr, ho, hrunner, hr', Except.isOk, Except.toBool], fun e he => ?_⟩
    cases ho.symm.trans he.2.1
  · have hnone : select f r = none :=
      (select_eq_none_iff f r).2 fun hs => hr ((f.shouldRun_iff _).2 hs)
    exact ⟨by simp [hr, hnone], fun e he => hr he.1⟩

/-- Children are filtered one by one, and none of them ends the filtering. -/
theorem filter_suite_eq {f : PatternFilter} (name : String) {children : List (Runner β)}
    (h : ∀ r ∈ children, ∀ r', select f r = some r' →
      (filter f.toFilter r).outcome = .ok () ∧ (filter f.toFilter r).runner = r') :
    filter f.toFilter (suite name children) =
      ⟨remains f.toFilter (children.filterMap (select f)),
        suite name (children.filterMap (select f)),
        children.flatMap (asking f.toFilter) ++
          [sifting name (children.filterMap (select f)).length f.toFilter]⟩ := by
  rw [filter_suite_of_not_aborts name fun r hr => (survivor?_eq_select (h r hr)).2,
    List.filterMap_congr fun r hr => (survivor?_eq_select (h r hr)).1]

theorem filter_of_select {f : PatternFilter} {r r' : Runner β} (hr : Rigid r)
    (h : select f r = some r') :
    (filter f.toFilter r).outcome = .ok () ∧ (filter f.toFilter r).runner = r' := by
  induction r generalizing r' with
  | ofClass c =>
    obtain ⟨hne, rfl⟩ := select_ofClass_eq_some h
    simp [filter, remains, hne]
  | suite name children ih =>
    have hs := filter_suite_eq (f := f) name fun r hm r' hr' => ih r hm (hr.of_mem hm) hr'
    obtain ⟨hne, rfl⟩ := select_suite_eq_some h
    simp [hs, remains, hne]
  | logged inner ih =>
    obtain ⟨x, hx, rfl⟩ := select_logged_eq_some h
    obtain ⟨ho, hrunner⟩ := ih hr hx
    rw [filter]
    exact ⟨ho, congrArg logged hrunner⟩
  | other b =>
    obtain ⟨-, rfl⟩ := select_other_eq_some h
    simp [filter, hr b (List.mem_singleton.2 rfl)]

theorem filter_suite (f : PatternFilter) {name : String} {children : List (Runner β)}
    (hr : Rigid (suite name children)) :
    (filter f.toFilter (suite name children)).outcome =
        remains f.toFilter (children.filterMap (select f)) ∧
      (filter f.toFilter (suite name children)).runner =
        suite name (children.filterMap (select f)) := by
  rw [filter_suite_eq name fun _ hm _ h => filter_of_select (hr.of_mem hm) h]
  exact ⟨rfl, rfl⟩

/-! ## What stays -/

mutual

/-- Every runner inside a tree. -/
def inside : Runner β → List (Runner β)
  | ofClass _ => []
  | suite _ children => insideAll children
  | logged inner => inner :: inside inner
  | other _ => []

def insideAll : List (Runner β) → List (Runner β)
  | [] => []
  | r :: rs => r :: (inside r ++ insideAll rs)

end

omit [RunnerKind β] in
theorem insideAll_eq_flatMap (rs : List (Runner β)) :
    insideAll rs = rs.flatMap fun r => r :: inside r := by
  induction rs with
  | nil => rfl
  | cons r rs ih => rw [insideAll, ih, List.flatMap_cons, List.cons_append]

omit [RunnerKind β] in
theorem mem_inside_suite {name : String} {children : List (Runner β)} {d : Runner β} :
    d ∈ inside (suite name children) ↔ ∃ r ∈ children, d = r ∨ d ∈ inside r := by
  rw [inside, insideAll_eq_flatMap, List.mem_flatMap]
  simp only [List.mem_cons]

theorem Rigid.of_mem_inside {r d : Runner β} (h : Rigid r) (hd : d ∈ inside r) : Rigid d := by
  induction r with
  | ofClass c => cases hd
  | suite name children ih =>
    obtain ⟨r, hr, rfl | hd⟩ := mem_inside_suite.1 hd
    · exact h.of_mem hr
    · exact ih r hr (h.of_mem hr) hd
  | logged inner ih =>
    rcases List.mem_cons.1 hd with rfl | hd
    · exact h
    · exact ih h hd
  | other b => cases hd

/-- Every runner inside what a filter leaves has an accepted test. -/
theorem selects_inside {f : PatternFilter} {r r' : Runner β} (h : select f r = some r') :
    ∀ d ∈ inside r', f.Selects (describe d) := by
  induction r generalizing r' with
  | ofClass c =>
    obtain ⟨-, rfl⟩ := select_ofClass_eq_some h
    exact fun d hd => absurd hd List.not_mem_nil
  | suite name children ih =>
    obtain ⟨-, rfl⟩ := select_suite_eq_some h
    intro d hd
    obtain ⟨k, hk, hd⟩ := mem_inside_suite.1 hd
    obtain ⟨r, hr, hs⟩ := List.mem_filterMap.1 hk
    rcases hd with rfl | hd
    · exact selects_of_select hs
    · exact ih r hr hs d hd
  | logged inner ih =>
    obtain ⟨x, hx, rfl⟩ := select_logged_eq_some h
    intro d hd
    rcases List.mem_cons.1 hd with rfl | hd
    · exact selects_of_select hx
    · exact ih hx d hd
  | other b =>
    obtain ⟨-, rfl⟩ := select_other_eq_some h
    exact fun d hd => absurd hd List.not_mem_nil

/-- The tests that stay of a leaf: those that are accepted of a class, all or none of another one. -/
def keptTests (f : PatternFilter) : Runner β → List Description
  | other b =>
    let tests := (RunnerKind.describe b).tests
    if tests.any fun t => f.acceptsName t.displayName then tests else []
  | r => (describe r).tests.filter fun t => f.acceptsName t.displayName

theorem tests_select_ofClass (f : PatternFilter) (c : TestClass) :
    (select f (ofClass c : Runner β)).toList.flatMap (fun r => (describe r).tests) =
      keptTests f (ofClass c : Runner β) := by
  have hkept : keptTests f (ofClass c : Runner β) =
      (keptCases f.toFilter c).map c.describeCase := by
    rw [keptTests, describe, tests_ofClass, List.filter_map]
    · rfl
    · intro _ h
      cases h
  rw [hkept, select_ofClass]
  by_cases h : keptCases f.toFilter c = []
  · simp [h]
  · simp only [h, if_false, Option.toList_some, List.flatMap_singleton, describe, tests_ofClass]
    rfl

theorem tests_select_other (f : PatternFilter) (b : β) :
    (select f (other b)).toList.flatMap (fun r => (describe r).tests) = keptTests f (other b) := by
  have hany : f.toFilter.shouldRun (RunnerKind.describe b) =
      (RunnerKind.describe b).tests.any fun t => f.acceptsName t.displayName :=
    Description.anyTest_eq _ _
  rw [select, keptTests, hany]
  split <;> simp [describe]

theorem tests_of_select {f : PatternFilter} {r r' : Runner β} (h : select f r = some r') :
    (describe r').tests = r.leaves.flatMap (keptTests f) := by
  have hleaves : r'.leaves = r.leaves.filterMap (select f) := by
    rw [filterMap_leaves, h]
    simp
  rw [tests_describe, hleaves, List.filterMap_eq_flatMap_toList, List.flatMap_assoc]
  refine List.flatMap_congr fun l hl => ?_
  rcases exists_of_mem_leaves hl with ⟨c, rfl⟩ | ⟨b, rfl⟩
  · exact tests_select_ofClass f c
  · exact tests_select_other f b

theorem keptTests_sublist (f : PatternFilter) (l : Runner β) :
    (keptTests f l).Sublist (describe l).tests := by
  cases l with
  | other b =>
    rw [keptTests, describe]
    split
    · exact List.Sublist.refl _
    · exact List.nil_sublist _
  | ofClass | suite | logged => exact List.filter_sublist

/-- A child that is not rejected outright has something left. -/
theorem filter_of_shouldRun {f : PatternFilter} {d : Runner β} (hd : Rigid d)
    (h : f.toFilter.shouldRun (describe d)) : (filter f.toFilter d).outcome = .ok () := by
  obtain ⟨d', hd'⟩ := (exists_select_iff f d).2 ((f.shouldRun_iff _).1 h)
  exact (filter_of_select hd hd').1

/-- Filtering a suite keeps exactly the selected tests, if there are any, and nothing without one. -/
theorem filter_suite_keeps_selected {spec : String} {f : PatternFilter}
    (hf : PatternFilter.parse spec = .ok f) {name : String} {children : List (Runner β)}
    (hr : Rigid (suite name children)) :
    let old := suite name children
    let new := filter f.toFilter old
    (new.outcome = .ok () ↔ ∃ t ∈ (describe old).tests, f.acceptsName t.displayName) ∧
      (new.outcome ≠ .ok () →
        new.outcome = .error (.noTestsRemain ("gtest-filter: " ++ spec)) ∧
        new.runner = suite name []) ∧
      (describe old).tests = old.leaves.flatMap (fun l => (describe l).tests) ∧
      (new.outcome = .ok () →
        (describe new.runner).tests = old.leaves.flatMap (keptTests f) ∧
        (describe new.runner).tests.Sublist (describe old).tests ∧
        ∀ d ∈ new.runner.inside, f.Selects (describe d)) ∧
      ∀ d ∈ old.inside,
        f.toFilter.shouldRun (describe d) → (filter f.toFilter d).outcome = .ok () := by
  intro old new
  obtain ⟨ho, hrunner⟩ : new.outcome = remains f.toFilter (children.filterMap (select f)) ∧
      new.runner = suite name (children.filterMap (select f)) := filter_suite f hr
  have hinside : ∀ d ∈ old.inside,
      f.toFilter.shouldRun (describe d) → (filter f.toFilter d).outcome = .ok () :=
    fun d hd => filter_of_shouldRun (hr.of_mem_inside hd)
  by_cases hnil : children.filterMap (select f) = []
  · -- Nothing is selected, so nothing stays.
    have hnone : select f old = none := by rw [select_suite, if_pos hnil]
    have herror : new.outcome = .error (.noTestsRemain ("gtest-filter: " ++ spec)) := by
      rw [ho, hnil, remains, PatternFilter.toFilter, PatternFilter.spec_of_parse hf]
      rfl
    have hne : new.outcome ≠ .ok () := fun hok => remains_eq_ok_iff.1 (ho.symm.trans hok) hnil
    refine ⟨?_, fun _ => ⟨herror, hnil ▸ hrunner⟩, tests_describe old, fun h => absurd h hne,
      hinside⟩
    exact iff_of_false hne ((select_eq_none_iff f old).1 hnone)
  · have hsome : select f old = some new.runner := by rw [select_suite, if_neg hnil, hrunner]
    have hok : new.outcome = .ok () := ho.trans (remains_eq_ok_iff.2 hnil)
    have hselects : f.Selects (describe old) := (exists_select_iff f old).1 ⟨_, hsome⟩
    have htests := tests_of_select hsome
    refine ⟨iff_of_true hok hselects, fun h => absurd hok h, tests_describe old,
      fun _ => ⟨htests, ?_, selects_inside hsome⟩, hinside⟩
    rw [htests, tests_describe old]
    exact List.Sublist.flatMap_right _ fun l _ => keptTests_sublist f l

open Wildcard in
/-- A class loses a case, another class goes, and a runner that cannot be filtered stays whole. -/
theorem filter_suite_keeps_whole_leaf :
    let f : PatternFilter := ⟨"A*:*.b-*.c", [[.only 'A', .run], [.run, .only '.', .only 'b']],
      [[.run, .only '.', .only 'c']]⟩
    let case (name : String) : TestCase := ⟨name, ⟨.passed, 0⟩, false⟩
    let whole := Scripted.bare (.suite "whole" [.test "A" "a" [], .test "A" "c" []])
    let r := suite "all" [suite "inner" [logged (ofClass ⟨"B", [case "b", case "c"]⟩)],
      ofClass ⟨"D", [case "d"]⟩, other whole]
    PatternFilter.parse "A*:*.b-*.c" = .ok f ∧ Rigid r ∧
      (filter f.toFilter r).outcome = .ok () ∧
      (describe (filter f.toFilter r).runner).tests =
        [.test "B" "b" [], .test "A" "a" [], .test "A" "c" []] := by
  intro f case whole r
  have hf : PatternFilter.parse "A*:*.b-*.c" = .ok f := rfl
  have hr : Rigid r := by
    intro b hb
    obtain rfl : b = whole := by simpa [r, leaves, leavesAll] using hb
    rfl
  obtain ⟨hok, -, -, hkept, -⟩ := filter_suite_keeps_selected hf hr
  have ho : (filter f.toFilter r).outcome = .ok () :=
    hok.2 ⟨.test "A" "a" [], by decide +kernel, by decide +kernel⟩
  exact ⟨hf, hr, ho, (hkept ho).1.trans (by decide +kernel)⟩

end Runner
end Testbench
