import Testbench.Runner.Scripted
/-!
# Suites whose filtering is cut short

A suite filters its children in order. A child that is rejected outright is dropped unasked, one that has
nothing left is dropped, and one that fails for another reason ends the filtering: it stays in the state
in which it failed, and so do all children after it, which nobody asked.

Main definitions: `Aborts`, `survivor?`, `asking`. Main statements: `sift_append` for the children before
the first failure, and `filter_suite_loses_nothing`.
-/
namespace Testbench.Runner
variable {β : Type} [RunnerKind β]

/-- A child ends the filtering of its suite with an error: it is not rejected outright, and its own
filtering fails for another reason than that no tests remain. -/
def Aborts (f : Filter) (r : Runner β) (e : Error) : Prop :=
  f.shouldRun (describe r) ∧ (filter f r).outcome = .error e ∧ ∀ why, e ≠ .noTestsRemain why

/-- What becomes of a child that does not end the filtering: in its filtered state, it stays if it is not
rejected outright and its own filtering succeeds. -/
def survivor? (f : Filter) (r : Runner β) : Option (Runner β) :=
  if f.shouldRun (describe r) && (filter f r).outcome.isOk then some (filter f r).runner else none

/-- The events of filtering a child; a child that is rejected outright is not asked. -/
def asking (f : Filter) (r : Runner β) : List Log.Event :=
  if f.shouldRun (describe r) then (filter f r).log else []

/-! ## One child -/

theorem sift_cons_of_aborts {f : Filter} {r : Runner β} {e : Error} (h : Aborts f r e)
    (rs : List (Runner β)) :
    sift f (r :: rs) = ⟨(filter f r).runner :: rs, some e, (filter f r).log⟩ := by
  obtain ⟨hr, ho, he⟩ := h
  rw [sift, if_pos hr]
  cases e with
  | noTestsRemain why => exact absurd rfl (he why)
  | initialization | invalidFilter | stoppedByUser | execution | file | json => simp only [ho]

theorem sift_cons_of_not_aborts {f : Filter} {r : Runner β} (h : ∀ e, ¬ Aborts f r e)
    (rs : List (Runner β)) :
    sift f (r :: rs) = ⟨(survivor? f r).toList ++ (sift f rs).kept, (sift f rs).aborted,
      asking f r ++ (sift f rs).log⟩ := by
  rw [sift, survivor?, asking]
  by_cases hr : f.shouldRun (describe r)
  · rcases ho : (filter f r).outcome with e | _
    · -- Of all errors, the filtering goes on after one only.
      cases e with
      | noTestsRemain => simp [hr, ho, Except.isOk, Except.toBool]
      | initialization | invalidFilter | stoppedByUser | execution | file | json =>
        exact absurd ⟨hr, ho, by simp⟩ (h _)
    · simp [hr, ho, Except.isOk, Except.toBool]
  · simp [hr]

/-- A child that is rejected outright might as well not be there. -/
theorem sift_cons_of_rejected {f : Filter} {r : Runner β} (h : ¬ f.shouldRun (describe r))
    (rs : List (Runner β)) : sift f (r :: rs) = sift f rs := by
  rw [sift, if_neg h]

/-! ## All children -/

/-- Children that do not end the filtering are dropped or stay, each by itself. -/
theorem sift_append {f : Filter} {before : List (Runner β)}
    (h : ∀ r ∈ before, ∀ e, ¬ Aborts f r e) (rest : List (Runner β)) :
    sift f (before ++ rest) =
      ⟨before.filterMap (survivor? f) ++ (sift f rest).kept, (sift f rest).aborted,
        before.flatMap (asking f) ++ (sift f rest).log⟩ := by
  induction before with
  | nil => rfl
  | cons r before ih =>
    obtain ⟨hr, hbefore⟩ := List.forall_mem_cons.1 h
    rw [List.cons_append, sift_cons_of_not_aborts hr, ih hbefore, List.filterMap_cons]
    cases survivor? f r <;> simp

theorem filter_suite_of_aborts {f : Filter} (name : String) {before : List (Runner β)}
    (h : ∀ r ∈ before, ∀ e, ¬ Aborts f r e) {k : Runner β} {e : Error} (hk : Aborts f k e)
    (after : List (Runner β)) :
    filter f (suite name (before ++ k :: after)) =
      ⟨.error e, suite name (before.filterMap (survivor? f) ++ (filter f k).runner :: after),
        before.flatMap (asking f) ++ (filter f k).log⟩ := by
  rw [filter, sift_append h, sift_cons_of_aborts hk]

theorem filter_suite_of_not_aborts {f : Filter} (name : String) {children : List (Runner β)}
    (h : ∀ r ∈ children, ∀ e, ¬ Aborts f r e) :
    filter f (suite name children) =
      ⟨remains f (children.filterMap (survivor? f)),
        suite name (children.filterMap (survivor? f)),
        children.flatMap (asking f) ++
          [sifting name (children.filterMap (survivor? f)).length f]⟩ := by
  have sifted := sift_append h []
  simp only [List.append_nil, sift] at sifted
  rw [filter, sifted]

theorem filter_suite_of_rejected {f : Filter} (name : String) {before : List (Runner β)}
    (h : ∀ r ∈ before, ∀ e, ¬ Aborts f r e) {r : Runner β} (hr : ¬ f.shouldRun (describe r))
    (after : List (Runner β)) :
    filter f (suite name (before ++ r :: after)) = filter f (suite name (before ++ after)) := by
  rw [filter, filter, sift_append h, sift_append h, sift_cons_of_rejected hr]

theorem remains_eq_ok_iff {α : Type} {f : Filter} {remaining : List α} :
    remains f remaining = .ok () ↔ remaining ≠ [] := by
  cases remaining <;> simp [remains]

theorem remains_of_ne_ok {α : Type} {f : Filter} {remaining : List α}
    (h : remains f remaining ≠ .ok ()) : remains f remaining = .error (.noTestsRemain f.describe) := by
  cases remaining with
  | nil => rfl
  | cons => exact absurd rfl h

/-- Filtering a suite loses no child to an error. The first child that fails for another reason than that
no tests remain gives the suite its error; it stays as it failed, between the survivors before it and all
the children after it, which are left alone. If there is no such child, the survivors stay, and there has
to be one. A child that is rejected outright is not asked: it might as well not be there. -/
theorem filter_suite_loses_nothing (f : Filter) (name : String) (children : List (Runner β)) :
    let new := filter f (suite name children)
    (∀ before k after e, children = before ++ k :: after →
      (∀ r ∈ before, ∀ e, ¬ Aborts f r e) → Aborts f k e →
      new = ⟨.error e, suite name (before.filterMap (survivor? f) ++ (filter f k).runner :: after),
        before.flatMap (asking f) ++ (filter f k).log⟩) ∧
    ((∀ r ∈ children, ∀ e, ¬ Aborts f r e) →
      let kept := children.filterMap (survivor? f)
      new.runner = suite name kept ∧ (new.outcome = .ok () ↔ kept ≠ []) ∧
      (new.outcome ≠ .ok () → new.outcome = .error (.noTestsRemain f.describe)) ∧
      new.log = children.flatMap (asking f) ++ [sifting name kept.length f]) ∧
    (∀ before r after, children = before ++ r :: after →
      (∀ c ∈ before, ∀ e, ¬ Aborts f c e) → ¬ f.shouldRun (describe r) →
      new = filter f (suite name (before ++ after))) := by
  intro new
  refine ⟨?_, fun h => ?_, ?_⟩
  · rintro before k after e rfl h hk
    exact filter_suite_of_aborts name h hk after
  · have hnew : new = _ := filter_suite_of_not_aborts name h
    rw [hnew]
    exact ⟨rfl, remains_eq_ok_iff, remains_of_ne_ok, rfl⟩
  · rintro before r after rfl h hr
    exact filter_suite_of_rejected name h hr after

/-- A class loses a case, another one is rejected, a third child has nothing left, and a suite fails half
way: its last class keeps all of its cases, and so does the class after it. -/
theorem filter_suite_loses_nothing_nested :
    let f : Filter := PatternFilter.toFilter ⟨"*.a", [[.run, .only '.', .only 'a']], []⟩
    let ofCases (name : String) (cases : List String) : Runner Scripted :=
      ofClass ⟨name, cases.map fun m => ⟨m, ⟨.passed, 0⟩, false⟩⟩
    let failing (name : String) (e : Error) : Runner Scripted :=
      other ⟨.ofClass name [.test name "a" []], [], none, .fails e, false⟩
    let emptied := failing "E" (.noTestsRemain "its own")
    let picky := failing "P" (.invalidFilter "picky")
    let before := [ofCases "A" ["a", "b"], ofCases "R" ["x"], emptied]
    let inner := suite "inner" [ofCases "B" ["a", "b"], picky, ofCases "C" ["a", "b"]]
    let last := ofCases "D" ["a", "b"]
    let new := filter f (suite "all" (before ++ inner :: [last]))
    (∀ r ∈ before, ∀ e, ¬ Aborts f r e) ∧ Aborts f inner (.invalidFilter "picky") ∧
      new.outcome = .error (.invalidFilter "picky") ∧
      new.runner = suite "all" [ofCases "A" ["a"],
        suite "inner" [ofCases "B" ["a"], picky, ofCases "C" ["a", "b"]], last] := by
  intro f ofCases failing emptied picky before inner last new
  have continued : ∀ r ∈ before, ∀ e, ¬ Aborts f r e := by
    simp only [before, List.forall_mem_cons]
    refine ⟨?_, ?_, ?_, List.forall_mem_nil _⟩
    · rintro e ⟨-, ho, -⟩
      cases ho
    · rintro e ⟨hr, -, -⟩
      exact absurd hr (by decide +kernel)
    · rintro e ⟨-, ho, he⟩
      cases ho
      exact he _ rfl
  have cut : Aborts f inner (.invalidFilter "picky") := ⟨by decide +kernel, rfl, by simp⟩
  have hnew := (filter_suite_loses_nothing f "all" _).1 before inner [last] _ rfl continued cut
  exact ⟨continued, cut, congrArg Filtered.outcome hnew, congrArg Filtered.runner hnew⟩

end Testbench.Runner
