import Testbench.Proofs.Harness.FailFast
import Testbench.Proofs.Untimed
/-!
# The same run at other times

However long the cases of some classes take, the same classes are chosen, the same scenes are acted, and the
same tally is reached. So the traces of two such runs are the same but for times.

Main definition: `Runner.untilEnd`, what happens before a run is closed. Main statements: `untilEnd_congr`
and `total_congr` for runs, `log_select_congr` for the events before them.
-/
namespace Testbench
variable {ι : Type}

/-! ## Scenes without their times -/

def Scene.untimed : Scene → Scene
  | call c => call c.untimed
  | test p => test p.untimed
  | refused d => refused d

theorem Planned.happenings_untimed (listeners : List ι) (p : Planned) :
    (p.untimed.happenings listeners).map Happening.untimed =
      (p.happenings listeners).map Happening.untimed := by
  cases hi : p.test.ignored with
  | true => simp [happenings, untimed, TestCase.untimed, hi]
  | false =>
    have failure : p.untimed.failure? = p.failure? := rfl
    simp only [happenings, failure]
    simp [untimed, TestCase.untimed, hi, Happening.untimed, Runner.caseDone, Log.Event.untimed]

theorem Scene.happenings_untimed (listeners : List ι) (s : Scene) :
    (s.untimed.happenings listeners).map Happening.untimed =
      (s.happenings listeners).map Happening.untimed := by
  cases s with
  | call c => cases c <;> rfl
  | test p => exact p.happenings_untimed listeners
  | refused d => rfl

theorem acted_untimed (scenes : List Scene) (n : Notifier ι) :
    acted (scenes.map Scene.untimed) n = (acted scenes n).map Scene.untimed := by
  induction scenes generalizing n with
  | nil => rfl
  | cons s scenes ih =>
    cases s with
    | call c => exact congrArg (Scene.call c.untimed :: ·) (ih n)
    | refused d => exact congrArg (Scene.refused d :: ·) (ih n)
    | test p =>
      by_cases hp : p.isRefused n
      · rw [acted_test_refused hp]
        exact acted_test_refused (p := p.untimed) hp _
      · rw [acted_test hp]
        refine (acted_test (p := p.untimed) hp _).trans ?_
        exact congrArg (Scene.test p.untimed :: ·) (ih (p.settle n))

theorem course_untimed (ps : List Planned) (n : Notifier ι) :
    course (ps.map Planned.untimed) n = course ps n := by
  induction ps generalizing n with
  | nil => rfl
  | cons p ps ih =>
    by_cases hp : p.isRefused n
    · rw [course_cons_refused hp]
      exact course_cons_refused (p := p.untimed) hp _
    · have rest := ih (p.settle n)
      rw [course_cons hp, ← rest]
      exact course_cons (p := p.untimed) hp _

/-- How long its cases take shows in the scenes of a class only as times. -/
theorem TestClass.scenes_untimed (c : TestClass) :
    c.untimed.scenes.map Scene.untimed = c.scenes.map Scene.untimed := by
  have again (p : Planned) : (Scene.test p.untimed).untimed = (Scene.test p).untimed := rfl
  simp only [scenes, planned_untimed, describe_untimed, List.map_cons, List.map_append, List.map_map,
    Function.comp_def, again]
  rfl

/-! ## Runs up to their end -/

namespace Runner

/-- What happens in a supervised run before it is closed. -/
def untilEnd (r : Runner Empty) (n : Notifier ι) : List (Happening ι) :=
  (Callback.runStarted r.describe).toEach n.listeners ++
    ((acted r.scenes n).flatMap (Scene.happenings n.listeners) ++ r.earlyEnd n)

theorem trace_supervise (r : Runner Empty) (n : Notifier ι) :
    (supervise r n).trace =
      r.untilEnd n ++ (Callback.runFinished (r.total n)).toEach n.listeners := by
  rw [(supervise_eq r n).2, untilEnd, List.append_assoc, List.append_assoc]

end Runner

/-! ## Nothing closes a run before its end -/

theorem Callback.goesOn_toEach {c : Callback} (goesOn : c.closes = false) (listeners : List ι) :
    ∀ h ∈ c.toEach listeners, h.closes = false := by
  intro h hh
  obtain ⟨l, -, rfl⟩ := List.mem_map.1 hh
  exact goesOn

theorem Planned.goesOn_happenings (p : Planned) (listeners : List ι) :
    ∀ h ∈ p.happenings listeners, h.closes = false := by
  unfold happenings
  split
  · exact Callback.goesOn_toEach rfl listeners
  · simp only [List.forall_mem_append]
    refine ⟨⟨⟨Callback.goesOn_toEach rfl listeners, by simp [Happening.closes]⟩, ?_⟩,
      Callback.goesOn_toEach rfl listeners⟩
    intro h hh
    obtain ⟨f, -, hf⟩ := List.mem_flatMap.1 hh
    exact Callback.goesOn_toEach rfl listeners h hf

theorem Scene.goesOn_happenings (s : Scene) (listeners : List ι) :
    ∀ h ∈ s.happenings listeners, h.closes = false := by
  cases s with
  | test p => exact p.goesOn_happenings listeners
  | _ => simp [happenings, Happening.closes]

theorem Runner.goesOn_untilEnd (r : Runner Empty) (n : Notifier ι) :
    ∀ h ∈ r.untilEnd n, h.closes = false := by
  have early : ∀ h ∈ r.earlyEnd n, h.closes = false := by
    unfold earlyEnd
    split <;> simp [Happening.closes]
  simp only [untilEnd, List.forall_mem_append]
  refine ⟨Callback.goesOn_toEach rfl n.listeners, ?_, early⟩
  intro h hh
  obtain ⟨s, -, hs⟩ := List.mem_flatMap.1 hh
  exact s.goesOn_happenings n.listeners h hs

/-! ## Two runs of the same classes -/

namespace Harness

section Runs
variable {cs cs' : List TestClass} (same : cs.map TestClass.untimed = cs'.map TestClass.untimed)
include same

theorem describe_congr : (loggedSuite cs).describe = (loggedSuite cs').describe := by
  have untimed (cs : List TestClass) : (loggedSuite cs).describe =
      .suite Runner.defaultName ((cs.map TestClass.untimed).map TestClass.describe) := by
    simp [loggedSuite, Runner.describe, Runner.describeAll_eq_map, Function.comp_def,
      TestClass.describe_untimed]
  rw [untimed cs, untimed cs', same]

theorem plan_congr :
    (loggedSuite cs).plan.map Planned.untimed = (loggedSuite cs').plan.map Planned.untimed := by
  have untimed (cs : List TestClass) : (loggedSuite cs).plan.map Planned.untimed =
      (cs.map TestClass.untimed).flatMap TestClass.planned := by
    rw [plan_loggedSuite, List.map_flatMap, List.flatMap_map]
    exact List.flatMap_congr fun c _ => c.planned_untimed.symm
  rw [untimed cs, untimed cs', same]

theorem scenes_congr :
    (loggedSuite cs).scenes.map Scene.untimed = (loggedSuite cs').scenes.map Scene.untimed := by
  have untimed (cs : List TestClass) : (loggedSuite cs).scenes.map Scene.untimed =
      (cs.map TestClass.untimed).flatMap fun c => c.scenes.map Scene.untimed := by
    rw [scenes_loggedSuite, List.map_flatMap, List.flatMap_map]
    exact List.flatMap_congr fun c _ => c.scenes_untimed.symm
  rw [untimed cs, untimed cs', same]

theorem course_congr (n : Notifier ι) :
    course (loggedSuite cs).plan n = course (loggedSuite cs').plan n := by
  rw [← course_untimed, plan_congr same, course_untimed]

theorem total_congr (n : Notifier ι) :
    ((loggedSuite cs).total n).untimed = ((loggedSuite cs').total n).untimed := by
  simp only [Runner.total, Tally.untimed, course_congr same]

/-- Up to its end the same run happens, at times of its own. -/
theorem untilEnd_congr (n : Notifier ι) :
    ((loggedSuite cs).untilEnd n).map Happening.untimed =
      ((loggedSuite cs').untilEnd n).map Happening.untimed := by
  have untimed (scenes : List Scene) :
      (scenes.flatMap (Scene.happenings n.listeners)).map Happening.untimed =
        (scenes.map Scene.untimed).flatMap
          fun s => (s.happenings n.listeners).map Happening.untimed := by
    rw [List.map_flatMap, List.flatMap_map]
    exact List.flatMap_congr fun s _ => (s.happenings_untimed n.listeners).symm
  have scenes : ((acted (loggedSuite cs).scenes n).map Scene.untimed) =
      (acted (loggedSuite cs').scenes n).map Scene.untimed := by
    rw [← acted_untimed, scenes_congr same, acted_untimed]
  simp only [Runner.untilEnd, Runner.earlyEnd, List.map_append, untimed, scenes,
    describe_congr same, course_congr same]

theorem running_congr : running (loggedSuite cs) = running (loggedSuite cs') := by
  have length : cs.length = cs'.length := by simpa using congrArg List.length same
  have size : (loggedSuite cs).size? = (loggedSuite cs').size? := by
    simp [loggedSuite, Runner.size?, length]
  rw [running, running, Runner.testCount, Runner.testCount, size, describe_congr same]

theorem listing_congr : listing (loggedSuite cs) = listing (loggedSuite cs') := by
  rw [listing, listing, describe_congr same]

end Runs

/-! ## Selecting -/

/-- Filtering a class logs nothing, whether it is asked or not. -/
theorem asking_logged_ofClass (f : Filter) (c : TestClass) :
    Runner.asking f (.logged (.ofClass c) : Runner Empty) = [] := by
  rw [Runner.asking]
  split <;> rfl

/-- Filtering logs how many classes are kept. -/
theorem log_filter_loggedSuite (f : PatternFilter) (classes : List TestClass) :
    ((loggedSuite classes).filter f.toFilter).log =
      [Runner.sifting Runner.defaultName (kept f classes).length f.toFilter] := by
  have silent : (classes.map fun c => (.logged (.ofClass c) : Runner Empty)).flatMap
      (Runner.asking f.toFilter) = [] := by
    simp [List.flatMap_eq_nil_iff, asking_logged_ofClass]
  rw [loggedSuite, Runner.filter_suite_eq _ fun r _ r' h => Runner.filter_of_select (rigid r) h,
    silent, filterMap_select, List.length_map, List.nil_append]

/-- The same classes are chosen, or there is the same reason why none are. -/
theorem chosen_congr {classes classes' : List TestClass}
    (same : classes.map TestClass.untimed = classes'.map TestClass.untimed)
    (pattern : Option String) :
    (∃ e, chosen classes pattern = .error e ∧ chosen classes' pattern = .error e) ∨
      ∃ cs cs', chosen classes pattern = .ok cs ∧ chosen classes' pattern = .ok cs' ∧
        cs.map TestClass.untimed = cs'.map TestClass.untimed := by
  have choice : (chosen classes pattern).map (List.map TestClass.untimed) =
      (chosen classes' pattern).map (List.map TestClass.untimed) := by
    rw [← chosen_untimed, ← chosen_untimed, same]
  cases hc : chosen classes pattern <;> cases hc' : chosen classes' pattern <;>
    simp_all [Except.map]

/-- What is logged while classes are selected does not depend on how long their cases take. -/
theorem log_select_congr {classes classes' : List TestClass}
    (same : classes.map TestClass.untimed = classes'.map TestClass.untimed)
    (pattern : Option String) : (select classes pattern).2 = (select classes' pattern).2 := by
  have untimed (classes : List TestClass) :
      (select (classes.map TestClass.untimed) pattern).2 = (select classes pattern).2 := by
    unfold select
    rw [logging_plain, logging_plain, find?_isEmpty_untimed]
    cases classes.find? (·.cases.isEmpty) with
    | some c => rfl
    | none =>
      cases pattern with
      | none => rfl
      | some spec =>
        cases hf : PatternFilter.parse spec with
        | error e => simp [hf]
        | ok f => simp [hf, log_filter_loggedSuite, kept_untimed]
  rw [← untimed classes, same, untimed classes']

end Harness
end Testbench
