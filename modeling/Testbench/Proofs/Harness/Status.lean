import Testbench.Proofs.Harness.FailFast
import Testbench.Proofs.Harness.Refusals
/-!
# Exit statuses

The status of a program is zero if its classes could be selected and, unless they are only listed, no
accepted case that is not ignored fails. Nothing else on the command line or around the program changes
it: a run that is cut short has a failure already.

Main definition: `Succeeds`. Main statement: `status_tells_success`.
-/
namespace Testbench

namespace Runner

/-- No failure is counted in a supervised run, cut short or not, if no test has one to report. -/
theorem failures_total_eq_nil_iff (r : Runner Empty) {ι : Type} {n : Notifier ι}
    (hs : n.stopRequested = false) (hf : n.tally.failures = []) :
    (r.total n).failures = [] ↔ ∀ p ∈ r.plan, p.reported? = none := by
  have none_iff : r.plan.filterMap Planned.reported? = [] ↔ ∀ p ∈ r.plan, p.reported? = none :=
    List.filterMap_eq_nil_iff
  rw [← none_iff]
  change (course r.plan n).notifier.tally.failures = [] ↔ _
  cases fast : n.failFast with
  | false =>
    have whole := course_of_not_failFast fast hs r.plan
    rw [(tally_course whole).2.2, hf, List.nil_append]
  | true =>
    rw [(course_of_failFast fast hs r.plan).2, hf, List.nil_append]
    simp

end Runner

namespace Harness

/-- The classes can be selected, and unless they are only listed, no accepted case fails. -/
structure Succeeds (classes : List TestClass) (pattern : Option String) (list : Bool) : Prop where
  filled : ∀ c ∈ classes, c.cases ≠ []
  selects : ∀ spec, pattern = some spec → ∃ f, PatternFilter.parse spec = .ok f ∧
    ∃ c ∈ classes, ∃ t ∈ c.cases, f.acceptsName (c.name ++ "." ++ t.name)
  passes : list = true ∨ ∀ c ∈ classes, ∀ t ∈ c.cases,
    accepts pattern (c.name ++ "." ++ t.name) → t.ignored = true ∨ t.body.ending = .passed

variable {classes : List TestClass} {pattern : Option String}

theorem not_succeeds_of_refused {e : Error} (h : Refused classes pattern e) (list : Bool) :
    ¬ Succeeds classes pattern list := by
  intro hs
  cases h with
  | emptyClass hc =>
    have := find?_isEmpty_eq_none_iff.2 hs.filled
    simp [hc] at this
  | badPattern full hp ht =>
    obtain ⟨f, hf, -⟩ := hs.selects _ hp
    simp [PatternFilter.parse_eq, ht] at hf
  | nothingAccepted full hp hf hnone =>
    obtain ⟨f', hf', c, hc, t, ht, accepted⟩ := hs.selects _ hp
    cases hf.symm.trans hf'
    exact hnone c hc t ht accepted

theorem accepts_of_chosen {cs : List TestClass} (h : chosen classes pattern = .ok cs) (spec : String)
    (hp : pattern = some spec) : ∃ f, PatternFilter.parse spec = .ok f ∧
      ∃ c ∈ classes, ∃ t ∈ c.cases, f.acceptsName (c.name ++ "." ++ t.name) := by
  subst hp
  unfold chosen at h
  split at h
  · cases h
  · cases hf : PatternFilter.parse spec with
    | error e => simp [hf] at h
    | ok f =>
      simp only [hf] at h
      split at h
      · cases h
      · next hk =>
        rw [List.isEmpty_iff, kept_eq_nil_iff] at hk
        push Not at hk
        exact ⟨f, rfl, hk⟩

/-- What the failures of the selected tests say of the cases. -/
theorem reported_selected_iff (classes : List TestClass) (pattern : Option String) :
    (∀ p ∈ selected classes pattern, p.reported? = none) ↔
      ∀ c ∈ classes, ∀ t ∈ c.cases, accepts pattern (c.name ++ "." ++ t.name) →
        t.ignored = true ∨ t.body.ending = .passed := by
  have reported (c : TestClass) (t : TestCase) :
      (⟨c.describeCase t, t⟩ : Planned).reported? = none ↔
        t.ignored = true ∨ t.body.ending = .passed := by
    obtain ⟨name, ⟨ending, takes⟩, ignored⟩ := t
    cases ignored <;> cases ending <;> simp [Planned.reported?, Planned.failure?_eq, Ending.failure?]
  have name (c : TestClass) (t : TestCase) :
      (c.describeCase t).displayName = c.name ++ "." ++ t.name := rfl
  simp only [selected, TestClass.planned, List.mem_filter, List.mem_flatMap, List.mem_map]
  constructor
  · intro h c hc t ht accepted
    exact (reported c t).1 (h _ ⟨⟨c, hc, t, ht, rfl⟩, accepted⟩)
  · rintro h p ⟨⟨c, hc, t, ht, rfl⟩, accepted⟩
    exact (reported c t).2 (h c hc t ht accepted)

/-- If classes are chosen, only the selected cases can keep a run from succeeding. -/
theorem succeeds_iff_of_chosen {cs : List TestClass} (h : chosen classes pattern = .ok cs)
    (list : Bool) :
    Succeeds classes pattern list ↔
      list = true ∨ ∀ p ∈ selected classes pattern, p.reported? = none := by
  rw [reported_selected_iff]
  refine ⟨Succeeds.passes, fun passes => ⟨?_, accepts_of_chosen h, passes⟩⟩
  cases hc : classes.find? (·.cases.isEmpty) with
  | some c => simp [chosen, hc] at h
  | none => exact find?_isEmpty_eq_none_iff.1 hc

/-- Whether a run succeeds does not depend on how long its cases take. -/
theorem succeeds_untimed (classes : List TestClass) (pattern : Option String) (list : Bool) :
    Succeeds (classes.map TestClass.untimed) pattern list ↔ Succeeds classes pattern list := by
  constructor <;> rintro ⟨filled, accepts, passes⟩ <;> refine ⟨?_, ?_, ?_⟩ <;>
    simp_all [TestClass.untimed, TestCase.untimed]

theorem status_ok_eq_zero_iff (t : Tally) : status (.ok t) = 0 ↔ t.failures = [] := by
  cases h : t.failures <;> simp [status, Tally.wasSuccessful, h]

theorem status_le_one (outcome : Except Error Tally) : status outcome ≤ 1 := by
  cases outcome with
  | error e => exact Nat.le_refl 1
  | ok t =>
    rw [status]
    split <;> omega

theorem status_runClasses_eq_zero_iff (classes : List TestClass) (o : Options) (host : Host) :
    status (runClasses classes o host).outcome = 0 ↔ Succeeds classes o.pattern o.list := by
  cases hc : chosen classes o.pattern with
  | error e =>
    have ho := (outcome_eq_error_iff classes o host e).2 hc
    simp [ho, status, not_succeeds_of_refused (refused_of_chosen hc)]
  | ok cs =>
    rw [succeeds_iff_of_chosen hc]
    cases hl : o.list with
    | true =>
      have ho : (runClasses classes o host).outcome = .ok .empty := by simp [runClasses_eq, hc, hl]
      simp [ho, status_ok_eq_zero_iff, Tally.empty]
    | false =>
      have plan : (loggedSuite cs).plan = selected classes o.pattern :=
        (plan_loggedSuite cs).trans (selected_of_chosen hc)
      have failures := (loggedSuite cs).failures_total_eq_nil_iff
        (n := notifier (stage o.resultsFile host) o.failFast) rfl rfl
      rw [plan] at failures
      have ho := outcome_runClasses hl classes host
      rw [hc] at ho
      simp [ho, Except.map, status_ok_eq_zero_iff, failures]

open CommandLine in
/-- A program whose command line is accepted ends with zero exactly if it succeeds, and with one
otherwise. So its status is that of every program that has the same pattern, lists or runs alike, and has
the same cases, however long they take. -/
theorem status_tells_success {arguments : List Argument} {o : Options}
    (accepted : Options.ofArguments arguments = .ok o) (classes : List TestClass)
    (environment : Option ByteArray) (host : Host) :
    let exit := runProgram classes arguments environment host
    (exit.status = 0 ↔ Succeeds classes o.pattern o.list) ∧ (exit.status = 0 ∨ exit.status = 1) ∧
      ∀ arguments' o' classes' environment' host', Options.ofArguments arguments' = .ok o' →
        o'.pattern = o.pattern → o'.list = o.list →
        classes'.map TestClass.untimed = classes.map TestClass.untimed →
        (runProgram classes' arguments' environment' host').status = exit.status := by
  have ran {arguments : List Argument} {o : Options} (accepted : Options.ofArguments arguments = .ok o)
      (classes : List TestClass) (environment : Option ByteArray) (host : Host) :
      (runProgram classes arguments environment host).status =
        status (runClasses classes o host).outcome := by
    simp only [runProgram, accepted]
  intro exit
  have hexit : exit.status = status (runClasses classes o host).outcome :=
    ran accepted classes environment host
  have zero_iff := hexit ▸ status_runClasses_eq_zero_iff classes o host
  have le_one := hexit ▸ status_le_one (runClasses classes o host).outcome
  refine ⟨zero_iff, by omega, ?_⟩
  intro arguments' o' classes' environment' host' accepted' pattern list same
  have zero_iff' := status_runClasses_eq_zero_iff classes' o' host'
  have le_one' := status_le_one (runClasses classes' o' host').outcome
  have alike : Succeeds classes' o'.pattern o'.list ↔ Succeeds classes o.pattern o.list := by
    rw [pattern, list, ← succeeds_untimed, same, succeeds_untimed]
  rw [ran accepted']
  have zero : status (runClasses classes' o' host').outcome = 0 ↔ exit.status = 0 :=
    zero_iff'.trans (alike.trans zero_iff.symm)
  omega

/-- The first failure, in the second class, stops the first program; the second one runs on, logs
everything and cannot write its results. Both end with one, and a listing of the classes with zero. -/
theorem status_tells_success_reported :
    let case (name : String) (ending : Ending) (takes : Duration) : TestCase :=
      ⟨name, ⟨ending, takes⟩, false⟩
    let classes (a b : Duration) : List TestClass :=
      [⟨"A", [case "x" .passed a, ⟨"off", ⟨.failed "no", 0⟩, true⟩]⟩,
        ⟨"B", [case "x" (.panicked .other) b, case "y" .passed a]⟩]
    let fast := ["tests", "--gtest-filter", "-A.off", "--fail-fast"].map String.toUTF8
    let loud := ["tests", "--trace", "--json-results-file", "no/out.json",
      "--gtest_filter=-A.off"].map String.toUTF8
    let lists := ["tests", "--list"].map String.toUTF8
    let o := { Options.none with pattern := some "-A.off", failFast := true }
    let deaf : Host := ⟨.empty, false⟩
    Options.ofArguments fast = .ok o ∧ (runProgram (classes 1 2) fast none .empty).status = 1 ∧
      (runProgram (classes 3 4) loud none deaf).status = 1 ∧
      (runProgram (classes 1 2) lists none deaf).status = 0 := by
  intro case classes fast loud lists o deaf
  let o' := { Options.none with
    log := { Log.Options.none with trace := true }
    pattern := some "-A.off"
    resultsFile := some (Path.ofString "no/out.json") }
  have accepted : Options.ofArguments fast = .ok o := rfl
  have accepted' : Options.ofArguments loud = .ok o' := rfl
  have listed : Options.ofArguments lists = .ok { Options.none with list := true } := rfl
  have fails : ¬ Succeeds (classes 1 2) o.pattern o.list := by
    intro h
    let panics := case "x" (.panicked .other) 2
    let b : TestClass := ⟨"B", [panics, case "y" .passed 1]⟩
    have passes := h.passes.resolve_left (by decide) b (List.mem_cons_of_mem _ List.mem_cons_self)
      panics List.mem_cons_self (by decide +kernel)
    exact absurd passes (by decide)
  have succeeds : Succeeds (classes 1 2) none true :=
    ⟨by simp [classes], by simp, .inl rfl⟩
  obtain ⟨zero_iff, zero_or_one, alike⟩ := status_tells_success accepted (classes 1 2) none .empty
  have one : (runProgram (classes 1 2) fast none .empty).status = 1 :=
    zero_or_one.resolve_left fun h => fails (zero_iff.1 h)
  have same : (classes 3 4).map TestClass.untimed = (classes 1 2).map TestClass.untimed := rfl
  exact ⟨accepted, one, (alike loud o' (classes 3 4) none deaf accepted' rfl rfl same).trans one,
    (status_tells_success listed (classes 1 2) none deaf).1.2 succeeds⟩

end Harness
end Testbench
