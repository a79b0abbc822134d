import Testbench.Proofs.Filter
import Testbench.Proofs.Harness.Run
/-!
# When a run of classes is refused

A run of classes fails only before it starts: if a class has no case, if a pattern is too large, or if no
case is accepted. Nothing has been written by then. Once it starts it always has a result, whatever
becomes of its tests and its outputs.

Main definition: `Refused`. Main statement: `fails_iff_refused`.
-/
namespace Testbench.Harness

/-- The reasons for which a run fails, in the order in which they are looked for. -/
inductive Refused (classes : List TestClass) (pattern : Option String) : Error → Prop
  | emptyClass {c : TestClass} :
    classes.find? (·.cases.isEmpty) = some c →
      Refused classes pattern (.initialization c.name "no runnable methods")
  | badPattern {spec : String} {text : List Char} :
    (∀ c ∈ classes, c.cases ≠ []) → pattern = some spec →
      (PatternFilter.texts spec).find? PatternFilter.isTooLarge = some text →
      Refused classes pattern (PatternFilter.tooLarge text)
  | nothingAccepted {spec : String} {f : PatternFilter} :
    (∀ c ∈ classes, c.cases ≠ []) → pattern = some spec → PatternFilter.parse spec = .ok f →
      (∀ c ∈ classes, ∀ t ∈ c.cases, ¬ f.acceptsName (c.name ++ "." ++ t.name)) →
      Refused classes pattern (.noTestsRemain ("gtest-filter: " ++ spec))

theorem find?_isEmpty_eq_none_iff {classes : List TestClass} :
    classes.find? (·.cases.isEmpty) = none ↔ ∀ c ∈ classes, c.cases ≠ [] := by
  simp [List.find?_eq_none]

theorem kept_eq_nil_iff (f : PatternFilter) (classes : List TestClass) :
    kept f classes = [] ↔
      ∀ c ∈ classes, ∀ t ∈ c.cases, ¬ f.acceptsName (c.name ++ "." ++ t.name) := by
  have name (c : TestClass) (t : TestCase) :
      (c.describeCase t).displayName = c.name ++ "." ++ t.name := rfl
  simp [kept, TestClass.restrict, Runner.keptCases, PatternFilter.shouldRun_describeCase, name]

theorem refused_of_chosen {classes : List TestClass} {pattern : Option String} {e : Error}
    (h : chosen classes pattern = .error e) : Refused classes pattern e := by
  unfold chosen at h
  split at h
  · next c hc =>
    cases h
    exact .emptyClass hc
  · next hc =>
    have full := find?_isEmpty_eq_none_iff.1 hc
    cases pattern with
    | none => cases h
    | some spec =>
      have hparse := PatternFilter.parse_eq spec
      split at hparse <;> simp only [hparse] at h
      · next text ht =>
        cases h
        exact .badPattern full rfl ht
      · split at h
        · next hk =>
          cases h
          exact .nothingAccepted full rfl hparse ((kept_eq_nil_iff _ _).1 (List.isEmpty_iff.1 hk))
        · cases h

theorem chosen_of_refused {classes : List TestClass} {pattern : Option String} {e : Error}
    (h : Refused classes pattern e) : chosen classes pattern = .error e := by
  unfold chosen
  cases h with
  | emptyClass hc => rw [hc]
  | badPattern full hp ht =>
    subst hp
    have hparse := PatternFilter.parse_eq
    simp only [find?_isEmpty_eq_none_iff.2 full, hparse, ht]
  | nothingAccepted full hp hf hnone =>
    subst hp
    rw [find?_isEmpty_eq_none_iff.2 full]
    simp [hf, (kept_eq_nil_iff _ _).2 hnone]

/-- Listing and running fail only if no classes are chosen. -/
theorem outcome_eq_error_iff (classes : List TestClass) (o : Options) (host : Host) (e : Error) :
    (runClasses classes o host).outcome = .error e ↔ chosen classes o.pattern = .error e := by
  cases hl : o.list with
  | false =>
    rw [outcome_runClasses hl]
    cases chosen classes o.pattern <;> simp [Except.map]
  | true =>
    rw [runClasses_eq]
    cases chosen classes o.pattern <;> simp [hl]

/-- A run of classes fails exactly for one of the reasons given, and before anything is written or
happens. Without such a reason it has a result, whatever the outputs. -/
theorem fails_iff_refused (classes : List TestClass) (o : Options) (host : Host) :
    let run := runClasses classes o host
    (∀ e, run.outcome = .error e ↔ Refused classes o.pattern e) ∧
      (∀ e, Refused classes o.pattern e →
        Output.lines run.outputs = [] ∧ run.trace = [] ∧ run.host = host) ∧
      ((∀ e, ¬ Refused classes o.pattern e) → ∃ t, run.outcome = .ok t) := by
  intro run
  have error_iff (e : Error) : run.outcome = .error e ↔ Refused classes o.pattern e :=
    (outcome_eq_error_iff classes o host e).trans ⟨refused_of_chosen, chosen_of_refused⟩
  refine ⟨error_iff, fun e h => ?_, fun h => ?_⟩
  · simp [run, runClasses_eq, chosen_of_refused h]
  · cases ho : run.outcome with
    | error e => exact absurd ((error_iff e).1 ho) (h e)
    | ok t => exact ⟨t, rfl⟩

/-- The second class is the first without a case, whatever the pattern; without it no case is accepted;
and without the pattern a panic, a console that cannot be written to and a missing directory do no harm. -/
theorem fails_iff_refused_in_order :
    let panics : TestCase := ⟨"x", ⟨.panicked .other, 1⟩, false⟩
    let full : List TestClass := [⟨"A", [panics]⟩]
    let gaps : List TestClass := full ++ [⟨"B", []⟩, ⟨"C", []⟩]
    let host : Host := ⟨.empty, false⟩
    let o := { Options.none with
      pattern := some "B*", resultsFile := some (Path.ofString "missing/out.json") }
    (Refused gaps o.pattern (.initialization "B" "no runnable methods") ∧
        (runClasses gaps o host).host = host) ∧
      (Refused full o.pattern (.noTestsRemain "gtest-filter: B*") ∧
        Output.lines (runClasses full o host).outputs = []) ∧
      (∀ e, ¬ Refused full none e) ∧
        ∃ t, (runClasses full { o with pattern := none } host).outcome = .ok t := by
  intro panics full gaps host o
  have empty : Refused gaps o.pattern (.initialization "B" "no runnable methods") :=
    .emptyClass (c := ⟨"B", []⟩) rfl
  have nothing : Refused full o.pattern (.noTestsRemain "gtest-filter: B*") :=
    refused_of_chosen (by decide +kernel)
  have noReason : ∀ e, ¬ Refused full none e := by
    intro e h
    cases chosen_of_refused h
  exact ⟨⟨empty, ((fails_iff_refused gaps o host).2.1 _ empty).2.2⟩,
    ⟨nothing, ((fails_iff_refused full o host).2.1 _ nothing).1⟩, noReason,
    (fails_iff_refused full { o with pattern := none } host).2.2 noReason⟩

end Testbench.Harness
