import Testbench.Proofs.Harness.Complement
/-!
# Catch-all patterns

A pattern of stars alone is there to select every test. A star takes no line feed, though, so a case whose
name holds one is left out unless another pattern matches it. If there is no such case, a run with the
filter is the run without it, and only the events of filtering come before.

Main definition: `SameAfter`. Main statement: `catchAll_selects_iff`.
-/
namespace Testbench.Harness
open PatternFilter Wildcard

/-- Two reports of the same run, the first of which begins with some events. -/
structure SameAfter (log : List Log.Event) (report plain : Report) : Prop where
  outcome : report.outcome = plain.outcome
  trace : report.trace = plain.trace
  host : report.host = plain.host
  outputs : report.outputs = log.map .event ++ plain.outputs

variable {classes : List TestClass} {spec : String}

/-- Nothing is logged if there is nothing to filter by. -/
theorem log_select_none (full : ∀ c ∈ classes, c.cases ≠ []) : (select classes none).2 = [] := by
  rw [select, logging_plain, find?_isEmpty_eq_none_iff.2 full]

/-- Runs whose filter leaves all classes as they are. -/
theorem sameAfter_of_chosen (full : ∀ c ∈ classes, c.cases ≠ [])
    (h : chosen classes (some spec) = .ok classes) (o : Options) (host : Host) :
    SameAfter (select classes (some spec)).2
      (runClasses classes { o with pattern := some spec } host)
      (runClasses classes { o with pattern := none } host) := by
  constructor <;> simp only [runClasses_eq, h, chosen_none full, log_select_none full] <;>
    split <;> rfl

/-- A filter that accepts all cases leaves all classes as they are. -/
theorem kept_of_accepted {f : PatternFilter} (full : ∀ c ∈ classes, c.cases ≠ [])
    (accepted : ∀ name ∈ caseNames classes, f.acceptsName name) : kept f classes = classes := by
  have unchanged : ∀ c ∈ classes, c.restrict f = c := by
    intro c hc
    have all : Runner.keptCases f.toFilter c = c.cases := by
      refine List.filter_eq_self.2 fun t ht => ?_
      rw [shouldRun_describeCase]
      exact accepted _ (List.mem_flatMap.2 ⟨c, hc, List.mem_map_of_mem ht⟩)
    rw [TestClass.restrict, all]
  have whole : classes.map (TestClass.restrict f) = classes :=
    (List.map_congr_left unchanged).trans (List.map_id classes)
  rw [kept, whole]
  exact List.filter_eq_self.2 fun c hc => by simpa using full c hc

/-- A pattern of stars selects every name without a line feed. -/
theorem anyMatches_of_stars {stars : List Char} (catchAll : stars ∈ alternatives spec)
    (all : ∀ c ∈ stars, c = '*') {name : String} (h : '\n' ∉ name.toList) :
    anyMatches spec name :=
  anyMatches_iff.2 ⟨stars, catchAll, (matches_stars_iff (ne_nil_of_mem_alternatives catchAll) all).2 h⟩

/-- With a pattern of stars in it, a filter makes no difference to a run if and only if every name with a
line feed is matched by some pattern. -/
theorem catchAll_selects_iff (nonempty : classes ≠ []) (full : ∀ c ∈ classes, c.cases ≠ [])
    (undashed : '-' ∉ spec.toList) (small : ∀ text ∈ alternatives spec, isTooLarge text = false)
    {stars : List Char} (catchAll : stars ∈ alternatives spec) (all : ∀ c ∈ stars, c = '*') :
    (∀ (o : Options) (host : Host), SameAfter (select classes (some spec)).2
        (runClasses classes { o with pattern := some spec } host)
        (runClasses classes { o with pattern := none } host)) ↔
      ∀ name ∈ caseNames classes, '\n' ∈ name.toList →
        ∃ text ∈ alternatives spec, Matches (Pattern.ofText text) name.toList := by
  obtain ⟨f, hf⟩ := exists_parse_of_undashed undashed small
  have accepted (name : String) : f.acceptsName name = anyMatches spec name :=
    acceptsName_of_undashed undashed (List.ne_nil_of_mem catchAll) hf name
  constructor
  · intro same name hn _
    -- Both listings name the same cases, so the filter drops none.
    have works : Host.empty.consoleWorks = true := rfl
    have filtered := (lists_filtered full .none works hf).lines
    have plain := (lists_all full .none works).2
    have outputs := (same { Options.none with list := true } .empty).outputs
    rw [outputs, Output.lines_append, Output.lines_map_event, List.nil_append, plain] at filtered
    have names := List.map_injective_iff.2 (fun _ _ => Console.Line.listed.inj) filtered
    have kept : f.acceptsName name := List.filter_eq_self.1 names.symm name hn
    rw [accepted] at kept
    exact anyMatches_iff.1 kept
  · intro matched o host
    have everything : ∀ name ∈ caseNames classes, f.acceptsName name := by
      intro name hn
      rw [accepted]
      by_cases h : '\n' ∈ name.toList
      · exact anyMatches_iff.2 (matched name hn h)
      · exact anyMatches_of_stars catchAll all h
    have some_case : caseNames classes ≠ [] := by
      obtain ⟨c, cs, rfl⟩ := List.exists_cons_of_ne_nil nonempty
      simp [caseNames, full c List.mem_cons_self]
    refine sameAfter_of_chosen full ?_ o host
    rw [chosen_of_full full hf, List.filter_eq_self.2 everything, if_neg some_case,
      kept_of_accepted full everything]

/-- A pattern of two stars selects names of any characters, and the name that holds a line feed is matched
by the pattern beside it. -/
theorem catchAll_selects_iff_awkward :
    let case (name : String) (ending : Ending) : TestCase := ⟨name, ⟨ending, 1⟩, false⟩
    let classes : List TestClass :=
      [⟨"", [case "é\r😀" .passed, case "*-?" (.failed "no")]⟩, ⟨"B", [case "x\ny" .passed]⟩]
    let spec := "Z:**:B.x\n?"
    let o := Options.none
    classes ≠ [] ∧ (∀ c ∈ classes, c.cases ≠ []) ∧ '-' ∉ spec.toList ∧
      (∀ text ∈ alternatives spec, isTooLarge text = false) ∧ ['*', '*'] ∈ alternatives spec ∧
      (∀ c ∈ ['*', '*'], c = '*') ∧
      SameAfter (select classes (some spec)).2
        (runClasses classes { o with pattern := some spec } .empty)
        (runClasses classes { o with pattern := none } .empty) := by
  intro case classes spec o
  have nonempty : classes ≠ [] := by simp [classes]
  have full : ∀ c ∈ classes, c.cases ≠ [] := by simp [classes]
  have undashed : '-' ∉ spec.toList := by decide +kernel
  have small : ∀ text ∈ alternatives spec, isTooLarge text = false := by decide +kernel
  have catchAll : ['*', '*'] ∈ alternatives spec := by decide +kernel
  have all : ∀ c ∈ ['*', '*'], c = '*' := by simp
  have matched : ∀ name ∈ caseNames classes, '\n' ∈ name.toList → anyMatches spec name := by
    decide +kernel
  exact ⟨nonempty, full, undashed, small, catchAll, all,
    (catchAll_selects_iff nonempty full undashed small catchAll all).2
      (fun name hn h => anyMatches_iff.1 (matched name hn h)) o .empty⟩

/-- A star alone leaves out the case whose name holds a line feed, and nothing tells of it: the run has a
result, and it is not the result of the run without a filter. -/
theorem catchAll_misses_line_feed :
    let case (name : String) : TestCase := ⟨name, ⟨.passed, 1⟩, false⟩
    let classes : List TestClass := [⟨"A", [case "x", case "y\nz"]⟩]
    let run (pattern : Option String) := runClasses classes { Options.none with pattern } .empty
    (∀ c ∈ classes, c.cases ≠ []) ∧ '-' ∉ "*".toList ∧ ['*'] ∈ alternatives "*" ∧
      (∃ f, parse "*" = .ok f) ∧ (run (some "*")).outcome = .ok ⟨1, 0, [], 1⟩ ∧
      (run none).outcome = .ok ⟨2, 0, [], 2⟩ := by
  intro case classes run
  exact ⟨by simp [classes], by decide +kernel, by decide +kernel, ⟨_, rfl⟩, by decide +kernel,
    by decide +kernel⟩

end Testbench.Harness
