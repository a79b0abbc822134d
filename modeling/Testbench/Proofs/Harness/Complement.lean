import Testbench.Proofs.Harness.Listing
import Testbench.Proofs.Harness.Refusals
/-!
# A pattern and its negation

The patterns of a text select some cases, and the same patterns after a dash select all others. So two
listings, one by a text and one by its negation, name every case of the classes once: one in which a case
occurs twice names it twice, and the two listings merge to the listing of all cases. A listing that would
name nothing is refused.

Main definitions: `Merges` and `Harness.caseNames`. Main statement: `complements_split`.
-/
namespace Testbench

/-- Two lists merge to a third one, in which each keeps its order. -/
inductive Merges {α : Type} : List α → List α → List α → Prop
  | nil : Merges [] [] []
  | left (a : α) {as bs cs} : Merges as bs cs → Merges (a :: as) bs (a :: cs)
  | right (b : α) {as bs cs} : Merges as bs cs → Merges as (b :: bs) (b :: cs)

/-- What satisfies a condition and what does not merge to the whole. -/
theorem merges_filter {α : Type} (p : α → Bool) (as : List α) :
    Merges (as.filter p) (as.filter fun a => !p a) as := by
  induction as with
  | nil => exact .nil
  | cons a as ih =>
    cases hp : p a with
    | true =>
      rw [List.filter_cons_of_pos hp, List.filter_cons_of_neg (by simp [hp])]
      exact .left a ih
    | false =>
      rw [List.filter_cons_of_neg (by simp [hp]), List.filter_cons_of_pos (by simp [hp])]
      exact .right a ih

namespace Harness

/-- The names of all cases, class by class. -/
def caseNames (classes : List TestClass) : List String :=
  classes.flatMap fun c => c.cases.map fun t => c.name ++ "." ++ t.name

variable {classes : List TestClass}

/-- The selected tests are shown by the names that are accepted. -/
theorem reportName_selected (classes : List TestClass) (pattern : Option String) :
    (selected classes pattern).map (·.description.reportName) =
      (caseNames classes).filter (accepts pattern) := by
  have names : (classes.flatMap TestClass.planned).map (·.description.displayName) =
      caseNames classes := by
    simp only [caseNames, List.map_flatMap, TestClass.planned, List.map_map]
    rfl
  have same : ∀ p ∈ selected classes pattern,
      p.description.reportName = p.description.displayName := by
    intro p hp
    obtain ⟨c, -, hp⟩ := List.mem_flatMap.1 (List.mem_of_mem_filter hp)
    obtain ⟨t, -, rfl⟩ := List.mem_map.1 hp
    rfl
  rw [List.map_congr_left same, ← names, List.filter_map]
  rfl

/-- A listing of chosen classes names what is accepted. -/
theorem listing_of_chosen {o : Options} (lists : o.list = true) {host : Host}
    (works : host.consoleWorks = true) {cs : List TestClass}
    (h : chosen classes o.pattern = .ok cs) :
    (runClasses classes o host).outcome = .ok .empty ∧
      Output.lines (runClasses classes o host).outputs =
        ((caseNames classes).filter (accepts o.pattern)).map .listed := by
  refine ⟨?_, ?_⟩
  · rw [runClasses_eq, h]
    simp [lists]
  · rw [lines_listing lists h works, plan_loggedSuite, selected_of_chosen h, reportName_selected]

theorem chosen_none (full : ∀ c ∈ classes, c.cases ≠ []) : chosen classes none = .ok classes := by
  simp only [chosen, find?_isEmpty_eq_none_iff.2 full]

theorem chosen_of_full (full : ∀ c ∈ classes, c.cases ≠ []) {spec : String} {f : PatternFilter}
    (hf : PatternFilter.parse spec = .ok f) :
    chosen classes (some spec) =
      if (caseNames classes).filter f.acceptsName = [] then
        .error (.noTestsRemain ("gtest-filter: " ++ spec))
      else .ok (kept f classes) := by
  have nothing : kept f classes = [] ↔ (caseNames classes).filter f.acceptsName = [] := by
    rw [kept_eq_nil_iff, List.filter_eq_nil_iff]
    simp only [caseNames, List.mem_flatMap, List.mem_map]
    grind
  simp only [chosen, find?_isEmpty_eq_none_iff.2 full, hf, List.isEmpty_iff, nothing]

/-- A listing without a filter names all cases. -/
theorem lists_all (full : ∀ c ∈ classes, c.cases ≠ []) (o : Options) {host : Host}
    (works : host.consoleWorks = true) :
    let report := runClasses classes { o with list := true, pattern := none } host
    report.outcome = .ok .empty ∧
      Output.lines report.outputs = (caseNames classes).map .listed := by
  obtain ⟨outcome, lines⟩ := listing_of_chosen
    (o := { o with list := true, pattern := none }) rfl works (chosen_none full)
  have all : (caseNames classes).filter (accepts none) = caseNames classes :=
    List.filter_eq_self.2 fun _ _ => rfl
  exact ⟨outcome, lines.trans (congrArg _ all)⟩

/-- A listing either names some cases, or is refused because there are none. -/
structure Lists (report : Report) (spec : String) (names : List String) : Prop where
  outcome : report.outcome =
    if names = [] then .error (.noTestsRemain ("gtest-filter: " ++ spec)) else .ok .empty
  lines : Output.lines report.outputs = names.map .listed

/-- A listing by a text that can be read, of classes with cases. -/
theorem lists_filtered (full : ∀ c ∈ classes, c.cases ≠ []) (o : Options) {host : Host}
    (works : host.consoleWorks = true) {spec : String} {f : PatternFilter}
    (hf : PatternFilter.parse spec = .ok f) :
    Lists (runClasses classes { o with list := true, pattern := some spec } host) spec
      ((caseNames classes).filter f.acceptsName) := by
  have choice := chosen_of_full full hf
  by_cases hn : (caseNames classes).filter f.acceptsName = []
  · rw [if_pos hn] at choice
    rw [hn]
    constructor <;> simp [runClasses_eq, choice]
  · rw [if_neg hn] at choice
    have accepts_eq : accepts (some spec) = f.acceptsName := by
      funext name
      simp only [accepts, hf]
    obtain ⟨outcome, lines⟩ := listing_of_chosen
      (o := { o with list := true, pattern := some spec }) rfl works choice
    rw [accepts_eq] at lines
    exact ⟨by rw [outcome, if_neg hn], lines⟩

open PatternFilter in
/-- A text without a dash and its negation split the cases of the classes. -/
theorem complements_split {spec : String} (full : ∀ c ∈ classes, c.cases ≠ [])
    (undashed : '-' ∉ spec.toList) (given : alternatives spec ≠ [])
    (small : ∀ text ∈ alternatives spec, isTooLarge text = false) (o : Options) {host : Host}
    (works : host.consoleWorks = true) :
    let listing (pattern : Option String) :=
      runClasses classes { o with list := true, pattern } host
    let matched := (caseNames classes).filter (anyMatches spec)
    let others := (caseNames classes).filter fun name => !anyMatches spec name
    (listing none).outcome = .ok .empty ∧
      Output.lines (listing none).outputs = (caseNames classes).map .listed ∧
      Lists (listing (some spec)) spec matched ∧
      Lists (listing (some ("-" ++ spec))) ("-" ++ spec) others ∧
      Merges matched others (caseNames classes) := by
  intro listing matched others
  obtain ⟨f, hf⟩ := exists_parse_of_undashed undashed small
  obtain ⟨g, hg, accepted⟩ := acceptsName_negated undashed hf
  have hmatched : (caseNames classes).filter f.acceptsName = matched := by
    congr 1
    exact funext (acceptsName_of_undashed undashed given hf)
  have hothers : (caseNames classes).filter g.acceptsName = others := by
    congr 1
    exact funext accepted
  obtain ⟨outcome, lines⟩ := lists_all full o works
  exact ⟨outcome, lines, hmatched ▸ lists_filtered full o works hf,
    hothers ▸ lists_filtered full o works hg, merges_filter _ _⟩

open PatternFilter in
/-- A case of a repeated name is listed as often as it occurs, and the case of the same name in the other
class is on the other side. -/
theorem complements_split_repeated :
    let case (name : String) : TestCase := ⟨name, ⟨.passed, 0⟩, false⟩
    let classes : List TestClass := [⟨"A", [case "x", case "z", case "x"]⟩, ⟨"B", [case "x"]⟩]
    let spec := "A.x::?.z"
    let listing (pattern : Option String) :=
      runClasses classes { Options.none with list := true, pattern } .empty
    (∀ c ∈ classes, c.cases ≠ []) ∧ '-' ∉ spec.toList ∧ alternatives spec ≠ [] ∧
      (∀ text ∈ alternatives spec, isTooLarge text = false) ∧
      Lists (listing (some spec)) spec ["A.x", "A.z", "A.x"] ∧
      Lists (listing (some ("-" ++ spec))) ("-" ++ spec) ["B.x"] ∧
      Merges ["A.x", "A.z", "A.x"] ["B.x"] ["A.x", "A.z", "A.x", "B.x"] := by
  intro case classes spec listing
  have full : ∀ c ∈ classes, c.cases ≠ [] := by simp [classes]
  have undashed : '-' ∉ spec.toList := by decide
  have given : alternatives spec ≠ [] := by decide +kernel
  have small : ∀ text ∈ alternatives spec, isTooLarge text = false := by decide +kernel
  have matched : (caseNames classes).filter (anyMatches spec) = ["A.x", "A.z", "A.x"] := by
    decide +kernel
  have others : (caseNames classes).filter (fun name => !anyMatches spec name) = ["B.x"] := by
    decide +kernel
  obtain ⟨-, -, included, excluded, merges⟩ :=
    complements_split full undashed given small .none (show Host.empty.consoleWorks = true from rfl)
  rw [matched] at included merges
  rw [others] at excluded merges
  exact ⟨full, undashed, given, small, included, excluded, merges⟩

end Harness
end Testbench
