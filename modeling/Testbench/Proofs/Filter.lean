import Testbench.Filter
/-!
# Reading filter texts

A filter text can be read unless one of its patterns is too large; the first such pattern is reported.
Without a dash, a text of patterns selects what one of them matches; after a dash, it selects the rest.

Main statements: `PatternFilter.parse_eq`, `PatternFilter.acceptsName_of_undashed`,
`PatternFilter.acceptsName_negated` and `PatternFilter.shouldRun_iff`; for a pattern of stars,
`Wildcard.matches_stars_iff`.
-/
namespace Testbench

/-! ## Patterns of stars -/

namespace Wildcard

theorem free_iff {c : Char} : free c ↔ c ≠ '\n' := by simp [free]

theorem not_mem_of_matches_runs {p : Pattern} {t : List Char} (h : Matches p t)
    (runs : ∀ piece ∈ p, piece = .run) : '\n' ∉ t := by
  induction h with
  | done => simp
  | skip h ih => exact ih fun piece hp => runs piece (List.mem_cons_of_mem _ hp)
  | @more p c t hc h ih =>
    simp [(free_iff.1 hc).symm, ih runs]
  | one hc h ih => cases runs .one List.mem_cons_self
  | only c h ih => cases runs (.only c) List.mem_cons_self

theorem matches_runs_nil {p : Pattern} (runs : ∀ piece ∈ p, piece = .run) : Matches p [] := by
  induction p with
  | nil => exact .done
  | cons piece p ih =>
    obtain rfl := runs piece List.mem_cons_self
    exact .skip (ih fun piece hp => runs piece (List.mem_cons_of_mem _ hp))

theorem matches_runs {p : Pattern} (given : p ≠ []) (runs : ∀ piece ∈ p, piece = .run)
    {t : List Char} (ht : '\n' ∉ t) : Matches p t := by
  induction t with
  | nil => exact matches_runs_nil runs
  | cons c t ih =>
    obtain ⟨hc, ht⟩ := not_or.1 (mt List.mem_cons.2 ht)
    obtain ⟨piece, p, rfl⟩ := List.exists_cons_of_ne_nil given
    obtain rfl := runs piece List.mem_cons_self
    exact .more (free_iff.2 (Ne.symm hc)) (ih ht)

/-- However many stars, a pattern of stars matches what holds no line feed. -/
theorem matches_stars_iff {stars : List Char} (given : stars ≠ []) (all : ∀ c ∈ stars, c = '*')
    {t : List Char} : Matches (Pattern.ofText stars) t ↔ '\n' ∉ t := by
  have runs : ∀ piece ∈ Pattern.ofText stars, piece = .run := by
    intro piece hp
    obtain ⟨c, hc, rfl⟩ := List.mem_map.1 hp
    rw [all c hc]
    rfl
  refine ⟨fun h => not_mem_of_matches_runs h runs, matches_runs ?_ runs⟩
  simpa [Pattern.ofText] using given

end Wildcard

/-! ## Reading -/

namespace PatternFilter
open Text Wildcard

/-- The patterns of a filter text as they are written, in the order in which they are read. -/
def texts (spec : String) : List (List Char) :=
  fullPieces ':' (halves spec.toList).1 ++ fullPieces ':' (halves spec.toList).2

def isTooLarge (cs : List Char) : Bool := (Pattern.ofText cs).isTooLarge

theorem patterns?_eq (cs : List Char) :
    patterns? cs =
      match (fullPieces ':' cs).find? isTooLarge with
      | some p => .error (tooLarge p)
      | none => .ok ((fullPieces ':' cs).map Pattern.ofText) := by
  unfold patterns?
  induction fullPieces ':' cs with
  | nil => rfl
  | cons p ps ih =>
    rw [List.mapM_cons, ih, pattern?, List.find?_cons, isTooLarge]
    cases (Pattern.ofText p).isTooLarge with
    | true => rfl
    | false => cases ps.find? isTooLarge <;> rfl

/-- A text is read as the patterns of its two halves, unless one of them is too large. -/
theorem parse_eq (spec : String) :
    parse spec =
      match (texts spec).find? isTooLarge with
      | some p => .error (tooLarge p)
      | none => .ok ⟨spec, (fullPieces ':' (halves spec.toList).1).map Pattern.ofText,
          (fullPieces ':' (halves spec.toList).2).map Pattern.ofText⟩ := by
  simp only [parse, patterns?_eq, texts, List.find?_append]
  cases (fullPieces ':' (halves spec.toList).1).find? isTooLarge with
  | some p => rfl
  | none =>
    cases (fullPieces ':' (halves spec.toList).2).find? isTooLarge <;> rfl

theorem spec_of_parse {spec : String} {f : PatternFilter} (h : parse spec = .ok f) :
    f.spec = spec := by
  rw [parse_eq] at h
  split at h
  · cases h
  · cases h
    rfl

/-! ## Including and excluding -/

theorem halves_of_undashed {cs : List Char} (undashed : '-' ∉ cs) : halves cs = (cs, []) := by
  rw [halves, cutAt_eq_none_iff.2 undashed]
  rfl

theorem halves_negated (cs : List Char) : halves ('-' :: cs) = ([], cs) := by
  rw [halves, cutAt, if_pos rfl]
  rfl

/-- The patterns of a text that excludes nothing. -/
def alternatives (spec : String) : List (List Char) := fullPieces ':' spec.toList

/-- Whether one of the patterns of a text matches a name. -/
def anyMatches (spec name : String) : Bool :=
  (alternatives spec).any fun text => accepts (Pattern.ofText text) name.toList

theorem ne_nil_of_mem_alternatives {spec : String} {text : List Char}
    (h : text ∈ alternatives spec) : text ≠ [] := by
  simpa using (List.mem_filter.1 h).2

theorem anyMatches_iff {spec name : String} :
    anyMatches spec name ↔
      ∃ text ∈ alternatives spec, Matches (Pattern.ofText text) name.toList := by
  simp only [anyMatches, List.any_eq_true, accepts_iff]

/-- A text without a dash selects what one of its patterns matches, if it has any. -/
theorem acceptsName_of_undashed {spec : String} (undashed : '-' ∉ spec.toList)
    (given : alternatives spec ≠ []) {f : PatternFilter} (hf : parse spec = .ok f) (name : String) :
    f.acceptsName name = anyMatches spec name := by
  have nothing : fullPieces ':' ([] : List Char) = [] := rfl
  rw [parse_eq, texts, halves_of_undashed undashed, nothing] at hf
  split at hf
  · cases hf
  · cases hf
    have including : ((alternatives spec).map Pattern.ofText).isEmpty = false := by
      simpa using given
    simp only [alternatives] at including
    simp [acceptsName, anyMatches, alternatives, including, Function.comp_def]

/-- After a dash the same patterns can be read, and they select what none of them matches. -/
theorem acceptsName_negated {spec : String} (undashed : '-' ∉ spec.toList) {f : PatternFilter}
    (hf : parse spec = .ok f) :
    ∃ g, parse ("-" ++ spec) = .ok g ∧ ∀ name, g.acceptsName name = !anyMatches spec name := by
  have nothing : fullPieces ':' ([] : List Char) = [] := rfl
  have dashed : ("-" ++ spec).toList = '-' :: spec.toList := by simp
  rw [parse_eq, texts, halves_of_undashed undashed, nothing] at hf
  rw [parse_eq, texts, dashed, halves_negated, nothing]
  split at hf
  · cases hf
  · rename_i readable
    rw [List.append_nil] at readable
    simp only [List.nil_append, readable]
    refine ⟨_, rfl, fun name => ?_⟩
    simp [acceptsName, anyMatches, alternatives, Function.comp_def]

/-- A text without a dash can be read if none of its patterns is too large. -/
theorem exists_parse_of_undashed {spec : String} (undashed : '-' ∉ spec.toList)
    (small : ∀ text ∈ alternatives spec, isTooLarge text = false) : ∃ f, parse spec = .ok f := by
  have readable : (texts spec).find? isTooLarge = none := by
    refine List.find?_eq_none.2 fun text ht => ?_
    rw [texts, halves_of_undashed undashed] at ht
    have hm : text ∈ alternatives spec := by simpa [alternatives, fullPieces, pieces] using ht
    simp [small text hm]
  rw [parse_eq, readable]
  exact ⟨_, rfl⟩

/-! ## Selected descriptions -/

/-- Some test of a description is accepted. -/
def Selects (f : PatternFilter) (d : Description) : Prop :=
  ∃ t ∈ d.tests, f.acceptsName t.displayName

theorem shouldRun_iff (f : PatternFilter) (d : Description) :
    f.toFilter.shouldRun d ↔ f.Selects d := by
  simp [toFilter, Description.anyTest_eq, Selects]

end PatternFilter
end Testbench
