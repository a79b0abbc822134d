import Mathlib.Data.List.TakeWhile
import Testbench.Proofs.Filter
/-!
# What a filter text means

The meaning of a filter text, said of the text itself: it has globs between colons, those after its first
dash keep names out, and a glob fits a name from end to end, where a star stands for any run without a
line feed and a question mark for one character that is no line feed.

Main definitions: `Wildcard.Fits` and `PatternFilter.Admits`. Main statements:
`Wildcard.matches_ofText_iff`, and `PatternFilter.acceptsName_iff_admits` for the filter that is read.
-/
namespace Testbench

/-! ## Globs -/

namespace Wildcard

/-- Which texts a glob fits from end to end. -/
inductive Fits : List Char → List Char → Prop where
  | done : Fits [] []
  | star {glob run t} : '\n' ∉ run → Fits glob t → Fits ('*' :: glob) (run ++ t)
  | mark {glob c t} : c ≠ '\n' → Fits glob t → Fits ('?' :: glob) (c :: t)
  | self {glob c t} : c ≠ '*' → c ≠ '?' → Fits glob t → Fits (c :: glob) (c :: t)

/-- A run takes any characters but line feeds, and the pieces after it match the rest. -/
theorem matches_run_iff {p : Pattern} {t : List Char} :
    Matches (.run :: p) t ↔ ∃ run rest, t = run ++ rest ∧ '\n' ∉ run ∧ Matches p rest := by
  constructor
  · intro h
    induction t with
    | nil => exact ⟨[], [], rfl, List.not_mem_nil, matches_run_nil_iff.1 h⟩
    | cons c t ih =>
      rcases matches_run_cons_iff.1 h with h | ⟨hc, h⟩
      · exact ⟨[], _, rfl, List.not_mem_nil, h⟩
      · obtain ⟨run, rest, rfl, hrun, h⟩ := ih h
        exact ⟨c :: run, rest, rfl, by simp [(free_iff.1 hc).symm, hrun], h⟩
  · rintro ⟨run, rest, rfl, hrun, h⟩
    induction run with
    | nil => exact .skip h
    | cons c run ih =>
      obtain ⟨hc, hrun⟩ := not_or.1 (mt List.mem_cons.2 hrun)
      exact .more (free_iff.2 (Ne.symm hc)) (ih hrun)

theorem ofChar_self {c : Char} (hstar : c ≠ '*') (hmark : c ≠ '?') : Piece.ofChar c = .only c := by
  rw [Piece.ofChar, if_neg hstar, if_neg hmark]

theorem matches_of_fits {glob t : List Char} (h : Fits glob t) : Matches (Pattern.ofText glob) t := by
  induction h with
  | done => exact .done
  | star hrun _ ih => exact matches_run_iff.2 ⟨_, _, rfl, hrun, ih⟩
  | mark hc _ ih => exact .one (free_iff.2 hc) ih
  | self hstar hmark _ ih =>
    rw [Pattern.ofText, List.map_cons, ofChar_self hstar hmark]
    exact .only _ ih

theorem fits_of_matches {glob t : List Char} (h : Matches (Pattern.ofText glob) t) : Fits glob t := by
  induction glob generalizing t with
  | nil =>
    obtain rfl := matches_nil_iff.1 h
    exact .done
  | cons c glob ih =>
    rw [Pattern.ofText, List.map_cons] at h
    -- Each character has one piece; the piece tells which rules may have been used.
    by_cases hstar : c = '*'
    · obtain rfl := hstar
      obtain ⟨run, rest, rfl, hrun, h⟩ := matches_run_iff.1 h
      exact .star hrun (ih h)
    by_cases hmark : c = '?'
    · obtain rfl := hmark
      cases h with
      | one hc h => exact .mark (free_iff.1 hc) (ih h)
    · rw [ofChar_self hstar hmark] at h
      cases h with
      | only _ h => exact .self hstar hmark (ih h)

/-- The pattern of a glob matches what the glob fits. -/
theorem matches_ofText_iff {glob t : List Char} : Matches (Pattern.ofText glob) t ↔ Fits glob t :=
  ⟨fits_of_matches, matches_of_fits⟩

end Wildcard

/-! ## Filter texts -/

namespace PatternFilter
open Text Wildcard

/-- The globs of a list between colons; none of them is empty. -/
def globs (list : List Char) : List (List Char) := (list.splitOn ':').filter (· ≠ [])

/-- The globs that let names in: those before the first dash. -/
def lettingIn (spec : String) : List (List Char) := globs (spec.toList.takeWhile (· ≠ '-'))

/-- The globs that keep names out: those after the first dash. -/
def keepingOut (spec : String) : List (List Char) := globs (spec.toList.dropWhile (· ≠ '-')).tail

/-- The meaning of a filter text: some glob lets the name in, if there are any, and none keeps it out. -/
structure Admits (spec name : String) : Prop where
  letIn : lettingIn spec = [] ∨ ∃ glob ∈ lettingIn spec, Fits glob name.toList
  notKeptOut : ∀ glob ∈ keepingOut spec, ¬ Fits glob name.toList

theorem halves_eq (cs : List Char) :
    halves cs = (cs.takeWhile (· ≠ '-'), (cs.dropWhile (· ≠ '-')).tail) := by
  rw [halves]
  cases h : cutAt '-' cs with
  | none =>
    have undashed : ∀ c ∈ cs, decide (c ≠ '-') = true := fun c hc =>
      decide_eq_true fun e => cutAt_eq_none_iff.1 h (e ▸ hc)
    rw [List.takeWhile_eq_self_iff.2 undashed, List.dropWhile_eq_nil_iff.2 undashed]
    rfl
  | some ab =>
    obtain ⟨rfl, hdash⟩ := cutAt_eq_some h
    have undashed : ∀ c ∈ ab.1, decide (c ≠ '-') = true := fun c hc =>
      decide_eq_true fun e => hdash (e ▸ hc)
    rw [List.takeWhile_append_of_pos undashed, List.dropWhile_append_of_pos undashed]
    simp

theorem pieces_eq_splitOn (sep : Char) (cs : List Char) : pieces sep cs = cs.splitOn sep := by
  rw [List.splitOn_eq_splitOnP]
  induction cs with
  | nil => rfl
  | cons c cs ih =>
    rw [pieces, ih, List.splitOnP_cons_eq_if_modifyHead]
    obtain ⟨p, ps, hp⟩ := List.exists_cons_of_ne_nil (List.splitOnP_ne_nil (· == sep) cs)
    simp [hp]

theorem fullPieces_eq_globs (cs : List Char) : fullPieces ':' cs = globs cs := by
  rw [fullPieces, pieces_eq_splitOn, globs]
  exact List.filter_congr fun p _ => by cases p <;> rfl

theorem texts_eq (spec : String) : texts spec = lettingIn spec ++ keepingOut spec := by
  simp only [texts, halves_eq, fullPieces_eq_globs, lettingIn, keepingOut]

theorem isTooLarge_of_pattern? {glob : List Char} {p : Pattern} (h : pattern? glob = .ok p) :
    isTooLarge glob = false := by
  rw [pattern?] at h
  split at h
  · cases h
  · rename_i hsize
    simpa [isTooLarge] using hsize

theorem any_accepts_iff {list : List (List Char)} {t : List Char} :
    (list.map Pattern.ofText).any (accepts · t) ↔ ∃ glob ∈ list, Fits glob t := by
  simp only [List.any_map, List.any_eq_true, Function.comp_apply, accepts_iff, matches_ofText_iff]

/-- A text whose globs compile is read as a filter that accepts the names it is meant to admit. -/
theorem acceptsName_iff_admits {spec : String}
    (compile : ∀ glob ∈ lettingIn spec ++ keepingOut spec, ∃ p, pattern? glob = .ok p) :
    ∃ f, parse spec = .ok f ∧ ∀ name, f.acceptsName name ↔ Admits spec name := by
  have small : (texts spec).find? isTooLarge = none := by
    rw [texts_eq]
    refine List.find?_eq_none.2 fun glob hglob => ?_
    obtain ⟨p, hp⟩ := compile glob hglob
    simp [isTooLarge_of_pattern? hp]
  simp only [parse_eq, small, halves_eq, fullPieces_eq_globs]
  refine ⟨_, rfl, fun name => ?_⟩
  have letIn : ((lettingIn spec).map Pattern.ofText).isEmpty ∨
      ((lettingIn spec).map Pattern.ofText).any (accepts · name.toList) ↔
        lettingIn spec = [] ∨ ∃ glob ∈ lettingIn spec, Fits glob name.toList :=
    or_congr (by simp) any_accepts_iff
  have keptOut : ((keepingOut spec).map Pattern.ofText).any (accepts · name.toList) = false ↔
      ∀ glob ∈ keepingOut spec, ¬ Fits glob name.toList := by
    simp only [← Bool.not_eq_true, any_accepts_iff, not_exists, not_and]
  rw [acceptsName, Bool.and_eq_true, Bool.or_eq_true, Bool.not_eq_true']
  exact (and_congr letIn keptOut).trans ⟨fun h => ⟨h.1, h.2⟩, fun h => ⟨h.letIn, h.notKeptOut⟩⟩

/-- There are empty globs on both sides, later dashes belong to globs that keep names out, brackets and
dots stand for themselves, and no wildcard takes a line feed. -/
theorem acceptsName_iff_admits_awkward :
    let spec := "T.?*:W[x].*::-W[x].-*:*.c-:"
    (∀ glob ∈ lettingIn spec ++ keepingOut spec, ∃ p, pattern? glob = .ok p) ∧
      Admits spec "W[x].a-b" ∧ ¬ Admits spec "W[x].-a" ∧ ¬ Admits spec "Wx.a" ∧
      Admits spec "T.c" ∧ ¬ Admits spec "T.c-" ∧ ¬ Admits spec "T.c\n" := by
  intro spec
  have compile : ∀ glob ∈ lettingIn spec ++ keepingOut spec, ∃ p, pattern? glob = .ok p := by
    have globs : lettingIn spec ++ keepingOut spec =
        ["T.?*".toList, "W[x].*".toList, "W[x].-*".toList, "*.c-".toList] := by decide +kernel
    rw [globs]
    intro glob h
    simp only [List.mem_cons, List.not_mem_nil, or_false] at h
    rcases h with rfl | rfl | rfl | rfl <;> exact ⟨_, rfl⟩
  let f : PatternFilter := ⟨"T.?*:W[x].*::-W[x].-*:*.c-:", ["T.?*".toList, "W[x].*".toList].map Pattern.ofText,
    ["W[x].-*".toList, "*.c-".toList].map Pattern.ofText⟩
  have same : parse "T.?*:W[x].*::-W[x].-*:*.c-:" = .ok f := rfl
  obtain ⟨g, hg, admits⟩ := acceptsName_iff_admits compile
  obtain rfl := Except.ok.inj (same.symm.trans hg)
  simp only [← admits]
  exact ⟨compile, by decide +kernel⟩

end PatternFilter
end Testbench
