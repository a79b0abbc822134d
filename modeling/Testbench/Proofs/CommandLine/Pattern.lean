import Mathlib.Data.List.Basic
import Testbench.Proofs.CommandLine.Moves
/-!
# Any pattern survives the command line

A pattern can be asked for at the end of every accepted command line that does not ask for one yet, by either
name, in two arguments or in one. It is taken as it is: a text that looks like a switch, or that would end the
switches, is no exception.

Main definitions: `Argument.AsksForPattern`, `patternArguments`. Main statement:
`ofArguments_append_pattern`.
-/
namespace Testbench.CommandLine

/-- What stands before a pattern on a command line. -/
def patternNames : List String := ["--gtest-filter", "--gtest_filter"]

/-- An argument asks for a pattern: the next argument, or what stands behind an equals sign. -/
def Argument.AsksForPattern (a : Argument) : Prop :=
  ∃ name ∈ patternNames, a = ofText name ∨ (ofText (name ++ "=")).bytes <+: a.bytes

instance (a : Argument) : Decidable a.AsksForPattern :=
  inferInstanceAs
    (Decidable (∃ name ∈ patternNames, a = .ofText name ∨ (Argument.ofText (name ++ "=")).bytes <+: a.bytes))

/-- The ways to ask for a pattern. -/
def patternArguments (s : String) : List (List Argument) :=
  patternNames.flatMap fun name => [[.ofText name, .ofText s], [.ofText (name ++ "=" ++ s)]]

/-! ## The names of the switch -/

theorem ofName?_eq_pattern_iff {name : String} :
    Switch.ofName? name = some .pattern ↔ name = "gtest-filter" ∨ name = "gtest_filter" := by
  constructor
  · intro h
    have met := List.find?_some h
    simp only [Switch.name, Switch.otherName, Bool.or_eq_true, beq_iff_eq, Option.some.injEq] at met
    exact met.imp Eq.symm Eq.symm
  · rintro (rfl | rfl) <;> rfl

theorem asksForPattern_of_names {a : Argument} (h : a.Names .pattern) : a.AsksForPattern := by
  obtain ⟨name, hname, ha⟩ := h
  refine ⟨"--" ++ name, ?_, ha⟩
  rcases ofName?_eq_pattern_iff.1 hname with rfl | rfl <;> decide

theorem dashed_of_mem_patternNames {name : String} (h : name ∈ patternNames) :
    ∃ bare, name = "--" ++ bare ∧ bare ≠ "" ∧ Switch.ofName? bare = some .pattern ∧
      61 ∉ (Argument.ofText bare).bytes := by
  rcases List.mem_pair.1 h with rfl | rfl
  · exact ⟨"gtest-filter", by decide, by decide, rfl, by decide⟩
  · exact ⟨"gtest_filter", by decide, by decide, rfl, by decide⟩

/-! ## From where everything can be settled -/

namespace State
variable {st settled : State} {program name : String}

/-- A state with one more pattern. -/
def withPattern (st : State) (s : String) : State :=
  { st with options := { st.options with pattern := some s }, seen := st.seen ++ [.pattern] }

theorem accept_pattern (unseen : .pattern ∉ st.seen) (s : String) :
    st.accept .pattern (.ofText s) = .ok (st.withPattern s) := by
  refine accept_eq_ok_iff.2 ⟨unseen, { st.options with pattern := some s }, ?_, rfl⟩
  simp [withValue, textOf, Except.map]

theorem switch_name (undivided : 61 ∉ (Argument.ofText name).bytes) :
    st.switch program (.ofText ("--" ++ name)) = st.long program (.ofText name) none := by
  have cut := Text.cutAt_eq_none_iff.2 undivided
  simp [switch, cut]

theorem switch_attached (undivided : 61 ∉ (Argument.ofText name).bytes) (s : String) :
    st.switch program (.ofText ("--" ++ name ++ "=" ++ s)) =
      st.long program (.ofText name) (some (.ofText s)) := by
  have cut := Text.cutAt_append (b := (Argument.ofText s).bytes) undivided
  simp [switch, cut]

theorem long_pattern (settles : st.settle = .ok settled)
    (named : Switch.ofName? name = some .pattern) :
    st.long program (.ofText name) none = .ok { settled with waiting := some (.pattern, none) } := by
  simp [long, named, Switch.value, settles, Except.map]

theorem long_pattern_attached (settles : st.settle = .ok settled)
    (named : Switch.ofName? name = some .pattern) (value : Argument) :
    st.long program (.ofText name) (some value) = settled.accept .pattern value := by
  simp [long, named, Switch.value, settles, Except.bind]

/-- Whatever comes when a pattern is due is taken for the pattern. -/
theorem run_due_pattern (idle : st.waiting = none) (unseen : .pattern ∉ st.seen) (s : String) :
    run program { st with waiting := some (.pattern, none) } [.ofText s] =
      .ok (st.withPattern s) := by
  let due : State := { st with waiting := some (.pattern, none) }
  have goes_on : due.escapes (.ofText s) = false := by
    simp [due, escapes, State.due, Switch.takesAnything]
  have taken : due.step program (.ofText s) =
      .ok { st with waiting := some (.pattern, some (.ofText s)) } := rfl
  have settled : { st with waiting := none } = st := by rw [← idle]
  rw [run_cons goes_on, taken, Except.bind, run]
  simp only [settle, settled]
  exact accept_pattern unseen s

theorem run_patternArguments (settles : st.settle = .ok settled) (unseen : .pattern ∉ settled.seen)
    (s : String) {asked : List Argument} (asks : asked ∈ patternArguments s) :
    run program st asked = .ok (settled.withPattern s) := by
  obtain ⟨name, hname, asks⟩ := List.mem_flatMap.1 asks
  obtain ⟨bare, rfl, hbare, named, undivided⟩ := dashed_of_mem_patternNames hname
  have idle := waiting_of_settle settles
  rcases List.mem_pair.1 asks with rfl | rfl
  · have goes_on : st.escapes (.ofText ("--" ++ bare)) = false := by
      rw [escapes, Argument.isEscape_dashes hbare, Bool.false_and]
    rw [run_cons goes_on, step_of_settle settles (Argument.looksLikeSwitch_dashes _),
      switch_name undivided, long_pattern settles named, Except.bind]
    exact run_due_pattern idle unseen s
  · have joined : "--" ++ bare ++ "=" ++ s = "--" ++ (bare ++ "=" ++ s) := by
      simp only [String.append_assoc]
    have goes_on : st.escapes (.ofText ("--" ++ bare ++ "=" ++ s)) = false := by
      rw [escapes, joined, Argument.isEscape_dashes (by simp), Bool.false_and]
    have dashed : (Argument.ofText ("--" ++ bare ++ "=" ++ s)).looksLikeSwitch = true := by
      rw [joined, Argument.looksLikeSwitch_dashes]
    rw [run_cons goes_on, step_of_settle settles dashed, switch_attached undivided,
      long_pattern_attached settles named, accept_pattern unseen, Except.bind, run]
    simp [settle, withPattern, idle]

end State

/-- A pattern can be used together with every other switch. -/
theorem exclusion_withPattern {st : State} (h : exclusion st.seen = none) (s : String) :
    exclusion (st.withPattern s).seen = none := by
  have excluded_by_none (s : Switch) : s.excludes .pattern = false := by cases s <;> rfl
  have excludes_none (s : Switch) : Switch.pattern.excludes s = false := by cases s <;> rfl
  rw [exclusion_eq_none_iff] at h ⊢
  grind [State.withPattern]

/-- Every text can be asked for as the pattern at the end of an accepted command line that has neither a
pattern nor an escape, and nothing else about the options changes. -/
theorem ofArguments_append_pattern {program : Argument} {arguments : List Argument} {o : Options}
    (accepted : Options.ofArguments (program :: arguments) = .ok o)
    (unasked : ∀ a ∈ arguments, ¬ a.AsksForPattern) (unescaped : .ofText "--" ∉ arguments) :
    ∀ s, ∀ asked ∈ patternArguments s,
      Options.ofArguments (program :: (arguments ++ asked)) = .ok { o with pattern := some s } := by
  intro s asked asks
  obtain ⟨settled, reads, compatible, rfl⟩ := ofArguments_eq_ok_iff.1 accepted
  have unasked := fun a ha => mt asksForPattern_of_names (unasked a ha)
  -- The arguments lead to a state from which everything can be settled.
  have whole := State.run_append (programName program) .start unescaped []
  rw [List.append_nil, reads] at whole
  cases leads : State.steps (programName program) .start arguments with
  | error r =>
    rw [leads] at whole
    cases whole
  | ok st =>
    rw [leads] at whole
    have settles : st.settle = .ok settled := whole.symm
    have lacks := (State.lacks_start .pattern).of_steps (by decide) unasked leads
    have unseen := (lacks.settle settles).unseen
    refine ofArguments_eq_ok_iff.2
      ⟨settled.withPattern s, ?_, exclusion_withPattern compatible s, rfl⟩
    rw [State.run_append _ _ unescaped, leads]
    exact State.run_patternArguments settles unseen s asks

/-- The values of other switches may look like a request for a pattern; the pattern may be an escape or a
request for help. -/
theorem ofArguments_append_pattern_awkward :
    let arguments := ["--json-results-file", "-", "--log-filter=--gtest-filter=x", "--fail-fast"].map
      Argument.ofText
    let o : Options :=
      ⟨⟨false, false, none, some "--gtest-filter=x"⟩, none, some (Argument.ofText "-"), true, false⟩
    Options.ofArguments (.ofText "tests" :: arguments) = .ok o ∧
      (∀ a ∈ arguments, ¬ a.AsksForPattern) ∧ .ofText "--" ∉ arguments ∧
      Options.ofArguments (.ofText "tests" :: (arguments ++ [.ofText "--gtest-filter", .ofText "--"])) =
        .ok { o with pattern := some "--" } ∧
      Options.ofArguments (.ofText "tests" :: (arguments ++ [.ofText "--gtest_filter=--help"])) =
        .ok { o with pattern := some "--help" } := by
  intro arguments o
  have accepted : Options.ofArguments (.ofText "tests" :: arguments) = .ok o := rfl
  have unasked : ∀ a ∈ arguments, ¬ a.AsksForPattern := by decide +kernel
  have others : ∀ a ∈ arguments, a ≠ .ofText "--" := by decide +kernel
  have unescaped : .ofText "--" ∉ arguments := fun h => others _ h rfl
  have survives := ofArguments_append_pattern accepted unasked unescaped
  exact ⟨accepted, unasked, unescaped, survives "--" _ (by simp [patternArguments, patternNames]),
    survives "--help" _ (by simp [patternArguments, patternNames])⟩

end Testbench.CommandLine
