import Mathlib.Logic.Basic
import Testbench.CommandLine.Options
/-!
# What an argument does

An argument that is not refused makes one of four moves: it is the value that is due, a switch without a
value, a switch whose value becomes due, or a switch with its value. Arguments that do not end the switches
are read one after the other, and a switch with a value is met only by an argument that names it.

Main definitions: `Argument.Names`, `State.Moves`, `State.Lacks`. Main statements: `State.moves_of_step`,
`State.run_append`, `State.Lacks.of_steps`.
-/
namespace Testbench.CommandLine

/-! ## Arguments that are text -/

namespace Argument

/-- A text as an argument. -/
def ofText (s : String) : Argument := s.toUTF8

theorem bytes_inj {a b : Argument} : a.bytes = b.bytes ↔ a = b := by
  constructor
  · intro h
    exact ByteArray.ext (Array.toList_inj.1 h)
  · exact congrArg bytes

@[simp] theorem bytes_ofBytes (bs : List UInt8) : (ofBytes bs).bytes = bs := by
  simp [bytes, ofBytes]

@[simp] theorem ofBytes_bytes (a : Argument) : ofBytes a.bytes = a := rfl

@[simp] theorem bytes_ofText_append (s t : String) :
    (ofText (s ++ t)).bytes = (ofText s).bytes ++ (ofText t).bytes := by
  simp [ofText, bytes, String.toByteArray_append]

@[simp] theorem bytes_dashes : (ofText "--").bytes = [45, 45] := rfl

@[simp] theorem bytes_equals : (ofText "=").bytes = [61] := rfl

@[simp] theorem text?_ofText (s : String) : (ofText s).text? = some s := Text.fromUTF8?_toUTF8 s

theorem eq_ofText_of_text? {a : Argument} {s : String} (h : a.text? = some s) : a = ofText s := by
  unfold text? String.fromUTF8? at h
  split at h
  · cases h
    rfl
  · cases h

theorem bytes_ofText_of_text? {bs : List UInt8} {s : String} (h : (ofBytes bs).text? = some s) :
    (ofText s).bytes = bs := by
  rw [← eq_ofText_of_text? h, bytes_ofBytes]

theorem isEscape_iff {a : Argument} : a.isEscape = true ↔ a = ofText "--" := by
  rw [isEscape, beq_iff_eq, ← bytes_inj]
  rfl

theorem isEscape_dashes {rest : String} (h : rest ≠ "") :
    (ofText ("--" ++ rest)).isEscape = false := by
  have given : (ofText rest).bytes ≠ [] := by
    intro nothing
    exact h (String.toByteArray_inj.1 ((bytes_inj (b := ofText "")).1 nothing))
  simpa [isEscape, dash] using given

@[simp] theorem looksLikeSwitch_dashes (rest : String) :
    (ofText ("--" ++ rest)).looksLikeSwitch = true := by
  simp [looksLikeSwitch, dash]

/-- An argument names a switch by a long name, alone or with a value behind an equals sign. -/
def Names (a : Argument) (s : Switch) : Prop :=
  ∃ name, Switch.ofName? name = some s ∧
    (a = ofText ("--" ++ name) ∨ (ofText ("--" ++ name ++ "=")).bytes <+: a.bytes)

end Argument

theorem Switch.value_of_letter {s : Switch} {c : Char} (h : s.letter = some c) :
    s.value = none := by
  cases s <;> simp_all [letter, value]

/-! ## One argument -/

namespace State
variable {st st' settled : State} {program : String} {a : Argument} {s : Switch}

theorem accept_eq_ok_iff {value : Argument} :
    st.accept s value = .ok st' ↔ s ∉ st.seen ∧ ∃ o, withValue st.options s value = .ok o ∧
      st' = { st with options := o, seen := st.seen ++ [s] } := by
  unfold accept
  split
  · simp_all
  · cases withValue st.options s value <;> simp_all [Except.map, eq_comm]

theorem settle_cases (h : st.settle = .ok settled) :
    (st.waiting = none ∧ settled = st) ∨
      ∃ s value, st.waiting = some (s, some value) ∧
        accept { st with waiting := none } s value = .ok settled := by
  unfold settle at h
  split at h
  · rename_i idle
    exact .inl ⟨idle, (Except.ok.inj h).symm⟩
  · cases h
  · rename_i s value waits
    exact .inr ⟨s, value, waits, h⟩

theorem waiting_of_due (due : st.due = some s) : st.waiting = some (s, none) := by
  unfold State.due at due
  split at due <;> simp_all

theorem waiting_of_settle (settles : st.settle = .ok settled) : settled.waiting = none := by
  rcases settle_cases settles with ⟨idle, rfl⟩ | ⟨s, value, -, accepts⟩
  · exact idle
  · obtain ⟨-, o, -, rfl⟩ := accept_eq_ok_iff.1 accepts
    rfl

/-- No value is due where everything can be settled. -/
theorem due_of_settle (settles : st.settle = .ok settled) : st.due = none := by
  cases due : st.due with
  | none => rfl
  | some s =>
    rw [settle, waiting_of_due due] at settles
    cases settles

/-- What an argument does if it is not refused. Whatever waits is settled before a switch. -/
inductive Moves (a : Argument) : State → State → Prop
  | value {st : State} {s : Switch} (due : st.due = some s) :
    Moves a st { st with waiting := some (s, some a) }
  | flag {st settled : State} {s : Switch} (settles : st.settle = .ok settled)
    (bare : s.value = none) (unseen : s ∉ settled.seen) :
    Moves a st { settled with
      options := withFlag settled.options s, seen := settled.seen ++ [s] }
  | opening {st settled : State} {s : Switch} (settles : st.settle = .ok settled)
    (named : a.Names s) : Moves a st { settled with waiting := some (s, none) }
  | attached {st settled st' : State} {s : Switch} {given : Argument}
    (settles : st.settle = .ok settled) (named : a.Names s)
    (accepts : settled.accept s given = .ok st') : Moves a st st'

theorem moves_of_flag (bare : s.value = none) (h : st.flag program s = .ok st') :
    Moves a st st' := by
  unfold flag at h
  cases settles : st.settle with
  | error r => simp [settles] at h
  | ok settled =>
    rw [settles] at h
    dsimp only at h
    split at h
    · cases h
    · cases h
    · split at h
      · cases h
      · rename_i unseen
        cases h
        exact .flag settles bare (by simpa using unseen)

theorem moves_of_long {name : Argument} {attached : Option Argument}
    (named : ∀ n s, name.text? = some n → Switch.ofName? n = some s → a.Names s)
    (h : st.long program name attached = .ok st') : Moves a st st' := by
  unfold long at h
  split at h
  · cases h
  · rename_i s known
    obtain ⟨n, hn, hs⟩ := Option.bind_eq_some_iff.1 known
    have hnamed := named n s hn hs
    split at h
    · rename_i bare
      exact moves_of_flag bare h
    · cases h
    · cases settles : st.settle with
      | error r => simp [settles, Except.map] at h
      | ok settled =>
        rw [settles] at h
        cases h
        exact .opening settles hnamed
    · cases settles : st.settle with
      | error r => simp [settles, Except.bind] at h
      | ok settled =>
        rw [settles] at h
        exact .attached settles hnamed h

theorem moves_of_short {letters : List UInt8} (h : st.short program letters = .ok st') :
    Moves a st st' := by
  unfold short at h
  dsimp only at h
  split at h
  · split at h
    · rename_i s known
      exact moves_of_flag (Switch.value_of_letter (by simpa using List.find?_some known)) h
    · cases h
  · cases h

theorem moves_of_switch (dashed : a.looksLikeSwitch = true)
    (h : st.switch program a = .ok st') : Moves a st st' := by
  unfold switch at h
  split at h
  · rename_i first rest spelled
    obtain rfl : first = Argument.dash := by simpa [Argument.looksLikeSwitch, spelled] using dashed
    split at h
    · rename_i name value cut
      refine moves_of_long (fun n s hn hs => ⟨n, hs, .inr ⟨value, ?_⟩⟩) h
      have pieces := (Text.cutAt_eq_some cut).1
      simp [spelled, pieces, Argument.dash, Argument.bytes_ofText_of_text? hn]
    · refine moves_of_long (fun n s hn hs => ⟨n, hs, .inl (Argument.bytes_inj.1 ?_)⟩) h
      simp [spelled, Argument.dash, Argument.bytes_ofText_of_text? hn]
  · exact moves_of_short h
  · rename_i empty
    simp [Argument.looksLikeSwitch, empty] at dashed

/-- An argument that is not refused makes one of the moves. -/
theorem moves_of_step (h : st.step program a = .ok st') : Moves a st st' := by
  unfold step at h
  split at h
  · rename_i s due
    split at h
    · cases h
      exact .value due
    · exact moves_of_switch (by grind) h
  · split at h
    · rename_i dashed
      exact moves_of_switch dashed h
    · cases h

/-- What looks like a switch is taken for one where no value is due. -/
theorem step_of_settle (settles : st.settle = .ok settled) (dashed : a.looksLikeSwitch = true) :
    st.step program a = st.switch program a := by
  rw [step, due_of_settle settles, if_pos dashed]

/-! ## Many arguments -/

/-- The state after arguments none of which ends the switches. -/
def steps (program : String) (st : State) (arguments : List Argument) : Except Refusal State :=
  arguments.foldlM (fun st a => st.step program a) st

theorem run_cons (goes_on : st.escapes a = false) (rest : List Argument) :
    run program st (a :: rest) = (st.step program a).bind fun st' => run program st' rest := by
  rw [run.eq_def]
  simp only [goes_on, Bool.false_eq_true, if_false]
  cases st.step program a <;> rfl

/-- Arguments without an escape are read one by one, and then the others from where they lead. -/
theorem run_append (program : String) (st : State) {before : List Argument}
    (unescaped : .ofText "--" ∉ before) (after : List Argument) :
    run program st (before ++ after) =
      (steps program st before).bind fun st' => run program st' after := by
  induction before generalizing st with
  | nil => rfl
  | cons a before ih =>
    obtain ⟨ha, hbefore⟩ := not_or.1 (mt List.mem_cons.2 unescaped)
    have goes_on : st.escapes a = false := by
      have := mt Argument.isEscape_iff.1 (Ne.symm ha)
      simp [escapes, this]
    rw [List.cons_append, run_cons goes_on, steps, List.foldlM_cons]
    cases st.step program a with
    | error r => rfl
    | ok st' => exact ih st' hbefore

/-- A switch was not met: it is not among those seen, and it does not wait. -/
structure Lacks (st : State) (s : Switch) : Prop where
  unseen : s ∉ st.seen
  idle : ∀ value, st.waiting ≠ some (s, value)

theorem lacks_start (s : Switch) : start.Lacks s := ⟨List.not_mem_nil, by simp [start]⟩

theorem Lacks.settle (h : st.Lacks s) (settles : st.settle = .ok settled) : settled.Lacks s := by
  rcases settle_cases settles with ⟨-, rfl⟩ | ⟨s', value, waits, accepts⟩
  · exact h
  · obtain ⟨-, o, -, rfl⟩ := accept_eq_ok_iff.1 accepts
    have other : s ≠ s' := fun same => h.idle _ (same ▸ waits)
    exact ⟨by simp [h.unseen, other], by simp⟩

/-- A switch with a value is met only by an argument that names it. -/
theorem Lacks.of_moves (h : st.Lacks s) (valued : s.value ≠ none) (unnamed : ¬ a.Names s)
    (moves : Moves a st st') : st'.Lacks s := by
  cases moves with
  | value due =>
    refine ⟨h.unseen, ?_⟩
    rintro value ⟨⟩
    exact h.idle none (waiting_of_due due)
  | @flag settled s' settles bare unseen =>
    have other : s ≠ s' := by grind
    have h := h.settle settles
    exact ⟨by simp [h.unseen, other], h.idle⟩
  | @opening settled s' settles named =>
    have other : s' ≠ s := by grind
    exact ⟨(h.settle settles).unseen, by simp [other]⟩
  | @attached settled _ s' given settles named accepts =>
    have other : s ≠ s' := by grind
    have h := h.settle settles
    obtain ⟨-, o, -, rfl⟩ := accept_eq_ok_iff.1 accepts
    exact ⟨by simp [h.unseen, other], h.idle⟩

theorem Lacks.of_steps {arguments : List Argument} (h : st.Lacks s) (valued : s.value ≠ none)
    (unnamed : ∀ a ∈ arguments, ¬ a.Names s) (leads : steps program st arguments = .ok st') :
    st'.Lacks s := by
  induction arguments generalizing st with
  | nil =>
    cases leads
    exact h
  | cons a arguments ih =>
    rw [steps, List.foldlM_cons] at leads
    cases first : st.step program a with
    | error r =>
      rw [first] at leads
      cases leads
    | ok st₁ =>
      rw [first] at leads
      obtain ⟨ha, harguments⟩ := List.forall_mem_cons.1 unnamed
      exact ih (h.of_moves valued ha (moves_of_step first)) harguments leads

end State

/-! ## Command lines -/

/-- A command line is accepted if it is read to its end and none of its switches excludes another. -/
theorem ofArguments_eq_ok_iff {program : Argument} {arguments : List Argument} {o : Options} :
    Options.ofArguments (program :: arguments) = .ok o ↔
      ∃ st, State.run (programName program) .start arguments = .ok st ∧
        exclusion st.seen = none ∧ st.options = o := by
  rw [Options.ofArguments]
  cases State.run (programName program) .start arguments with
  | error r => simp
  | ok st => cases hx : exclusion st.seen <;> simp [hx]

theorem exclusion_eq_none_iff {seen : List Switch} :
    exclusion seen = none ↔ ∀ s ∈ seen, ∀ other ∈ seen, s.excludes other = false := by
  rw [exclusion, List.findSome?_eq_none_iff]
  refine forall₂_congr fun s _ => ?_
  cases others : seen.filter s.excludes <;> grind [List.filter_eq_nil_iff]

end Testbench.CommandLine
