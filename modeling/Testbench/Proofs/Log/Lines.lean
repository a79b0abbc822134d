import Mathlib.Data.List.Forall2
import Testbench.Proofs.Log.Words
/-!
# Fields cannot forge lines

Behind its message, a line holds no blank but the space, and outside of quotes a space stands only between two
fields. So no value can begin a line of its own or pass for another field.

Main definition: `separator`. Main statement: `fields_stay_apart`.
-/
namespace Testbench.Log
open Text

/-! ## The parts of a line -/

/-- What stands between a message and the fields. -/
def separator (message : String) (fields : List (String × String)) : List Char :=
  if message.isEmpty || fields.isEmpty then [] else [' ']

/-- A line is its message, a separator, and its fields. -/
theorem toList_line (e : Event) :
    let message := e.message.getD ""
    e.line.toList = message.toList ++ separator message e.fields ++ fieldsPart message e.line := by
  intro message
  change (e.fields.foldl Event.withField message).toList = _ ++ _ ++
    fieldsPart message (e.fields.foldl Event.withField message)
  cases e.fields with
  | nil => simp [separator, fieldsPart_self]
  | cons field fields =>
    by_cases begun : message = ""
    · simp [begun, separator, fieldsPart]
    · rw [toList_foldl_withField begun, fieldsPart_foldl_withField]
      simp [separator, begun]

theorem intercalate_shownField (field : String × String) (fields : List (String × String)) :
    [' '].intercalate ((field :: fields).map shownField) =
      shownField field ++ fields.flatMap fun field => ' ' :: shownField field := by
  induction fields generalizing field with
  | nil => simp [List.intercalate_singleton]
  | cons next fields ih =>
    have hnext := ih next
    rw [List.map_cons] at hnext
    simp [List.intercalate_cons_cons, hnext]

theorem fieldsPart_line (e : Event) :
    fieldsPart (e.message.getD "") e.line = [' '].intercalate (e.fields.map shownField) := by
  rw [Event.line]
  cases e.fields with
  | nil =>
    rw [List.foldl_nil, fieldsPart_self]
    rfl
  | cons field fields => rw [fieldsPart_foldl_withField, intercalate_shownField]

/-! ## Blanks -/

theorem eq_space_of_mem_shownValue {value : String} {c : Char}
    (h : c ∈ (Event.shownValue value).toList) (blank : isBlank c = true) : c = ' ' := by
  rw [Event.shownValue] at h
  split at h
  · exact eq_space_of_mem_quoted h blank
  · rename_i bare
    have plain : IsPlain value := isPlain_of_not_needsQuotes (by simpa using bare)
    simp [(plain c h).1] at blank

theorem eq_space_of_mem_shownField {field : String × String} (plain : IsPlain field.1) {c : Char}
    (h : c ∈ shownField field) (blank : isBlank c = true) : c = ' ' := by
  rcases List.mem_append.1 h with hname | hvalue
  · simp [(plain c hname).1] at blank
  · rcases List.mem_cons.1 hvalue with rfl | hvalue
    · cases blank
    · exact eq_space_of_mem_shownValue hvalue blank

theorem eq_space_of_mem_intercalate {pieces : List (List Char)}
    (h : ∀ piece ∈ pieces, ∀ c ∈ piece, isBlank c = true → c = ' ') {c : Char}
    (hc : c ∈ [' '].intercalate pieces) (blank : isBlank c = true) : c = ' ' := by
  induction pieces with
  | nil => cases hc
  | cons piece pieces ih =>
    obtain ⟨hpiece, hpieces⟩ := List.forall_mem_cons.1 h
    cases pieces with
    | nil => grind [List.intercalate_singleton]
    | cons next pieces => grind [List.intercalate_cons_cons]

/-- Behind the message of a line and the separator, the only blank is the space; cutting there at the spaces
outside of quotes gives one word for each field, which begins with the name of the field and an equals
sign. -/
theorem fields_stay_apart (e : Event) (plain : ∀ field ∈ e.fields, IsPlain field.1) :
    let message := e.message.getD ""
    let part := fieldsPart message e.line
    e.line.toList = message.toList ++ separator message e.fields ++ part ∧
      (∀ c ∈ part, isBlank c = true → c = ' ') ∧
      [' '].intercalate (words part) = part ∧
      List.Forall₂ (fun field word => field.1.toList ++ ['='] <+: word) e.fields (words part) := by
  intro message part
  have hwords : words part = e.fields.map shownField := words_fieldsPart e plain
  have hpart : part = [' '].intercalate (e.fields.map shownField) := fieldsPart_line e
  refine ⟨toList_line e, ?_, by rw [hwords, hpart], ?_⟩
  · intro c hc blank
    rw [hpart] at hc
    refine eq_space_of_mem_intercalate ?_ hc blank
    simp only [List.forall_mem_map]
    intro field hfield c
    exact eq_space_of_mem_shownField (plain field hfield)
  · rw [hwords, List.forall₂_map_right_iff, List.forall₂_same]
    intro field _
    exact ⟨(Event.shownValue field.2).toList, by simp [shownField]⟩

/-- Values that look like a closing quote with a new line or a further field behind it stay what they are. -/
theorem fields_stay_apart_disguised :
    let fields := [("a", "1\" \n b=2"), ("c", "\u2028d=3\u0085"), ("e", "\\"), ("f", "")]
    let e : Event := ⟨.warn, "demo", some "done\n", fields⟩
    let part := fieldsPart "done\n" e.line
    (∀ field ∈ e.fields, IsPlain field.1) ∧ e.line.toList = "done\n ".toList ++ part ∧
      (∀ c ∈ part, isBlank c = true → c = ' ') ∧
      words part = ["a=\"1\\\" \\n b=2\"", "c=\"\\u\x7b2028\x7dd=3\\u\x7b85\x7d\"", "e=\\", "f="].map
        String.toList := by
  intro fields e part
  have plain : ∀ field ∈ e.fields, IsPlain field.1 := by decide +kernel
  have lead : "done\n".toList ++ separator "done\n" fields = "done\n ".toList := by decide +kernel
  obtain ⟨line, blanks, -, -⟩ := fields_stay_apart e plain
  exact ⟨plain, line.trans (congrArg (· ++ part) lead), blanks, by decide +kernel⟩

end Testbench.Log
