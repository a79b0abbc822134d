import Testbench.Proofs.Log.Words
import Testbench.Text.Pieces
/-!
# Fields are read back from a line

A word of a line is a field: what stands before its first equals sign is the name, what stands after it
is the value, quoted or bare. With the message, a line tells which fields it was made of, if their names
need no quotes.

Main definition: `readFields`. Main statements: `readField_shownField` and `readFields_line`.
-/
namespace Testbench.Log
open Text

/-- The value that a text shows; it is quoted if it begins with a quote. -/
def readValue (cs : List Char) : Option (List Char) :=
  if cs.head? = some '"' then unquote? cs else some cs

/-- The name and the value that a word shows. -/
def readField (word : List Char) : Option (String × String) :=
  (cutAt '=' word).bind fun (name, value) =>
    (readValue value).map fun value => (String.ofList name, String.ofList value)

/-- The fields that a line with that message shows, if it shows nothing else. -/
def readFields (message : Option String) (line : String) : Option (List (String × String)) :=
  (words (fieldsPart (message.getD "") line)).mapM readField

theorem readValue_shownValue (value : String) :
    readValue (Event.shownValue value).toList = some value.toList := by
  rw [Event.shownValue]
  split
  · have opened : (quoted value).toList.head? = some '"' := by simp [quoted]
    rw [readValue, if_pos opened, unquote?_quoted]
  · rename_i bare
    have plain : IsPlain value := isPlain_of_not_needsQuotes (by simpa using bare)
    rw [readValue, if_neg]
    intro opened
    exact (plain '"' (List.mem_of_head? opened)).2.1 rfl

theorem readField_shownField {field : String × String} (h : IsPlain field.1) :
    readField (shownField field) = some field := by
  have cut : cutAt '=' (shownField field) =
      some (field.1.toList, (Event.shownValue field.2).toList) :=
    cutAt_append fun hc => (h '=' hc).2.2 rfl
  rw [readField, cut]
  simp [readValue_shownValue]

theorem mapM_readField {fields : List (String × String)} (h : ∀ field ∈ fields, IsPlain field.1) :
    (fields.map shownField).mapM readField = some fields := by
  induction fields with
  | nil => rfl
  | cons field fields ih =>
    obtain ⟨hfield, hfields⟩ := List.forall_mem_cons.1 h
    rw [List.map_cons, List.mapM_cons, readField_shownField hfield, ih hfields]
    rfl

/-- The fields of an event are read back from its line and its message, so events with one message and
different fields have different lines. -/
theorem readFields_line (e : Event) (plain : ∀ field ∈ e.fields, IsPlain field.1) :
    readFields e.message e.line = some e.fields ∧
      ∀ e' : Event, (∀ field ∈ e'.fields, IsPlain field.1) → e'.message = e.message →
        e'.fields ≠ e.fields → e'.line ≠ e.line := by
  have back (e : Event) (plain : ∀ field ∈ e.fields, IsPlain field.1) :
      readFields e.message e.line = some e.fields := by
    rw [readFields, words_fieldsPart e plain, mapM_readField plain]
  refine ⟨back e plain, fun e' plain' message fields line => fields ?_⟩
  have same := back e' plain'
  rw [message, line, back e plain] at same
  exact (Option.some.inj same).symm

/-- No message sets off the first field, values are empty, end in a backslash, hold controls or look like
further fields; the line of an event that really has these fields is another one. -/
theorem readFields_line_awkward :
    let fields := [("a", ""), ("b", "\\"), ("c", "\" d=\"1"), ("e", "\t\x00\u2028"), ("f", "1 g=2")]
    let e : Event := ⟨.info, "demo", none, fields⟩
    let e' : Event := ⟨.info, "demo", none, fields.take 4 ++ [("f", "1"), ("g", "2")]⟩
    (∀ field ∈ e.fields, IsPlain field.1) ∧ (∀ field ∈ e'.fields, IsPlain field.1) ∧
      e.line = "a= b=\\ c=\"\\\" d=\\\"1\" e=\"\\t\\0\\u\x7b2028\x7d\" f=\"1 g=2\"" ∧
      readFields none e.line = some fields ∧ e'.line ≠ e.line := by
  intro fields e e'
  have plain : ∀ field ∈ e.fields, IsPlain field.1 := by decide +kernel
  have plain' : ∀ field ∈ e'.fields, IsPlain field.1 := by decide +kernel
  obtain ⟨back, apart⟩ := readFields_line e plain
  exact ⟨plain, plain', by decide +kernel, back, apart e' plain' rfl (by decide +kernel)⟩

end Testbench.Log
