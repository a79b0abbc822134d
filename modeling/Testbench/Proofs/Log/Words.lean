import Testbench.Log.Event
import Testbench.Proofs.Text.Quoted
/-!
# The words of a line

A line is cut into words at the spaces outside of quotes. A quote opens inside of which a backslash hides
the character behind it, so that only a bare quote closes it. Every field of an event is one word of its
line, whatever its value is.

Main definitions: `words`, `Leads`, `fieldsPart`. Main statement: `words_fieldsPart`.
-/
namespace Testbench.Log
open Text

/-! ## Cutting -/

/-- Where a reader of a line stands: outside of quotes, inside, or behind a backslash inside. -/
inductive Place where
  | outside
  | inside
  | escaping
  deriving DecidableEq

def Place.next : Place → Char → Place
  | outside, c => if c = '"' then inside else outside
  | inside, c => if c = '"' then outside else if c = '\\' then escaping else inside
  | escaping, _ => inside

/-- The words from a place on; the first one may have begun before it. -/
def wordsFrom : Place → List Char → List (List Char)
  | _, [] => [[]]
  | p, c :: cs =>
    if p = .outside ∧ c = ' ' then [] :: wordsFrom .outside cs
    else (wordsFrom (p.next c) cs).modifyHead (c :: ·)

/-- The words of a text; an empty text has none. -/
def words (cs : List Char) : List (List Char) := if cs.isEmpty then [] else wordsFrom .outside cs

/-- A text is part of one word and leads a reader from one place to another, whatever follows. -/
def Leads (p q : Place) (w : List Char) : Prop :=
  ∀ rest, wordsFrom p (w ++ rest) = (wordsFrom q rest).modifyHead (w ++ ·)

namespace Leads

theorem nil (p : Place) : Leads p p [] := fun rest => by
  change wordsFrom p rest = (wordsFrom p rest).modifyHead id
  rw [List.modifyHead_id, id]

theorem cons {p q : Place} {c : Char} {w : List Char} (hc : p ≠ .outside ∨ c ≠ ' ')
    (h : Leads (p.next c) q w) : Leads p q (c :: w) := fun rest => by
  have goesOn : ¬ (p = .outside ∧ c = ' ') := fun ends => hc.elim (· ends.1) (· ends.2)
  rw [List.cons_append, wordsFrom, if_neg goesOn, h rest, List.modifyHead_modifyHead]
  rfl

theorem append {p q r : Place} {v w : List Char} (hv : Leads p q v) (hw : Leads q r w) :
    Leads p r (v ++ w) := fun rest => by
  rw [List.append_assoc, hv, hw, List.modifyHead_modifyHead]
  congr 1
  exact funext fun u => (List.append_assoc v w u).symm

theorem flatMap {p : Place} {spell : Char → List Char} (h : ∀ c, Leads p p (spell c))
    (cs : List Char) : Leads p p (cs.flatMap spell) := by
  induction cs with
  | nil => exact nil p
  | cons c cs ih => exact (h c).append ih

/-- A text is part of one word if each of its characters keeps the reader in place. -/
theorem stay {p : Place} {w : List Char} (h : ∀ c ∈ w, p.next c = p ∧ (p ≠ .outside ∨ c ≠ ' ')) :
    Leads p p w := by
  induction w with
  | nil => exact nil p
  | cons c w ih =>
    obtain ⟨⟨hnext, hc⟩, hw⟩ := List.forall_mem_cons.1 h
    exact cons hc (hnext.symm ▸ ih hw)

theorem outside {w : List Char} (h : ∀ c ∈ w, c ≠ ' ' ∧ c ≠ '"') : Leads .outside .outside w :=
  stay fun c hc => ⟨if_neg (h c hc).2, .inr (h c hc).1⟩

theorem inside {w : List Char} (h : ∀ c ∈ w, c ≠ '"' ∧ c ≠ '\\') : Leads .inside .inside w :=
  stay fun c hc =>
    ⟨by rw [Place.next, if_neg (h c hc).1, if_neg (h c hc).2], .inl (by decide)⟩

end Leads

theorem wordsFrom_append_space {w : List Char} (h : Leads .outside .outside w) (rest : List Char) :
    wordsFrom .outside (w ++ ' ' :: rest) = w :: wordsFrom .outside rest := by
  rw [h, wordsFrom, if_pos ⟨rfl, rfl⟩, List.modifyHead_cons, List.append_nil]

theorem wordsFrom_of_leads {w : List Char} (h : Leads .outside .outside w) :
    wordsFrom .outside w = [w] := by
  simpa [wordsFrom] using h []

/-! ## Fields are words -/

/-- A character spelled inside of quotes leaves the reader there. -/
theorem leads_escaped (c : Char) : Leads .inside .inside (escaped c) := by
  rcases escaped_cases c with ⟨x, hx, -, -⟩ | ⟨hc, hquote, hslash⟩ | hcode
  · rw [hx]
    exact .cons (.inl (by decide)) (.cons (.inl (by decide)) (.nil _))
  · rw [hc]
    exact .inside (by simp [hquote, hslash])
  · rw [hcode]
    simp only [List.cons_append]
    refine .cons (.inl (by decide)) (.cons (.inl (by decide)) (.inside fun d hd => ?_))
    simp only [List.mem_cons, List.mem_append, List.not_mem_nil, or_false] at hd
    rcases hd with rfl | hd | rfl
    · decide
    · obtain ⟨n, hn, rfl⟩ := exists_digitChar_of_mem_hex hd
      exact ⟨(digitChar_ne hn).1, (digitChar_ne hn).2.1⟩
    · decide

theorem leads_quoted (s : String) : Leads .outside .outside (quoted s).toList := by
  rw [quoted, String.toList_ofList]
  have opening : Leads .outside .inside ['"'] := .cons (.inr (by decide)) (.nil _)
  have closing : Leads .inside .outside ['"'] := .cons (.inl (by decide)) (.nil _)
  exact opening.append ((Leads.flatMap leads_escaped _).append closing)

/-- A name that a line shows as it is: it has no blank, no quote and no equals sign. -/
def IsPlain (name : String) : Prop :=
  ∀ c ∈ name.toList, isBlank c = false ∧ c ≠ '"' ∧ c ≠ '='

instance (name : String) : Decidable (IsPlain name) :=
  List.decidableBAll (fun c => isBlank c = false ∧ c ≠ '"' ∧ c ≠ '=') name.toList

/-- A field as a line shows it. -/
def shownField (field : String × String) : List Char :=
  field.1.toList ++ '=' :: (Event.shownValue field.2).toList

theorem leads_of_isPlain {name : String} (h : IsPlain name) : Leads .outside .outside name.toList := by
  refine .outside fun c hc => ⟨?_, (h c hc).2.1⟩
  rintro rfl
  cases (h ' ' hc).1

theorem isPlain_of_not_needsQuotes {value : String} (h : Event.needsQuotes value = false) :
    IsPlain value := by
  intro c hc
  have := List.any_eq_false.1 h c hc
  simpa [and_assoc] using this

theorem leads_shownValue (value : String) :
    Leads .outside .outside (Event.shownValue value).toList := by
  rw [Event.shownValue]
  split
  · exact leads_quoted value
  · rename_i hplain
    exact leads_of_isPlain (isPlain_of_not_needsQuotes (by simpa using hplain))

theorem leads_shownField {field : String × String} (h : IsPlain field.1) :
    Leads .outside .outside (shownField field) :=
  (leads_of_isPlain h).append (.cons (.inr (by decide)) (leads_shownValue field.2))

/-! ## Lines -/

/-- The part of a line behind its message, without the space that sets it off. -/
def fieldsPart (message line : String) : List Char :=
  if message.isEmpty then line.toList else (line.toList.drop message.length).tail

theorem toList_withField (line : String) (field : String × String) :
    (Event.withField line field).toList =
      line.toList ++ (if line.isEmpty then [] else [' ']) ++ shownField field := by
  rw [Event.withField, shownField]
  split <;> simp

theorem withField_ne_empty (line : String) (field : String × String) :
    Event.withField line field ≠ "" := by
  intro h
  have hshown := toList_withField line field
  rw [h] at hshown
  simp [shownField] at hshown

/-- In a line that has begun, a space stands before each field. -/
theorem toList_foldl_withField {line : String} (begun : line ≠ "") (fields : List (String × String)) :
    (fields.foldl Event.withField line).toList =
      line.toList ++ fields.flatMap fun field => ' ' :: shownField field := by
  induction fields generalizing line with
  | nil => simp
  | cons field fields ih =>
    have hline : line.isEmpty = false := by simpa using begun
    rw [List.foldl_cons, ih (withField_ne_empty line field), toList_withField, hline]
    simp

theorem fieldsPart_self (message : String) : fieldsPart message message = [] := by
  rw [fieldsPart]
  split
  · rename_i hempty
    rw [String.isEmpty_iff.1 hempty]
    rfl
  · rw [← String.length_toList, List.drop_length, List.tail_nil]

/-- Behind the message, a space stands between each field and the next, and nowhere else. -/
theorem fieldsPart_foldl_withField (message : String) (field : String × String)
    (fields : List (String × String)) :
    fieldsPart message ((field :: fields).foldl Event.withField message) =
      shownField field ++ fields.flatMap fun field => ' ' :: shownField field := by
  by_cases begun : message = ""
  · -- The first field begins the line, so no space has to be dropped.
    subst begun
    rw [fieldsPart, if_pos (String.isEmpty_iff.2 rfl), List.foldl_cons,
      toList_foldl_withField (withField_ne_empty _ _), toList_withField]
    rfl
  · have hmessage : message.isEmpty = false := by simpa using begun
    rw [fieldsPart, hmessage, toList_foldl_withField begun, ← String.length_toList, List.drop_left]
    rfl

theorem wordsFrom_fields {fields : List (String × String)} (h : ∀ field ∈ fields, IsPlain field.1)
    {w : List Char} (hw : Leads .outside .outside w) :
    wordsFrom .outside (w ++ fields.flatMap fun field => ' ' :: shownField field) =
      w :: fields.map shownField := by
  induction fields generalizing w with
  | nil => simpa using wordsFrom_of_leads hw
  | cons field fields ih =>
    obtain ⟨hfield, hfields⟩ := List.forall_mem_cons.1 h
    rw [List.flatMap_cons, List.cons_append, wordsFrom_append_space hw,
      ih hfields (leads_shownField hfield), List.map_cons]

/-- Behind the message, a line has one word for each field, which shows the field. -/
theorem words_fieldsPart (e : Event) (h : ∀ field ∈ e.fields, IsPlain field.1) :
    words (fieldsPart (e.message.getD "") e.line) = e.fields.map shownField := by
  rw [Event.line]
  cases hf : e.fields with
  | nil => rw [List.foldl_nil, fieldsPart_self, words, List.isEmpty_nil, if_pos rfl, List.map_nil]
  | cons field fields =>
    rw [hf] at h
    obtain ⟨hfield, hfields⟩ := List.forall_mem_cons.1 h
    have given : (shownField field ++ fields.flatMap fun f => ' ' :: shownField f).isEmpty = false := by
      simp [shownField]
    rw [fieldsPart_foldl_withField, words, given, if_neg Bool.false_ne_true,
      wordsFrom_fields hfields (leads_shownField hfield), List.map_cons]

end Testbench.Log
