/-!
# Wildcard patterns

A pattern is a list of pieces: a run of any characters, one arbitrary character, or one given
character. Neither wildcard takes a line feed. `Wildcard.Matches` says which texts a pattern matches;
`Wildcard.accepts` decides it with one row per piece, from the last piece to the first: entry `i` of a
row tells whether the pieces from there on match the text from position `i` on. Main statement:
`accepts_iff`, which says that the two agree.
-/
namespace Testbench.Wildcard

inductive Piece where
  | run
  | one
  | only (c : Char)
  deriving DecidableEq, Repr

abbrev Pattern := List Piece

/-- A star is a run, a question mark is one character, and all else stands for itself. -/
def Piece.ofChar (c : Char) : Piece :=
  if c = '*' then .run else if c = '?' then .one else .only c

def Pattern.ofText (cs : List Char) : Pattern := cs.map Piece.ofChar

/-- Whether a wildcard may stand for a character. -/
def free (c : Char) : Bool := c != '\n'

/-- Which texts a pattern matches from end to end. -/
inductive Matches : Pattern → List Char → Prop where
  | done : Matches [] []
  | skip {p t} : Matches p t → Matches (.run :: p) t
  | more {p c t} : free c → Matches (.run :: p) t → Matches (.run :: p) (c :: t)
  | one {p c t} : free c → Matches p t → Matches (.one :: p) (c :: t)
  | only {p t} (c : Char) : Matches p t → Matches (.only c :: p) (c :: t)

/-- The row of a run before the pieces of the row `after`: it may end here, or take one character. -/
def runRow : List Char → List Bool → List Bool
  | c :: t, b :: after =>
    let rest := runRow t after
    (b || (free c && rest.headD false)) :: rest
  | _, after => after

/-- The row of a piece that takes one character: the row `after`, moved by one position. -/
def stepRow (takes : Char → Bool) (t : List Char) (after : List Bool) : List Bool :=
  (t.zip (after.drop 1)).map (fun (c, b) => takes c && b) ++ [false]

def row : Piece → List Char → List Bool → List Bool
  | .run => runRow
  | .one => stepRow free
  | .only x => stepRow (· == x)

/-- The row of the empty pattern: only the empty rest of a text is matched. -/
def lastRow (t : List Char) : List Bool := t.map (fun _ => false) ++ [true]

/-- Whether a pattern matches a text from end to end. -/
def accepts (p : Pattern) (t : List Char) : Bool :=
  (p.foldr (fun piece after => row piece t after) (lastRow t)).headD false

/-- Stands in for the limit of ten mebibytes that the regex library sets to a compiled pattern. It counts
wildcards only, about a kibibyte for each; what other pieces cost is left out. -/
def Pattern.isTooLarge (p : Pattern) : Bool :=
  decide (10240 < (p.filter fun piece => piece = .run ∨ piece = .one).length)

/-! ## What a row says -/

/-- Whether each entry of a row tells if a pattern matches the text from that position on. -/
def Marks (p : Pattern) : List Char → List Bool → Prop
  | [], bs => ∃ b : Bool, bs = [b] ∧ (b ↔ Matches p [])
  | c :: t, bs => ∃ (b : Bool) (rest : List Bool),
      bs = b :: rest ∧ (b ↔ Matches p (c :: t)) ∧ Marks p t rest

theorem Marks.headD_iff {p : Pattern} {t : List Char} {bs : List Bool} (h : Marks p t bs) :
    bs.headD false ↔ Matches p t := by
  cases t with
  | nil => obtain ⟨b, rfl, hb⟩ := h; exact hb
  | cons c t => obtain ⟨b, rest, rfl, hb, _⟩ := h; exact hb

theorem matches_nil_iff {t : List Char} : Matches [] t ↔ t = [] :=
  ⟨fun h => by cases h; rfl, fun h => h ▸ .done⟩

theorem matches_run_nil_iff {p : Pattern} : Matches (.run :: p) [] ↔ Matches p [] :=
  ⟨fun h => by cases h; assumption, .skip⟩

theorem matches_run_cons_iff {p : Pattern} {c : Char} {t : List Char} :
    Matches (.run :: p) (c :: t) ↔ Matches p (c :: t) ∨ (free c ∧ Matches (.run :: p) t) :=
  ⟨fun h => by
    cases h with
    | skip h => exact .inl h
    | more hc h => exact .inr ⟨hc, h⟩,
  fun h => h.elim .skip fun ⟨hc, h⟩ => .more hc h⟩

theorem matches_one_cons_iff {p : Pattern} {c : Char} {t : List Char} :
    Matches (.one :: p) (c :: t) ↔ free c ∧ Matches p t :=
  ⟨fun h => by cases h with | one hc h => exact ⟨hc, h⟩, fun ⟨hc, h⟩ => .one hc h⟩

theorem matches_only_cons_iff {p : Pattern} {x c : Char} {t : List Char} :
    Matches (.only x :: p) (c :: t) ↔ c = x ∧ Matches p t :=
  ⟨fun h => by cases h with | only _ h => exact ⟨rfl, h⟩, fun ⟨hc, h⟩ => hc ▸ .only _ h⟩

theorem marks_lastRow (t : List Char) : Marks [] t (lastRow t) := by
  induction t with
  | nil => exact ⟨true, rfl, by simp [matches_nil_iff]⟩
  | cons c t ih => exact ⟨false, _, rfl, by simp [matches_nil_iff], ih⟩

theorem marks_runRow {p : Pattern} {t : List Char} {after : List Bool} (h : Marks p t after) :
    Marks (.run :: p) t (runRow t after) := by
  induction t generalizing after with
  | nil =>
    obtain ⟨b, rfl, hb⟩ := h
    exact ⟨b, rfl, hb.trans matches_run_nil_iff.symm⟩
  | cons c t ih =>
    obtain ⟨b, rest, rfl, hb, h⟩ := h
    refine ⟨_, _, rfl, ?_, ih h⟩
    rw [matches_run_cons_iff, ← hb, ← (ih h).headD_iff]
    simp

theorem marks_stepRow {p q : Pattern} {t : List Char} {after : List Bool} {takes : Char → Bool}
    (hnil : ¬ Matches q [])
    (hcons : ∀ c t, Matches q (c :: t) ↔ takes c ∧ Matches p t) (h : Marks p t after) :
    Marks q t (stepRow takes t after) := by
  induction t generalizing after with
  | nil => exact ⟨false, rfl, by simpa using hnil⟩
  | cons c t ih =>
    obtain ⟨b, rest, rfl, _, h⟩ := h
    obtain ⟨b', rest', rfl⟩ : ∃ b' rest', rest = b' :: rest' := by
      cases t with
      | nil => obtain ⟨b', rfl, _⟩ := h; exact ⟨b', [], rfl⟩
      | cons _ _ => obtain ⟨b', rest', rfl, _⟩ := h; exact ⟨b', rest', rfl⟩
    refine ⟨_, _, rfl, ?_, ih h⟩
    rw [hcons, ← h.headD_iff]
    simp

theorem marks_row (piece : Piece) {p : Pattern} {t : List Char} {after : List Bool}
    (h : Marks p t after) : Marks (piece :: p) t (row piece t after) := by
  cases piece with
  | run => exact marks_runRow h
  | one => exact marks_stepRow (fun h => by cases h) (fun _ _ => matches_one_cons_iff) h
  | only x =>
    change Marks _ t (stepRow (· == x) t after)
    refine marks_stepRow ?_ (fun c t => ?_) h
    · intro h
      cases h
    · rw [matches_only_cons_iff, beq_iff_eq]

/-- The rows decide the relation. -/
theorem accepts_iff {p : Pattern} {t : List Char} : accepts p t ↔ Matches p t := by
  refine Marks.headD_iff ?_
  induction p with
  | nil => exact marks_lastRow t
  | cons piece p ih => exact marks_row piece ih

end Testbench.Wildcard
