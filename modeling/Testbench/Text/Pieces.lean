/-!
# Pieces of a text

Cutting a text at a separator: once, at its first occurrence, or everywhere. A text is a list here, of
characters or of bytes.
-/
namespace Testbench.Text
variable {α : Type} [DecidableEq α]

/-- The part before the first `sep` and the part after it, if there is one. -/
def cutAt (sep : α) : List α → Option (List α × List α)
  | [] => none
  | c :: cs =>
    if c = sep then some ([], cs) else (cutAt sep cs).map fun (a, b) => (c :: a, b)

/-- All pieces between separators, the empty ones included; there is always at least one. -/
def pieces (sep : α) : List α → List (List α)
  | [] => [[]]
  | c :: cs =>
    match pieces sep cs with
    | [] => [[c]]
    | p :: ps => if c = sep then [] :: p :: ps else (c :: p) :: ps

/-- The pieces that hold at least one element. -/
def fullPieces (sep : α) (cs : List α) : List (List α) :=
  (pieces sep cs).filter (!·.isEmpty)

theorem cutAt_eq_some {sep : α} {cs a b : List α} (h : cutAt sep cs = some (a, b)) :
    cs = a ++ sep :: b ∧ sep ∉ a := by
  induction cs generalizing a with
  | nil => simp [cutAt] at h
  | cons c cs ih =>
    by_cases hc : c = sep
    · simp only [cutAt, hc, if_true, Option.some.injEq, Prod.mk.injEq] at h
      obtain ⟨rfl, rfl⟩ := h
      simp [hc]
    · simp only [cutAt, hc, if_false, Option.map_eq_some_iff] at h
      obtain ⟨⟨a', b'⟩, h', e⟩ := h
      simp only [Prod.mk.injEq] at e
      obtain ⟨rfl, rfl⟩ := e
      obtain ⟨rfl, hs⟩ := ih h'
      exact ⟨rfl, by simp [hs, Ne.symm hc]⟩

theorem cutAt_append {sep : α} {a b : List α} (h : sep ∉ a) :
    cutAt sep (a ++ sep :: b) = some (a, b) := by
  induction a with
  | nil => simp [cutAt]
  | cons c a ih =>
    obtain ⟨hc, ha⟩ := not_or.1 (mt List.mem_cons.2 h)
    simp [cutAt, Ne.symm hc, ih ha]

theorem cutAt_eq_none_iff {sep : α} {cs : List α} : cutAt sep cs = none ↔ sep ∉ cs := by
  induction cs with
  | nil => simp [cutAt]
  | cons c cs ih =>
    by_cases hc : c = sep
    · simp [cutAt, hc]
    · simp [cutAt, hc, ih, Ne.symm hc]

end Testbench.Text
