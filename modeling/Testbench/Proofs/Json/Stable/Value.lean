import Testbench.Json.Value
import Testbench.Proofs.Json.Stable.Number
import Testbench.Proofs.Json.Stable.Text
/-!
# Values in a text that goes on

A value that nobody asked for is passed over in the same steps, and a value of a known kind is read, whatever
comes after it, unless it is a number at the end of the text.

Main statements: `skipValue_append`, `stableInside_readNat`, `stable_readString`, `stable_readNull`,
`stable_readOptional`, `stable_readList`, `stable_readParts`.
-/
namespace Testbench.Json

variable {α : Type} {s r : List Char}

/-! ## Values that nobody asked for -/

theorem skipKey_append (h : skipKey s = .ok r) (t : List Char) :
    skipKey (s ++ t) = .ok (r ++ t) := by
  unfold skipKey at h ⊢
  split at h
  · cases h
  · next s' hs =>
    split at h
    · cases h
    · next htext =>
      simp only [skipBlanks_append hs t, skipText_append htext t]
      exact readColon_append h t
  · cases h

theorem skipScalar_append (h : skipScalar s = .ok r) (hne : r ≠ []) (t : List Char) :
    skipScalar (s ++ t) = .ok (r ++ t) := by
  unfold skipScalar at h
  split at h
  · cases h
  · exact readWord_append h t
  · exact readWord_append h t
  · exact readWord_append h t
  · exact skipNumber_append h hne t
  · exact skipText_append h t
  · split_ifs at h with hdigit
    have number := skipNumber_append h hne t
    simp_all [skipScalar]

theorem skipWithin_nil {bound : List Char} {due : Due} {frames : List Frame}
    (h : skipWithin bound due frames [] = .ok r) : r = [] := by
  cases bound with
  | nil => cases h
  | cons b bound =>
    cases due with
    | value => cases h
    | separator =>
      cases frames with
      | nil =>
        cases h
        rfl
      | cons frame frames => cases frame <;> cases h

theorem skipWithin_append {bound : List Char} {due : Due} {frames : List Frame}
    (h : skipWithin bound due frames s = .ok r) (hne : r ≠ []) (u t : List Char) :
    skipWithin (bound ++ u) due frames (s ++ t) = .ok (r ++ t) := by
  fun_induction skipWithin bound due frames s with
  -- All lists and maps are closed.
  | case2 bound s hbound =>
    cases h
    cases bound with
    | nil => exact absurd rfl hbound
    | cons b bound => rfl
  -- A comma in a list, or the end of a list or a map.
  | case3 _ bound frames s s' hs ih
  | case6 _ bound frames s s' hs ih
  | case7 _ bound frames s s' hs ih =>
    simp only [List.cons_append, skipWithin, skipBlanks_append hs t, ih h]
  -- A comma and a key in a map.
  | case5 _ bound frames s s' hs r' hkey ih =>
    simp only [List.cons_append, skipWithin, skipBlanks_append hs t, skipKey_append hkey t, ih h]
  -- An empty list or map.
  | case13 _ bound frames s s' hs s'' hs' ih
  | case16 _ bound frames s s' hs s'' hs' ih =>
    simp only [List.cons_append, skipWithin, skipBlanks_append hs t, skipBlanks_append hs' t, ih h]
  -- A list with an element: the character that keeps it from being empty is still the first one.
  | case14 _ bound frames s s' hs hend hclose ih =>
    obtain ⟨c, s'', hs'⟩ := List.exists_cons_of_ne_nil hend
    have hc : c ≠ ']' := by
      rintro rfl
      exact hclose s'' hs'
    have more := ih h
    rw [hs', List.cons_append] at more
    simp [skipWithin, skipBlanks_append hs t, skipBlanks_append hs' t, hc, more]
  -- A map with a key, likewise.
  | case18 _ bound frames s s' hs r' hend hclose hkey ih =>
    obtain ⟨c, s'', hs'⟩ := List.exists_cons_of_ne_nil hend
    have hc : c ≠ '}' := by
      rintro rfl
      exact hclose s'' hs'
    have key := skipKey_append hkey t
    rw [hs', List.cons_append] at key
    simp [skipWithin, skipBlanks_append hs t, skipBlanks_append hs' t, hc, key, ih h]
  -- Any other value: if nothing were left after it, nothing would be left after the steps that follow.
  | case20 _ bound frames s s' hlist hmap hscalar ih =>
    have left : s' ≠ [] := by
      rintro rfl
      exact hne (skipWithin_nil h)
    cases hs : skipBlanks s with
    | nil =>
      rw [hs] at hscalar
      cases hscalar
    | cons c r' =>
      have scalar := skipScalar_append hscalar left t
      rw [hs, List.cons_append] at scalar
      simp_all [skipWithin, skipBlanks_append hs t]
  | _ => cases h

theorem skipValue_append (h : skipValue s = .ok r) (hne : r ≠ []) (t : List Char) :
    skipValue (s ++ t) = .ok (r ++ t) := skipWithin_append h hne t t

/-! ## Values of a known kind -/

theorem stableInside_readNat (expected : String) : StableInside (readNat expected) where
  more := by
    intro s n r h hne t
    have fitting {s' : List Char} {negative : Bool}
        (h : readNat.fitting expected (readNumber negative s') = .ok (n, r)) :
        readNat.fitting expected (readNumber negative (s' ++ t)) = .ok (n, r ++ t) := by
      unfold readNat.fitting at h
      split at h
      · cases h
      · next hnumber =>
        cases h
        rw [(stableInside_readNumber negative).more hnumber hne t, readNat.fitting]
      · cases h
      · cases h
    unfold readNat at h ⊢
    split at h
    · cases h
    · next s' hs =>
      simp only [skipBlanks_append hs t]
      exact fitting h
    · next c s' hminus hs =>
      split_ifs at h with hdigit
      have number := fitting h
      simp_all [skipBlanks_append hs t]
  nil _ _ h := nomatch h

theorem stable_readString (expected : String) : Stable (readString expected) where
  more := by
    intro s a r h t
    unfold readString at h ⊢
    split at h
    · next s' hs =>
      split at h
      · cases h
      · next htext =>
        cases h
        simp only [skipBlanks_append hs t, stable_readText.more htext t]
    · cases h
  nil _ h := nomatch h

theorem stable_readNull (expected : String) : Stable (readNull expected) where
  more := by
    intro s a r h t
    unfold readNull at h ⊢
    split at h
    · next s' hs =>
      split at h
      · cases h
      · next hword =>
        cases h
        simp only [skipBlanks_append hs t, readWord_append hword t]
    · cases h
  nil _ h := nomatch h

theorem stable_readOptional (expected : String) : Stable (readOptional expected) where
  more := by
    intro s a r h t
    unfold readOptional at h ⊢
    split at h
    · next s' hs =>
      split at h
      · cases h
      · next hword =>
        cases h
        simp only [skipBlanks_append hs t, readWord_append hword t]
    · next hnull =>
      split at h
      · cases h
      · next htext =>
        cases h
        have text := (stable_readString expected).more htext t
        cases hs : skipBlanks s with
        | nil => exact absurd (hs ▸ htext) ((stable_readString expected).nil _)
        | cons c s' => simp_all [skipBlanks_append hs t]
  nil _ h := nomatch h

theorem stable_readList {item : Reader α} (h : StableInside item) (expected : String) :
    Stable (readList expected item) where
  more := by
    intro s as r hread t
    unfold readList at hread ⊢
    split at hread
    · next s' hs =>
      simp only [skipBlanks_append hs t]
      exact (stable_readItems h).inside.inList.more hread t
    · cases hread
  nil _ h := nomatch h

/-- A value with named parts, if what its brackets hold is. -/
theorem stable_readParts {fromList fromMap : Reader α} (hlist : StableInside fromList)
    (hmap : StableInside fromMap) (expected : String) :
    Stable (Json.readParts expected fromList fromMap) where
  more := by
    intro s a r hread t
    unfold Json.readParts at hread ⊢
    split at hread
    · next s' hs =>
      simp only [skipBlanks_append hs t]
      exact hlist.inList.more hread t
    · next s' hs =>
      simp only [skipBlanks_append hs t]
      exact hmap.inMap.more hread t
    · cases hread
  nil _ h := nomatch h

end Testbench.Json
