import Testbench.Proofs.Json.Scalars
import Testbench.Proofs.Json.Stable.Basic
/-!
# Texts and keys in a text that goes on

An escape has its length by its first letters, a text ends at its quote, and a key is a text. So what comes
after the closing quote, or after the brace that closes a map, is not looked at.

Main statements: `stable_readText`, `stable_readEntries`.
-/
namespace Testbench.Json

variable {δ : Type} {s r : List Char}

/-! ## Escapes -/

theorem readHexFrom_append {k n m : Nat} (h : readHexFrom k n s = .ok (m, r)) (t : List Char) :
    readHexFrom k n (s ++ t) = .ok (m, r ++ t) := by
  fun_induction readHexFrom k n s <;> simp_all [readHexFrom]

theorem le_length_of_readHexFrom {k n m : Nat} (h : readHexFrom k n s = .ok (m, r)) :
    k ≤ s.length := by
  fun_induction readHexFrom k n s <;> simp_all

theorem readHex_append {n : Nat} (h : readHex s = .ok (n, r)) (t : List Char) :
    readHex (s ++ t) = .ok (n, r ++ t) := by
  unfold readHex at h
  split at h
  · match s, le_length_of_readHexFrom h with
    | a :: b :: c :: d :: s, _ =>
      simp only [List.cons_append, readHex, hasFourBytes_cons, if_true]
      exact readHexFrom_append h t
  · cases h

theorem readLow_append {high : Nat} {c : Char} (h : readLow high s = .ok (c, r)) (t : List Char) :
    readLow high (s ++ t) = .ok (c, r ++ t) := by
  unfold readLow at h
  split at h
  · split at h
    · cases h
    · next hhex =>
      split at h
      · next hlow =>
        obtain ⟨rfl, rfl⟩ : _ ∧ _ := by simpa using h
        simp only [List.cons_append, readLow, readHex_append hhex t, hlow, if_true]
      · cases h
  all_goals cases h

theorem readEscape_append {c : Char} (h : readEscape s = .ok (c, r)) (t : List Char) :
    readEscape (s ++ t) = .ok (c, r ++ t) := by
  cases s with
  | nil => cases h
  | cons e s =>
    simp only [readEscape, List.cons_append] at h ⊢
    split at h
    · cases h
      rfl
    · split_ifs at h ⊢ with hu
      split at h
      · cases h
      · next n s' hhex =>
        simp only [readHex_append hhex t]
        split_ifs at h ⊢ with hlow hhigh
        · exact readLow_append h t
        · cases h
          rfl

theorem skipEscape_append (h : skipEscape s = .ok r) (t : List Char) :
    skipEscape (s ++ t) = .ok (r ++ t) := by
  cases s with
  | nil => cases h
  | cons e s =>
    simp only [skipEscape, List.cons_append] at h ⊢
    split_ifs at h ⊢
    · cases h
      rfl
    · cases hhex : readHex s with
      | error p => simp [hhex, Except.map] at h
      | ok x =>
        obtain ⟨n, s'⟩ := x
        rw [hhex] at h
        cases h
        simp [readHex_append hhex t, Except.map]

/-! ## Texts -/

theorem stable_readText : Stable readText where
  more := by
    intro s a r h t
    fun_induction readText s generalizing a with
    | case2 =>
      cases h
      exact readText_quote (_ ++ t)
    | case5 r' d s' hescape _ t' s'' hmore _ ih =>
      cases h
      exact readText_escape (readEscape_append hescape t) (ih hmore)
    | case8 c s' hquote hslash hcontrol t' s'' hmore ih =>
      cases h
      exact readText_plain hquote hslash hcontrol (ih hmore)
    | _ => cases h
  nil := by
    intro x h
    rw [readText] at h
    cases h

theorem skipTextWithin_append {bound : List Char} (h : skipTextWithin bound s = .ok r)
    (u t : List Char) : skipTextWithin (bound ++ u) (s ++ t) = .ok (r ++ t) := by
  fun_induction skipTextWithin bound s with
  | case3 =>
    cases h
    simp [skipTextWithin]
  | case5 b bound s s' hescape _ ih => simp [skipTextWithin, skipEscape_append hescape t, ih h]
  | case7 b bound c s hquote hslash hcontrol ih =>
    simp [skipTextWithin, hquote, hslash, hcontrol, ih h]
  | _ => cases h

theorem skipText_append (h : skipText s = .ok r) (t : List Char) :
    skipText (s ++ t) = .ok (r ++ t) := skipTextWithin_append h t t

/-! ## Keys and the entries of a map -/

theorem startKey_append {key : Option (List Char)} (h : startKey s = .ok (key, r)) (t : List Char) :
    startKey (s ++ t) = .ok (key, r ++ t) := by
  unfold startKey at h
  split at h
  · split at h
    · cases h
    · next htext =>
      cases h
      simp only [List.cons_append, startKey, stable_readText.more htext t]
  · cases h

theorem nextKey_append {first : Bool} {key : Option (List Char)}
    (h : nextKey first s = .ok (key, r)) (t : List Char) :
    nextKey first (s ++ t) = .ok (key, r ++ t) := by
  unfold nextKey at h ⊢
  split at h
  · cases h
  · next c s' hs =>
    simp only [skipBlanks_append hs t]
    split_ifs at h ⊢
    · cases h
      rfl
    · exact startKey_append h t
    · split at h
      · cases h
      · next d s'' hs' =>
        simp only [skipBlanks_append hs' t]
        split_ifs at h ⊢
        exact startKey_append h t

theorem readEntriesWithin_nil {entry : δ → List Char → Reader δ} (bound : List Char) (first : Bool)
    (d : δ) (x : δ × List Char) : readEntriesWithin entry bound first d [] ≠ .ok x := by
  cases bound <;> exact fun h => nomatch h

theorem readEntriesWithin_append {entry : δ → List Char → Reader δ}
    (h : ∀ d key, StableInside (entry d key)) {bound : List Char} {first : Bool} {d d' : δ}
    (hread : readEntriesWithin entry bound first d s = .ok (d', r)) (u t : List Char) :
    readEntriesWithin entry (bound ++ u) first d (s ++ t) = .ok (d', r ++ t) := by
  induction bound generalizing first d s with
  | nil => cases hread
  | cons b bound ih =>
    simp only [readEntriesWithin, List.cons_append] at hread ⊢
    split at hread
    · cases hread
    · next hkey =>
      cases hread
      simp only [nextKey_append hkey t]
    · next key s' hkey =>
      split at hread
      · cases hread
      · next d₁ s'' hentry =>
        have left : s'' ≠ [] := by
          rintro rfl
          exact readEntriesWithin_nil bound false d₁ _ hread
        simp only [nextKey_append hkey t, (h d key).more hentry left t, ih hread]

theorem stable_readEntries {entry : δ → List Char → Reader δ}
    (h : ∀ d key, StableInside (entry d key)) (d : δ) : Stable (readEntries entry d) where
  more _ _ _ hread t := readEntriesWithin_append h hread t t
  nil := readEntriesWithin_nil _ true d

end Testbench.Json
