import Mathlib.Tactic.SplitIfs
import Testbench.Json.Reader
/-!
# Reading a text that goes on

What was read off a text is read off every longer text too. Texts, lists and maps say where they end; a
number ends only where something else begins, so it is read again only if something was left after it.

Main definitions: `Stable` for values that say where they end, `StableInside` for all values. Main
statements: `Stable.readAll_prefix` for documents, `StableInside.bind` for one value after another,
`StableInside.inList` and `StableInside.inMap` for values between brackets.
-/
namespace Testbench.Json

variable {α β : Type} {reader : Reader α} {s r : List Char}

/-- What is read off a text is read off every longer one, and nothing is read off the empty text. -/
structure Stable (reader : Reader α) : Prop where
  more : ∀ ⦃s a r⦄, reader s = .ok (a, r) → ∀ t, reader (s ++ t) = .ok (a, r ++ t)
  nil : ∀ x, reader [] ≠ .ok x

/-- What is read off a text with something left is read off every longer one, and nothing is left of the
empty text. -/
structure StableInside (reader : Reader α) : Prop where
  more : ∀ ⦃s a r⦄, reader s = .ok (a, r) → r ≠ [] → ∀ t, reader (s ++ t) = .ok (a, r ++ t)
  nil : ∀ ⦃a r⦄, reader [] = .ok (a, r) → r = []

theorem Stable.inside (h : Stable reader) : StableInside reader where
  more _ _ _ hread _ := h.more hread
  nil _ _ hread := absurd hread (h.nil _)

theorem StableInside.ne_nil (h : StableInside reader) {a : α} (hread : reader s = .ok (a, r))
    (hne : r ≠ []) : s ≠ [] := by
  rintro rfl
  exact hne (h.nil hread)

/-- If a text is read to its end, none of its beginnings is a document. -/
theorem Stable.readAll_prefix (h : Stable reader) {t : List Char} {a : α}
    (hread : reader (s ++ t) = .ok (a, [])) (ht : t ≠ []) : ∃ f, readAll reader s = .error f := by
  cases hs : reader s with
  | error p =>
    refine ⟨p.fault s, ?_⟩
    simp only [readAll, hs]
  | ok x =>
    obtain ⟨b, r⟩ := x
    have more := h.more hs t
    rw [hread, Except.ok.injEq, Prod.mk.injEq] at more
    exact absurd (List.append_eq_nil_iff.1 more.2.symm).2 ht

theorem stableInside_pure (a : α) : StableInside fun s => pure (a, s) where
  more := by
    intro s b r hread _ t
    cases hread
    rfl
  nil := by
    intro b r hread
    cases hread
    rfl

/-- One value after another. -/
theorem StableInside.bind {first : Reader α} {next : α → Reader β} (hfirst : StableInside first)
    (hnext : ∀ a, StableInside (next a)) : StableInside fun s => do
      let (a, s) ← first s
      next a s where
  more := by
    intro s b r hread hne t
    simp only [Bind.bind, Except.bind] at hread ⊢
    split at hread
    · cases hread
    · next x hx =>
      obtain ⟨a, s'⟩ := x
      simp only at hread
      have left : s' ≠ [] := (hnext a).ne_nil hread hne
      simp only [hfirst.more hx left t, (hnext a).more hread hne t]
  nil := by
    intro b r hread
    simp only [Bind.bind, Except.bind] at hread
    split at hread
    · cases hread
    · next x hx =>
      obtain ⟨a, s'⟩ := x
      cases hfirst.nil hx
      exact (hnext a).nil hread

/-! ## Blanks and words -/

theorem dropWhile_append_of_ne_nil (p : Char → Bool) (h : s.dropWhile p ≠ []) (t : List Char) :
    (s ++ t).dropWhile p = s.dropWhile p ++ t := by
  rw [List.dropWhile_append, if_neg (by simpa using h)]

theorem skipBlanks_append_of_ne_nil (h : skipBlanks s ≠ []) (t : List Char) :
    skipBlanks (s ++ t) = skipBlanks s ++ t := dropWhile_append_of_ne_nil isBlank h t

theorem skipBlanks_append {c : Char} (h : skipBlanks s = c :: r) (t : List Char) :
    skipBlanks (s ++ t) = c :: (r ++ t) := by
  rw [skipBlanks_append_of_ne_nil (by simp [h]), h, List.cons_append]

theorem readWord_append {w : List Char} (h : readWord w s = .ok r) (t : List Char) :
    readWord w (s ++ t) = .ok (r ++ t) := by
  fun_induction readWord w s <;> simp_all [readWord]

theorem readColon_append (h : readColon s = .ok r) (t : List Char) :
    readColon (s ++ t) = .ok (r ++ t) := by
  unfold readColon at h ⊢
  split at h <;> grind [skipBlanks_append_of_ne_nil]

/-! ## Lists and maps -/

theorem nextItem_append {first goes : Bool} (h : nextItem first s = .ok (goes, r)) (t : List Char) :
    nextItem first (s ++ t) = .ok (goes, r ++ t) := by
  unfold nextItem at h ⊢
  grind [skipBlanks_append_of_ne_nil]

theorem closeList_append (h : closeList s = .ok r) (t : List Char) :
    closeList (s ++ t) = .ok (r ++ t) := by
  unfold closeList at h ⊢
  split at h <;> grind [skipBlanks_append_of_ne_nil]

theorem closeMap_append (h : closeMap s = .ok r) (t : List Char) :
    closeMap (s ++ t) = .ok (r ++ t) := by
  unfold closeMap at h ⊢
  split at h <;> grind [skipBlanks_append_of_ne_nil]

theorem inList_eq_ok_iff {body : Reader α} {a : α} :
    inList body s = .ok (a, r) ↔ ∃ s', body s = .ok (a, s') ∧ closeList s' = .ok r := by
  unfold inList
  grind

theorem inMap_eq_ok_iff {body : Reader α} {a : α} :
    inMap body s = .ok (a, r) ↔ ∃ s', body s = .ok (a, s') ∧ closeMap s' = .ok r := by
  unfold inMap
  grind

/-- A value and what closes it. -/
theorem StableInside.close {body : Reader α} {close : List Char → Except Problem (List Char)}
    (hbody : StableInside body)
    (hclose : ∀ ⦃s r⦄, close s = .ok r → ∀ t, close (s ++ t) = .ok (r ++ t))
    (hopen : ∀ r, close [] ≠ .ok r)
    (hread : ∀ s a r, reader s = .ok (a, r) ↔ ∃ s', body s = .ok (a, s') ∧ close s' = .ok r) :
    Stable reader where
  more := by
    intro s a r h t
    obtain ⟨s', hs', hr⟩ := (hread s a r).1 h
    have left : s' ≠ [] := by
      rintro rfl
      exact hopen r hr
    exact (hread _ a _).2 ⟨s' ++ t, hbody.more hs' left t, hclose hr t⟩
  nil := by
    intro ⟨a, r⟩ h
    obtain ⟨s', hs', hr⟩ := (hread [] a r).1 h
    cases hbody.nil hs'
    exact hopen r hr

theorem StableInside.inList {body : Reader α} (h : StableInside body) : Stable (inList body) := by
  apply h.close (fun _ _ => closeList_append) _ fun _ _ _ => inList_eq_ok_iff
  intro r hr
  cases hr

theorem StableInside.inMap {body : Reader α} (h : StableInside body) : Stable (inMap body) := by
  apply h.close (fun _ _ => closeMap_append) _ fun _ _ _ => inMap_eq_ok_iff
  intro r hr
  cases hr

theorem readItemsWithin_nil {item : Reader α} (bound : List Char) (first : Bool)
    (x : List α × List Char) : readItemsWithin item bound first [] ≠ .ok x := by
  cases bound <;> exact fun h => nomatch h

theorem readItemsWithin_append {item : Reader α} (h : StableInside item) {bound : List Char}
    {first : Bool} {as : List α} (hread : readItemsWithin item bound first s = .ok (as, r))
    (u t : List Char) :
    readItemsWithin item (bound ++ u) first (s ++ t) = .ok (as, r ++ t) := by
  induction bound generalizing first s as with
  | nil => cases hread
  | cons b bound ih =>
    simp only [readItemsWithin, List.cons_append] at hread ⊢
    split at hread
    · cases hread
    · next hnext =>
      cases hread
      simp only [nextItem_append hnext t]
    · next s' hnext =>
      split at hread
      · cases hread
      · next a s'' hitem =>
        split at hread
        · cases hread
        · next as' r' hmore =>
          cases hread
          have left : s'' ≠ [] := by
            rintro rfl
            exact readItemsWithin_nil bound false _ hmore
          simp only [nextItem_append hnext t, h.more hitem left t, ih hmore]

theorem stable_readItems {item : Reader α} (h : StableInside item) : Stable (readItems item) where
  more _ _ _ hread t := readItemsWithin_append h hread t t
  nil := readItemsWithin_nil _ true

end Testbench.Json
