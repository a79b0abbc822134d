import Testbench.Json.Number
import Testbench.Proofs.Json.Stable.Basic
/-!
# Numbers in a text that goes on

The digits of a number might go on, so a number is only known where something else comes after it. There
its digits, its exponent and its value are those that any longer text gives.

Main statements: `stableInside_readNumber` for numbers that are read, `skipNumber_append` for those that
nobody asked for.
-/
namespace Testbench.Json

variable {s r : List Char}

/-! ## Digits -/

theorem startsWithDigit_append (h : s ≠ []) (t : List Char) :
    startsWithDigit (s ++ t) = startsWithDigit s := by
  cases s with
  | nil => exact absurd rfl h
  | cons c s => rfl

theorem takeDigits_append_of_ne_nil {limit n : Nat} (h : (takeDigits limit n s).2 ≠ [])
    (t : List Char) : takeDigits limit n (s ++ t) =
      ((takeDigits limit n s).1, (takeDigits limit n s).2 ++ t) := by
  fun_induction takeDigits limit n s with
  | case1 => exact absurd rfl h
  | case2 n c s hc ih => simpa [takeDigits, hc] using ih h
  | case3 n c s hc => rw [List.cons_append, takeDigits, if_neg hc]

/-- As many characters are taken off a longer text, so an exponent that counts them stays the same. -/
theorem length_append_sub (s r t : List Char) :
    (s ++ t).length - (r ++ t).length = s.length - r.length := by
  simp only [List.length_append]
  omega

/-! ## Numbers that are read -/

section
variable (negative : Bool) (n : Nat) (e : Int)

/-- The parts of a number make it, whatever comes after them. -/
theorem fromParts_eq_ok {a : Number} (h : fromParts negative n e s = .ok (a, r)) :
    r = s ∧ ∀ s', fromParts negative n e s' = .ok (a, s') := by
  unfold fromParts at h ⊢
  split at h
  · cases h
  · cases h
    exact ⟨rfl, fun _ => rfl⟩

theorem stableInside_fromParts : StableInside (fromParts negative n e) where
  more := by
    intro s a r h _ t
    obtain ⟨rfl, hparts⟩ := fromParts_eq_ok negative n e h
    exact hparts (r ++ t)
  nil _ _ h := (fromParts_eq_ok negative n e h).1

theorem stableInside_readExponentDigits (down : Bool) :
    StableInside (readExponentDigits negative n e down) where
  more := by
    intro s a r h hne t
    cases s with
    | nil => cases h
    | cons c s =>
      have left : (takeDigits (Nat.pow 2 31) 0 (c :: s)).2 ≠ [] := by
        intro hnil
        simp only [readExponentDigits, hnil, startsWithDigit, Bool.false_eq_true, if_false] at h
        split_ifs at h
        all_goals exact hne ((stableInside_fromParts _ _ _).nil h)
      have taken := takeDigits_append_of_ne_nil left t
      simp only [readExponentDigits, List.cons_append] at h taken ⊢
      rw [taken]
      simp only [startsWithDigit_append left]
      split_ifs at h ⊢
      all_goals first
        | exact (stableInside_fromParts _ _ _).more h hne t
        | cases h; rw [dropWhile_append_of_ne_nil _ hne]
  nil _ _ h := nomatch h

theorem stableInside_readExponent : StableInside (readExponent negative n e) where
  more := by
    intro s a r h hne t
    unfold readExponent at h
    split at h
    · exact (stableInside_readExponentDigits negative n e false).more h hne t
    · exact (stableInside_readExponentDigits negative n e true).more h hne t
    · have digits := (stableInside_readExponentDigits negative n e false).more h hne t
      cases s with
      | nil => cases h
      | cons c s => simp_all [readExponent]
  nil _ _ h := nomatch h

theorem stableInside_readTail : StableInside (readTail negative n e) where
  more := by
    intro s a r h hne t
    cases s with
    | nil => exact absurd ((stableInside_fromParts _ _ _).nil h) hne
    | cons c s =>
      simp only [readTail, List.cons_append] at h ⊢
      split_ifs at h ⊢
      · exact (stableInside_readExponent _ _ _).more h hne t
      · exact (stableInside_fromParts _ _ _).more h hne t
  nil _ _ h := (stableInside_fromParts _ _ _).nil h

theorem stableInside_readFraction : StableInside (readFraction negative n e) where
  more := by
    intro s a r h hne t
    have left : (takeDigits UInt64.size n s).2 ≠ [] := by
      intro hnil
      simp only [readFraction, hnil, startsWithDigit, Bool.false_eq_true, if_false] at h
      split_ifs at h with hzero hnone
      exact hne ((stableInside_readTail _ _ _).nil h)
    simp only [readFraction] at h ⊢
    rw [takeDigits_append_of_ne_nil left t]
    simp only [startsWithDigit_append left, length_append_sub]
    split_ifs at h ⊢
    · have more := (stableInside_readTail _ _ _).ne_nil h hne
      rw [dropWhile_append_of_ne_nil _ more]
      exact (stableInside_readTail _ _ _).more h hne t
    · exact (stableInside_readTail _ _ _).more h hne t
  nil _ _ h := nomatch h

theorem stableInside_readLong : StableInside (readLong negative n) where
  more := by
    intro s a r h hne t
    have left : s.dropWhile Char.isDigit ≠ [] := by
      intro hnil
      simp only [readLong, hnil] at h
      exact hne ((stableInside_readTail _ _ _).nil h)
    simp only [readLong] at h ⊢
    rw [dropWhile_append_of_ne_nil _ left, length_append_sub]
    split at h
    · next hpoint =>
      simp only [hpoint, List.cons_append] at h ⊢
      exact (stableInside_readFraction _ _ _).more h hne t
    · have tail := (stableInside_readTail _ _ _).more h hne t
      cases hs : s.dropWhile Char.isDigit with
      | nil => exact absurd hs left
      | cons c s' => simp_all
  nil _ _ h := (stableInside_readTail _ _ _).nil h

theorem stableInside_afterInteger : StableInside (afterInteger negative n) where
  more := by
    intro s a r h hne t
    unfold afterInteger at h
    split at h
    · exact (stableInside_readFraction _ _ _).more h hne t
    · split at h
      · split_ifs at h with hletter
        · have exponent := (stableInside_readExponent _ _ _).more h hne t
          simp_all [afterInteger]
        · cases h
          simp_all [afterInteger]
      · cases h
        exact absurd rfl hne
  nil := by
    intro a r h
    cases h
    rfl

theorem readNumber_append {c : Char} (hzero : c ≠ '0') (hdigit : c.isDigit = true)
    (left : (takeDigits UInt64.size 0 (c :: s)).2 ≠ []) (t : List Char) :
    readNumber negative (c :: s ++ t) =
      let (n, r) := takeDigits UInt64.size 0 (c :: s)
      if startsWithDigit r then readLong negative n (r ++ t)
      else afterInteger negative n (r ++ t) := by
  have taken := takeDigits_append_of_ne_nil left t
  rw [List.cons_append] at taken ⊢
  simp only [readNumber, if_neg hzero, if_pos hdigit, taken, startsWithDigit_append left]

theorem stableInside_readNumber : StableInside (readNumber negative) where
  more := by
    intro s a r h hne t
    cases s with
    | nil => cases h
    | cons c s =>
      simp only [readNumber] at h
      split_ifs at h with hzero hstart hdigit hlong
      · have left : s ≠ [] := (stableInside_afterInteger _ _).ne_nil h hne
        rw [List.cons_append, readNumber, if_pos hzero, startsWithDigit_append left, if_neg hstart]
        exact (stableInside_afterInteger _ _).more h hne t
      · have left := (stableInside_readLong _ _).ne_nil h hne
        rw [readNumber_append negative hzero hdigit left t]
        simp only [if_pos hlong]
        exact (stableInside_readLong _ _).more h hne t
      · have left := (stableInside_afterInteger _ _).ne_nil h hne
        rw [readNumber_append negative hzero hdigit left t]
        simp only [if_neg hlong]
        exact (stableInside_afterInteger _ _).more h hne t
  nil _ _ h := nomatch h

end

/-! ## Numbers that nobody asked for -/

theorem skipExponentDigits_append (h : skipExponentDigits s = .ok r) (hne : r ≠ [])
    (t : List Char) : skipExponentDigits (s ++ t) = .ok (r ++ t) := by
  cases s with
  | nil => cases h
  | cons c s =>
    simp only [skipExponentDigits, List.cons_append] at h ⊢
    split_ifs at h ⊢
    cases h
    rw [dropWhile_append_of_ne_nil _ hne]

theorem skipExponent_append (h : skipExponent s = .ok r) (hne : r ≠ []) (t : List Char) :
    skipExponent (s ++ t) = .ok (r ++ t) := by
  unfold skipExponent at h
  split at h
  · exact skipExponentDigits_append h hne t
  · exact skipExponentDigits_append h hne t
  · have digits := skipExponentDigits_append h hne t
    cases s with
    | nil => cases h
    | cons c s => simp_all [skipExponent]

theorem skipFraction_append (h : skipFraction s = .ok r) (hne : r ≠ []) (t : List Char) :
    skipFraction (s ++ t) = .ok (r ++ t) := by
  have hs : s ≠ [] := by
    rintro rfl
    cases h
  unfold skipFraction at h ⊢
  rw [startsWithDigit_append hs]
  split_ifs at h ⊢
  have left : s.dropWhile Char.isDigit ≠ [] := by
    intro hnil
    rw [hnil] at h
    cases h
    exact hne rfl
  rw [dropWhile_append_of_ne_nil _ left]
  split at h
  · next hexp =>
    rw [hexp]
    exact skipExponent_append h hne t
  · next hexp =>
    rw [hexp]
    exact skipExponent_append h hne t
  · cases h
    cases hd : s.dropWhile Char.isDigit <;> simp_all

theorem skipNumber_tail_append (h : skipNumber.tail s = .ok r) (hne : r ≠ []) (t : List Char) :
    skipNumber.tail (s ++ t) = .ok (r ++ t) := by
  unfold skipNumber.tail at h
  split at h
  · exact skipFraction_append h hne t
  · exact skipExponent_append h hne t
  · exact skipExponent_append h hne t
  · cases h
    cases s <;> simp_all [skipNumber.tail]

theorem skipNumber_append (h : skipNumber s = .ok r) (hne : r ≠ []) (t : List Char) :
    skipNumber (s ++ t) = .ok (r ++ t) := by
  have ended : skipNumber.tail [] ≠ .ok r := by
    intro hr
    cases hr
    exact hne rfl
  cases s with
  | nil => cases h
  | cons c s =>
    simp only [skipNumber, List.cons_append] at h ⊢
    split_ifs at h with hzero hstart hdigit
    · have left : s ≠ [] := by
        rintro rfl
        exact ended h
      rw [if_pos hzero, startsWithDigit_append left, if_neg hstart]
      exact skipNumber_tail_append h hne t
    · have left : s.dropWhile Char.isDigit ≠ [] := by
        intro hnil
        exact ended (hnil ▸ h)
      rw [if_neg hzero, if_pos hdigit, dropWhile_append_of_ne_nil _ left]
      exact skipNumber_tail_append h hne t

end Testbench.Json
