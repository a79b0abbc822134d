import Mathlib.Data.Nat.Init
import Mathlib.Tactic.SplitIfs
import Testbench.Json.Value
import Testbench.Results.Printer
/-!
# Printed texts and numbers are read back

A written text is read back whatever follows its closing quote, as escapes are undone one by one. The
digits of a number say nothing of where they end, so a number is read back in front of what ends a line.

Main definition: `Reads`. Main statements: `reads_natural`, `reads_written`.
-/
namespace Testbench.Json

/-! ## Texts -/

theorem readText_quote (r : List Char) : readText ('"' :: r) = .ok ([], r) := by
  rw [readText]
  simp

theorem readText_plain {c : Char} (hquote : c ≠ '"') (hslash : c ≠ '\\')
    (hcontrol : ¬ c.toNat < 0x20) {s t r : List Char} (h : readText s = .ok (t, r)) :
    readText (c :: s) = .ok (c :: t, r) := by
  rw [readText]
  simp [hquote, hslash, hcontrol, h]

theorem readText_escape {c : Char} {s s' t r : List Char} (hescape : readEscape s = .ok (c, s'))
    (h : readText s' = .ok (t, r)) : readText ('\\' :: s) = .ok (c :: t, r) := by
  rw [readText, if_neg (by decide), if_pos rfl]
  -- The equation of the escape is kept in the match, so it cannot be rewritten there.
  split
  · rename_i hbad
    cases hescape.symm.trans hbad
  · rename_i hok
    cases hescape.symm.trans hok
    rw [h]

theorem hexValue_digitChar : ∀ n < 16, hexValue (Nat.digitChar n) = some n := by decide

theorem hasFourBytes_cons (a b c d : Char) (s : List Char) :
    hasFourBytes (a :: b :: c :: d :: s) = true := by
  have ha := a.utf8Size_pos
  have hb := b.utf8Size_pos
  have hc := c.utf8Size_pos
  have hd := d.utf8Size_pos
  refine decide_eq_true ?_
  simp only [List.take_succ_cons, List.take_zero, List.foldl_cons, List.foldl_nil]
  omega

theorem readHex_control {n : Nat} (h : n < 0x20) (s : List Char) :
    readHex ('0' :: '0' :: Nat.digitChar (n / 16) :: Nat.digitChar (n % 16) :: s) = .ok (n, s) := by
  have hzero : hexValue '0' = some 0 := by decide
  have hhigh := hexValue_digitChar (n / 16) (by omega)
  have hlow := hexValue_digitChar (n % 16) (by omega)
  have hn : (((0 * 16 + 0) * 16 + 0) * 16 + n / 16) * 16 + n % 16 = n := by omega
  simp only [readHex, hasFourBytes_cons, if_true, readHexFrom, hzero, hhigh, hlow, hn]

theorem readEscape_control {c : Char} (h : c.toNat < 0x20) (s : List Char) :
    readEscape ('u' :: '0' :: '0' :: Nat.digitChar (c.toNat / 16) ::
      Nat.digitChar (c.toNat % 16) :: s) = .ok (c, s) := by
  have hlow : isLow c.toNat = false := by
    simp only [isLow, Bool.and_eq_false_iff, decide_eq_false_iff_not]
    omega
  have hhigh : isHigh c.toNat = false := by
    simp only [isHigh, Bool.and_eq_false_iff, decide_eq_false_iff_not]
    omega
  have hshort : shortEscape 'u' = none := by decide
  simp [readEscape, hshort, readHex_control h, hlow, hhigh]

/-- Each character is read back from the way it is escaped. -/
theorem readText_escaped (c : Char) {s t r : List Char} (h : readText s = .ok (t, r)) :
    readText (escaped c ++ s) = .ok (c :: t, r) := by
  have short {e d : Char} (he : shortEscape e = some d) :
      readText ('\\' :: e :: s) = .ok (d :: t, r) := by
    have hescape : readEscape (e :: s) = .ok (d, s) := by simp [readEscape, he]
    exact readText_escape hescape h
  unfold escaped
  split_ifs with hquote hslash h8 hc hn hr ht hcontrol
  · subst hquote; exact short (by decide)
  · subst hslash; exact short (by decide)
  · subst h8; exact short (by decide)
  · subst hc; exact short (by decide)
  · subst hn; exact short (by decide)
  · subst hr; exact short (by decide)
  · subst ht; exact short (by decide)
  · exact readText_escape (readEscape_control hcontrol s) h
  · exact readText_plain hquote hslash hcontrol h

@[simp] theorem readText_written (t r : List Char) :
    readText (t.flatMap escaped ++ '"' :: r) = .ok (t, r) := by
  induction t with
  | nil => exact readText_quote r
  | cons c t ih =>
    rw [List.flatMap_cons, List.append_assoc]
    exact readText_escaped c ih

/-! ## Blanks -/

theorem skipBlanks_cons (c : Char) (s : List Char) :
    skipBlanks (c :: s) = if isBlank c then skipBlanks s else c :: s := List.dropWhile_cons

@[simp] theorem skipBlanks_replicate (n : Nat) (s : List Char) :
    skipBlanks (List.replicate n ' ' ++ s) = skipBlanks s := by
  induction n with
  | zero => rfl
  | succ n ih => simpa [List.replicate_succ, skipBlanks_cons, isBlank] using ih

theorem isBlank_of_isDigit {c : Char} (h : c.isDigit = true) : isBlank c = false := by
  cases hb : isBlank c with
  | false => rfl
  | true =>
    simp only [isBlank, Bool.or_eq_true, beq_iff_eq] at hb
    rcases hb with ((rfl | rfl) | rfl) | rfl <;> exact absurd h (by decide)

/-! ## Numbers -/

/-- What comes after a printed value: a comma, or the end of the line. -/
def EndsLine (rest : List Char) : Prop := ∃ r, rest = ',' :: r ∨ rest = '\n' :: r

theorem EndsLine.startsWithDigit {rest : List Char} (h : EndsLine rest) :
    startsWithDigit rest = false := by
  obtain ⟨r, rfl | rfl⟩ := h <;> rfl

theorem EndsLine.afterInteger {rest : List Char} (h : EndsLine rest) (n : Nat) :
    afterInteger false n rest = .ok (.natural n, rest) := by
  obtain ⟨r, rfl | rfl⟩ := h <;> simp [Json.afterInteger, Json.afterInteger.whole]

theorem takeDigits_of_not_digit (limit n : Nat) {s : List Char} (h : startsWithDigit s = false) :
    takeDigits limit n s = (n, s) := by
  cases s with
  | nil => rfl
  | cons c s =>
    have hc : c.isDigit = false := h
    simp [takeDigits, hc]

theorem le_ofDigitChars (digits : List Char) (n : Nat) : n ≤ Nat.ofDigitChars 10 digits n := by
  induction digits generalizing n with
  | nil => simp
  | cons c digits ih =>
    rw [Nat.ofDigitChars_cons]
    have := ih (10 * n + (c.toNat - '0'.toNat))
    omega

/-- All digits are taken if the number that they make stays below the limit. -/
theorem takeDigits_append {digits : List Char} (hdigits : ∀ c ∈ digits, c.isDigit = true)
    {limit n : Nat} (h : Nat.ofDigitChars 10 digits n < limit) {rest : List Char}
    (hrest : startsWithDigit rest = false) :
    takeDigits limit n (digits ++ rest) = (Nat.ofDigitChars 10 digits n, rest) := by
  induction digits generalizing n with
  | nil => exact takeDigits_of_not_digit limit n hrest
  | cons c digits ih =>
    obtain ⟨hc, hmore⟩ := List.forall_mem_cons.1 hdigits
    have hnext : 10 * n + (c.toNat - '0'.toNat) = n * 10 + (c.toNat - 48) := by
      rw [Nat.mul_comm]
      rfl
    rw [Nat.ofDigitChars_cons, hnext] at h ⊢
    have hlt : n * 10 + (c.toNat - 48) < limit := Nat.lt_of_le_of_lt (le_ofDigitChars digits _) h
    simp only [List.cons_append, takeDigits, hc, hlt, decide_true, Bool.and_self, if_true]
    exact ih hmore h

theorem isDigit_of_mem_natural {n : Nat} {c : Char} (h : c ∈ natural n) : c.isDigit = true :=
  Nat.isDigit_of_mem_toDigits (by decide) (by decide) h

/-- Only zero is printed with a zero in front. -/
theorem head_natural {n : Nat} (h : n ≠ 0) : ∃ c digits, natural n = c :: digits ∧ c ≠ '0' := by
  induction n using Nat.strong_induction_on with
  | _ n ih =>
    by_cases hn : n < 10
    · refine ⟨n.digitChar, [], Nat.toDigits_of_lt_base hn, ?_⟩
      simpa using h
    · obtain ⟨c, digits, hdigits, hc⟩ := ih (n / 10) (by omega) (by omega)
      refine ⟨c, digits ++ [(n % 10).digitChar], ?_, hc⟩
      rw [natural, Nat.toDigits_of_base_le (by omega) (by omega), ← natural, hdigits,
        List.cons_append]

theorem readNumber_natural {n : Nat} (h : n < UInt64.size) {rest : List Char}
    (hrest : EndsLine rest) : readNumber false (natural n ++ rest) = .ok (.natural n, rest) := by
  by_cases h0 : n = 0
  · have hzero : natural 0 = ['0'] := by decide
    subst h0
    simp [hzero, readNumber, hrest.startsWithDigit, hrest.afterInteger]
  · obtain ⟨c, digits, hdigits, hc⟩ := head_natural h0
    have hdigit : c.isDigit = true := isDigit_of_mem_natural (n := n) (by simp [hdigits])
    have value : Nat.ofDigitChars 10 (natural n) 0 = n := Nat.ofDigitChars_ten_toDigits
    have taken : takeDigits UInt64.size 0 (natural n ++ rest) = (n, rest) := by
      have := takeDigits_append (fun c => isDigit_of_mem_natural) (value ▸ h) hrest.startsWithDigit
      rwa [value] at this
    rw [hdigits, List.cons_append] at taken ⊢
    simp only [readNumber, hc, hdigit, if_false, if_true, taken, hrest.startsWithDigit]
    exact hrest.afterInteger n

/-! ## Values of a known kind -/

/-- A reader takes a printed value off the front of a text, whatever comes after it. -/
def Reads {α : Type} (reader : Reader α) (value : List Char) (a : α) : Prop :=
  ∀ rest, EndsLine rest → reader (' ' :: value ++ rest) = .ok (a, rest)

theorem reads_natural {n : Nat} (h : n < UInt64.size) (expected : String) :
    Reads (readNat expected) (natural n) n := by
  intro rest hrest
  have number := readNumber_natural h hrest
  obtain ⟨c, digits, hdigits⟩ := List.exists_cons_of_ne_nil (Nat.toDigits_ne_nil (n := n) (b := 10))
  have hdigit : c.isDigit = true := isDigit_of_mem_natural (n := n) (by simp [natural, hdigits])
  have hminus : c ≠ '-' := by
    rintro rfl
    exact absurd hdigit (by decide)
  have hspace : isBlank ' ' = true := rfl
  rw [natural, hdigits, List.cons_append] at number
  simp [readNat, natural, hdigits, skipBlanks_cons, isBlank_of_isDigit hdigit, hspace, hdigit, number,
    readNat.fitting]

theorem reads_written (expected : String) (s : String) :
    Reads (readString expected) (written s.toList) s := by
  intro rest _
  simp [readString, written, skipBlanks_cons, isBlank]

theorem reads_optional (expected : String) (s : String) :
    Reads (readOptional expected) (written s.toList) (some s) := by
  intro rest _
  simp [readOptional, readString, written, skipBlanks_cons, isBlank]

end Testbench.Json
