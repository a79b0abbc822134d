import Mathlib.Tactic.ByContra
import Testbench.Proofs.Json.Scalars
import Testbench.Text.Blank
import Testbench.Text.Quoted
/-!
# Quoted texts are read back

Inside quotes each character is written in one of three ways: as it is, by one letter behind a backslash,
or by its code point in braces. A reader that knows where in such a spelling it stands gets back the text
that was quoted, whatever its characters are. No blank stands inside quotes but the space.

Main definition: `unquote?`. Main statements: `escaped_cases`, `unquote?_quoted` and
`eq_space_of_mem_quoted`.
-/
namespace Testbench.Text

/-! ## Reading -/

/-- Where a reader stands: before a character, behind a backslash, before the braces of a code point, or
inside these, with the digits so far. -/
inductive Spelling where
  | plain
  | escape
  | opening
  | code (n : Nat)

/-- The character that a letter behind a backslash stands for. -/
def named (c : Char) : Char :=
  if c = '0' then '\x00' else if c = 't' then '\t' else if c = 'r' then '\r'
  else if c = 'n' then '\n' else c

/-- Reads on from inside of quotes; the closing quote has to be the end. -/
def readFrom : Spelling → List Char → Option (List Char)
  | _, [] => none
  | .plain, c :: cs =>
    if c = '"' then if cs.isEmpty then some [] else none
    else if c = '\\' then readFrom .escape cs
    else (readFrom .plain cs).map (c :: ·)
  | .escape, c :: cs =>
    if c = 'u' then readFrom .opening cs else (readFrom .plain cs).map (named c :: ·)
  | .opening, c :: cs => if c = '\x7b' then readFrom (.code 0) cs else none
  | .code n, c :: cs =>
    if c = '\x7d' then (readFrom .plain cs).map (Char.ofNat n :: ·)
    else (Json.hexValue c).bind fun d => readFrom (.code (16 * n + d)) cs

/-- The text that stands between quotes. -/
def unquote? : List Char → Option (List Char)
  | c :: cs => if c = '"' then readFrom .plain cs else none
  | [] => none

/-! ## Spellings -/

/-- A character is written by a letter that stands for it, as it is, or by its code point. -/
theorem escaped_cases (c : Char) :
    (∃ x, escaped c = ['\\', x] ∧ x ≠ 'u' ∧ named x = c) ∨
      (escaped c = [c] ∧ c ≠ '"' ∧ c ≠ '\\') ∨
      escaped c = '\\' :: 'u' :: '\x7b' :: hex c.toNat ++ ['\x7d'] := by
  unfold escaped
  split_ifs with hzero htab hreturn hfeed hquote hslash hshows
  · exact .inl ⟨'0', rfl, by decide, hzero.symm⟩
  · exact .inl ⟨'t', rfl, by decide, htab.symm⟩
  · exact .inl ⟨'r', rfl, by decide, hreturn.symm⟩
  · exact .inl ⟨'n', rfl, by decide, hfeed.symm⟩
  · exact .inl ⟨'"', rfl, by decide, hquote.symm⟩
  · exact .inl ⟨'\\', rfl, by decide, hslash.symm⟩
  · exact .inr (.inl ⟨rfl, hquote, hslash⟩)
  · exact .inr (.inr rfl)

theorem hex_of_lt {n : Nat} (h : n < 16) : hex n = [n.digitChar] := Nat.toDigits_of_lt_base h

theorem hex_of_le {n : Nat} (h : 16 ≤ n) : hex n = hex (n / 16) ++ [(n % 16).digitChar] :=
  Nat.toDigits_of_base_le (by decide) h

/-- A digit is none of the characters that mean something inside quotes. -/
theorem digitChar_ne {d : Nat} (h : d < 16) :
    d.digitChar ≠ '"' ∧ d.digitChar ≠ '\\' ∧ d.digitChar ≠ '\x7d' := by
  revert d
  decide

theorem exists_digitChar_of_mem_hex {n : Nat} {c : Char} (h : c ∈ hex n) :
    ∃ d < 16, c = d.digitChar := by
  induction n using Nat.strong_induction_on with
  | _ n ih =>
    by_cases hn : n < 16
    · rw [hex_of_lt hn, List.mem_singleton] at h
      exact ⟨n, hn, h⟩
    · rw [hex_of_le (by omega), List.mem_append, List.mem_singleton] at h
      rcases h with h | h
      · exact ih (n / 16) (by omega) h
      · exact ⟨n % 16, by omega, h⟩

/-! ## Reading back -/

theorem readFrom_digit {d : Nat} (h : d < 16) (n : Nat) (rest : List Char) :
    readFrom (.code n) (d.digitChar :: rest) = readFrom (.code (16 * n + d)) rest := by
  rw [readFrom, if_neg (digitChar_ne h).2.2, Json.hexValue_digitChar d h]
  rfl

theorem readFrom_hex (n : Nat) (rest : List Char) :
    readFrom (.code 0) (hex n ++ rest) = readFrom (.code n) rest := by
  induction n using Nat.strong_induction_on generalizing rest with
  | _ n ih =>
    by_cases hn : n < 16
    · simp [hex_of_lt hn, readFrom_digit hn]
    · -- All digits but the last one are those of `n / 16`.
      have hlast : n % 16 < 16 := by omega
      have hsum : 16 * (n / 16) + n % 16 = n := by omega
      rw [hex_of_le (by omega), List.append_assoc, ih (n / 16) (by omega), List.singleton_append,
        readFrom_digit hlast, hsum]

/-- Each character is read back from its spelling, whatever follows. -/
theorem readFrom_escaped (c : Char) (rest : List Char) :
    readFrom .plain (escaped c ++ rest) = (readFrom .plain rest).map (c :: ·) := by
  rcases escaped_cases c with ⟨x, hx, hu, rfl⟩ | ⟨hc, hquote, hslash⟩ | hcode
  · simp [hx, readFrom, hu]
  · simp [hc, readFrom, hquote, hslash]
  · simp [hcode, readFrom, readFrom_hex]

theorem readFrom_flatMap_escaped (cs : List Char) :
    readFrom .plain (cs.flatMap escaped ++ ['"']) = some cs := by
  induction cs with
  | nil => rfl
  | cons c cs ih => rw [List.flatMap_cons, List.append_assoc, readFrom_escaped, ih, Option.map_some]

/-- What stands between the quotes of a quoted text is the text. -/
theorem unquote?_quoted (s : String) : unquote? (quoted s).toList = some s.toList := by
  simp [quoted, unquote?, readFrom_flatMap_escaped]

/-! ## Blanks -/

/-- The code points of the blanks. -/
def blankCodes : List Nat :=
  List.range' 0x9 5 ++ [0x20, 0x85, 0xa0, 0x1680] ++ List.range' 0x2000 11 ++
    [0x2028, 0x2029, 0x202f, 0x205f, 0x3000]

theorem mem_blankCodes {c : Char} (h : isBlank c = true) : c.toNat ∈ blankCodes := by
  simp only [isBlank, Bool.or_eq_true, Bool.and_eq_true, decide_eq_true_eq, beq_iff_eq] at h
  simp only [blankCodes, List.mem_append, List.mem_range'_1, List.mem_cons, List.not_mem_nil]
  grind

/-- A blank other than the space does not show by itself. -/
theorem shows_of_isBlank {c : Char} (h : isBlank c = true) (hc : c ≠ ' ') : shows c = false := by
  have hidden : ∀ n ∈ blankCodes, n ≠ 0x20 → within hiddenBounds n = true := by decide +kernel
  have hn : c.toNat ≠ 0x20 := fun same => hc (Char.toNat_inj.1 same)
  rw [shows, hidden _ (mem_blankCodes h) hn]
  rfl

theorem isBlank_digitChar {d : Nat} (h : d < 16) : isBlank d.digitChar = false := by
  revert d
  decide

/-- The only blank inside quotes is the space. -/
theorem eq_space_of_mem_escaped {c d : Char} (h : d ∈ escaped c) (blank : isBlank d = true) :
    d = ' ' := by
  by_contra hd
  -- What an escape is made of is no blank, and a blank that stands for itself would have to show.
  have not_sign : d ∉ ['\\', '0', 't', 'r', 'n', '"', 'u', '\x7b', '\x7d'] := by
    intro hsign
    have unblank : ['\\', '0', 't', 'r', 'n', '"', 'u', '\x7b', '\x7d'].all (!isBlank ·) = true := by
      decide
    simpa [blank] using List.all_eq_true.1 unblank d hsign
  have not_digit : d ∉ hex c.toNat := by
    intro hdigit
    obtain ⟨n, hn, rfl⟩ := exists_digitChar_of_mem_hex hdigit
    simp [isBlank_digitChar hn] at blank
  have not_shown : ¬ (d = c ∧ shows c = true) := by
    rintro ⟨rfl, hshows⟩
    simp [shows_of_isBlank blank hd] at hshows
  unfold escaped at h
  grind

theorem eq_space_of_mem_quoted {s : String} {d : Char} (h : d ∈ (quoted s).toList)
    (blank : isBlank d = true) : d = ' ' := by
  simp only [quoted, String.toList_ofList, List.mem_cons, List.mem_append, List.mem_flatMap,
    List.not_mem_nil, or_false] at h
  rcases h with (rfl | ⟨c, -, hd⟩) | rfl
  · cases blank
  · exact eq_space_of_mem_escaped hd blank
  · cases blank

end Testbench.Text
