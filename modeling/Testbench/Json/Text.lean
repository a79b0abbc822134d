import Testbench.Json.Reader
/-!
# JSON texts

A text stands between double quotes. Reading undoes escapes and refuses control characters and halves of
surrogate pairs; writing escapes quotes, backslashes and control characters, and nothing else.

Main definitions: `readText` reads on after the opening quote, `skipText` passes over a text that
nobody asked for, `written` writes a text with its quotes.
-/
namespace Testbench.Json

def hexValue (c : Char) : Option Nat :=
  let n := c.toNat
  if 48 ≤ n && n ≤ 57 then some (n - 48)
  else if 97 ≤ n && n ≤ 102 then some (n - 87)
  else if 65 ≤ n && n ≤ 70 then some (n - 55)
  else none

/-- As many hexadecimal digits as asked for. -/
def readHexFrom : Nat → Nat → Reader Nat
  | 0, n, s => .ok (n, s)
  | _ + 1, _, [] => .error (.here .endInText [])
  | k + 1, n, c :: s =>
    match hexValue c with
    | none => .error (.atNext .invalidEscape (c :: s))
    | some v => readHexFrom k (n * 16 + v) s

/-- Whether at least four bytes are left. -/
def hasFourBytes (s : List Char) : Bool :=
  decide (4 ≤ (s.take 4).foldl (fun n c => n + c.utf8Size) 0)

def readHex (s : List Char) : Except Problem (Nat × List Char) :=
  if hasFourBytes s then readHexFrom 4 0 s else .error (.here .endInText [])

def isHigh (n : Nat) : Bool := 0xd800 ≤ n && n ≤ 0xdbff
def isLow (n : Nat) : Bool := 0xdc00 ≤ n && n ≤ 0xdfff

/-- The second half of a surrogate pair whose first half is `high`. -/
def readLow (high : Nat) : Reader Char
  | '\\' :: 'u' :: r =>
    match readHex r with
    | .error p => .error p
    | .ok (low, r') =>
      if isLow low then
        .ok (Char.ofNat ((high - 0xd800) * 0x400 + (low - 0xdc00) + 0x10000), r')
      else .error (.here .loneSurrogate r')
  | ['\\'] => .error (.here .endInText [])
  | '\\' :: r => .error (.atNext .unfinishedPair r)
  | [] => .error (.here .endInText [])
  | r => .error (.atNext .unfinishedPair r)

/-- The character of an escape with a single letter. -/
def shortEscape (c : Char) : Option Char :=
  if c = '"' ∨ c = '\\' ∨ c = '/' then some c
  else if c = 'b' then some '\x08'
  else if c = 'f' then some '\x0c'
  else if c = 'n' then some '\n'
  else if c = 'r' then some '\r'
  else if c = 't' then some '\t'
  else none

/-- The character that an escape stands for, after its backslash. -/
def readEscape : Reader Char
  | [] => .error (.here .endInText [])
  | c :: r =>
    match shortEscape c with
    | some d => .ok (d, r)
    | none =>
      if c = 'u' then
        match readHex r with
        | .error p => .error p
        | .ok (n, r') =>
          if isLow n then .error (.here .loneSurrogate r')
          else if isHigh n then readLow n r'
          else .ok (Char.ofNat n, r')
      else .error (.atNext .invalidEscape (c :: r))

theorem readHexFrom_length {k n m : Nat} {s r : List Char} (h : readHexFrom k n s = .ok (m, r)) :
    r.length ≤ s.length := by
  induction k generalizing n s with
  | zero => simp only [readHexFrom, Except.ok.injEq, Prod.mk.injEq] at h; simp [h.2]
  | succ k ih =>
    cases s with
    | nil => simp [readHexFrom] at h
    | cons c s =>
      simp only [readHexFrom] at h
      split at h
      · simp at h
      · exact Nat.le_succ_of_le (ih h)

theorem readHex_length {n : Nat} {s r : List Char} (h : readHex s = .ok (n, r)) :
    r.length ≤ s.length := by
  unfold readHex at h
  split at h
  · exact readHexFrom_length h
  · simp at h

theorem readLow_length {high : Nat} {c : Char} {s r : List Char} (h : readLow high s = .ok (c, r)) :
    r.length ≤ s.length := by
  unfold readLow at h
  split at h
  · split at h
    · simp at h
    · rename_i e
      split at h
      · simp only [Except.ok.injEq, Prod.mk.injEq] at h
        have := readHex_length e
        rw [← h.2]
        simp only [List.length_cons]
        omega
      · simp at h
  all_goals simp at h

theorem readEscape_length {c : Char} {s r : List Char} (h : readEscape s = .ok (c, r)) :
    r.length < s.length := by
  unfold readEscape at h
  split at h
  · simp at h
  · split at h
    · simp only [Except.ok.injEq, Prod.mk.injEq] at h
      simp [h.2]
    · split at h
      · split at h
        · simp at h
        · rename_i e
          have := readHex_length e
          split at h
          · simp at h
          · split at h
            · have := readLow_length h
              simp only [List.length_cons]
              omega
            · simp only [Except.ok.injEq, Prod.mk.injEq] at h
              rw [← h.2]
              simp only [List.length_cons]
              omega
      · simp at h

/-- The characters up to the closing quote. -/
def readText (s : List Char) : Except Problem (List Char × List Char) :=
  match s with
  | [] => .error (.here .endInText [])
  | c :: r =>
    if c = '"' then .ok ([], r)
    else if c = '\\' then
      match h : readEscape r with
      | .error p => .error p
      | .ok (d, r') =>
        have := readEscape_length h
        match readText r' with
        | .error p => .error p
        | .ok (t, r'') => .ok (d :: t, r'')
    else if c.toNat < 0x20 then .error (.atNext .controlInText (c :: r))
    else
      match readText r with
      | .error p => .error p
      | .ok (t, r') => .ok (c :: t, r')
termination_by s.length
decreasing_by all_goals simp_wf <;> omega

/-- What is left after an escape that nobody asked for; surrogates are not checked. -/
def skipEscape : List Char → Except Problem (List Char)
  | [] => .error (.here .endInText [])
  | c :: r =>
    if (shortEscape c).isSome then .ok r
    else if c = 'u' then (readHex r).map Prod.snd
    else .error (.atNext .invalidEscape (c :: r))

/-- What is left after a text that nobody asked for, of fewer characters than `bound` has. -/
def skipTextWithin : List Char → List Char → Except Problem (List Char)
  | [], s => .error (.here .endInText s)
  | _, [] => .error (.here .endInText [])
  | _ :: bound, c :: r =>
    if c = '"' then .ok r
    else if c = '\\' then
      match skipEscape r with
      | .error p => .error p
      | .ok r' => skipTextWithin bound r'
    else if c.toNat < 0x20 then .error (.here .controlInText (c :: r))
    else skipTextWithin bound r

def skipText (s : List Char) : Except Problem (List Char) := skipTextWithin (' ' :: s) s

/-! ## Keys -/

/-- A key after its opening quote is due. -/
def startKey : List Char → Except Problem (Option (List Char) × List Char)
  | '"' :: r =>
    match readText r with
    | .error p => .error p
    | .ok (t, r') => .ok (some t, r')
  | r => .error (.atNext .keyNotText r)

/-- The next key of a map, or `none` before its closing brace. -/
def nextKey (first : Bool) (s : List Char) : Except Problem (Option (List Char) × List Char) :=
  match skipBlanks s with
  | [] => .error (.atNext .endInObject [])
  | c :: r =>
    if c = '}' then .ok (none, c :: r)
    else if first then startKey (c :: r)
    else if c = ',' then
      match skipBlanks r with
      | [] => .error (.atNext .endInValue [])
      | d :: r' =>
        if d = '}' then .error (.atNext .trailingComma (d :: r')) else startKey (d :: r')
    else .error (.atNext .expectedCommaInObject (c :: r))

/-- The entries of a map, each added to what the entries before it gave, fewer than `bound` has members.
`entry` reads on after a key. -/
def readEntriesWithin {δ : Type} (entry : δ → List Char → Reader δ) :
    List Char → Bool → δ → Reader δ
  | [], _, _, s => .error (.here .endInValue s)
  | _ :: bound, first, d, s =>
    match nextKey first s with
    | .error p => .error p
    | .ok (none, r) => .ok (d, r)
    | .ok (some key, r) =>
      match entry d key r with
      | .error p => .error p
      | .ok (d', r') => readEntriesWithin entry bound false d' r'

def readEntries {δ : Type} (entry : δ → List Char → Reader δ) (d : δ) : Reader δ := fun s =>
  readEntriesWithin entry (' ' :: s) true d s

/-! ## Writing -/

/-- How a character is written inside quotes. -/
def escaped (c : Char) : List Char :=
  if c = '"' then ['\\', '"']
  else if c = '\\' then ['\\', '\\']
  else if c = '\x08' then ['\\', 'b']
  else if c = '\x0c' then ['\\', 'f']
  else if c = '\n' then ['\\', 'n']
  else if c = '\r' then ['\\', 'r']
  else if c = '\t' then ['\\', 't']
  else if c.toNat < 0x20 then
    ['\\', 'u', '0', '0', Nat.digitChar (c.toNat / 16), Nat.digitChar (c.toNat % 16)]
  else [c]

/-- A text with its quotes. -/
def written (t : List Char) : List Char := '"' :: t.flatMap escaped ++ ['"']

end Testbench.Json
