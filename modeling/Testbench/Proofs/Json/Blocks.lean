import Testbench.Proofs.Json.Scalars
/-!
# Printed maps and lists are read back

Fields are printed one to a line, and so are the maps in a list. A map is read back if the value of each
of its fields is, a list if each of its maps is; the bounds on the number of fields and elements
never come into play, since each of these takes a line.

Main definitions: `EntriesRead` for the fields of a map, in order. Main statements: `readParts_block` for
maps and `reads_list` for lists.
-/
namespace Testbench.Json
variable {α δ : Type}

theorem endsLine_lines (n : Nat) (close : Char) (ls : List (List Char)) (rest : List Char) :
    EndsLine (lines n close ls ++ rest) := by
  cases ls with
  | nil => exact ⟨_, .inr rfl⟩
  | cons l ls => exact ⟨_, .inl rfl⟩

theorem length_lt_length_lines (n : Nat) (close : Char) (ls : List (List Char)) :
    ls.length < (lines n close ls).length := by
  induction ls with
  | nil => simp [lines]
  | cons l ls ih =>
    simp only [lines, List.length_cons, List.length_append]
    omega

/-! ## Maps -/

/-- Named values, printed at a depth of `n` spaces. -/
def fields (n : Nat) (fs : List (List Char × List Char)) : List (List Char) :=
  fs.map fun f => field n f.1 f.2

/-- The next key is read, whether its field is the first one or follows a comma. -/
theorem nextKey_field (n : Nat) (name value rest : List Char) :
    nextKey true ('\n' :: field n name value ++ rest) =
        .ok (some name, ':' :: ' ' :: value ++ rest) ∧
      nextKey false (',' :: '\n' :: field n name value ++ rest) =
        .ok (some name, ':' :: ' ' :: value ++ rest) := by
  simp [nextKey, startKey, field, written, skipBlanks_cons, isBlank]

theorem nextKey_close (first : Bool) (n : Nat) (rest : List Char) :
    nextKey first ('\n' :: List.replicate n ' ' ++ '}' :: rest) = .ok (none, '}' :: rest) := by
  simp [nextKey, skipBlanks_cons, isBlank]

theorem readEntriesWithin_cons {entry : δ → List Char → Reader δ} {first : Bool} {d d' d'' : δ}
    {key s r r' r'' : List Char} {bound : List Char} (hkey : nextKey first s = .ok (some key, r))
    (hentry : entry d key r = .ok (d', r'))
    (hmore : readEntriesWithin entry bound false d' r' = .ok (d'', r'')) (c : Char) :
    readEntriesWithin entry (c :: bound) first d s = .ok (d'', r'') := by
  simp only [readEntriesWithin, hkey, hentry, hmore]

/-- Each named value is read in front of what ends its line, and adds to what the ones before it gave. -/
inductive EntriesRead (entry : δ → List Char → Reader δ) :
    δ → List (List Char × List Char) → δ → Prop
  | nil (d : δ) : EntriesRead entry d [] d
  | cons {d d' d'' : δ} {name value : List Char} {fs : List (List Char × List Char)} :
    (∀ rest, EndsLine rest → entry d name (':' :: ' ' :: value ++ rest) = .ok (d', rest)) →
      EntriesRead entry d' fs d'' → EntriesRead entry d ((name, value) :: fs) d''

theorem readEntriesWithin_lines {entry : δ → List Char → Reader δ} {d d' : δ}
    {fs : List (List Char × List Char)} (h : EntriesRead entry d fs d') (n m : Nat)
    {bound : List Char} (short : fs.length < bound.length) (rest : List Char) :
    readEntriesWithin entry bound false d (lines n '}' (fields m fs) ++ rest) =
      .ok (d', '}' :: rest) := by
  induction h generalizing bound with
  | nil d =>
    obtain ⟨c, bound, rfl⟩ := List.exists_cons_of_length_pos short
    have close := nextKey_close false n rest
    simp only [List.cons_append] at close
    simp [fields, lines, readEntriesWithin, close]
  | @cons d d' d'' name value fs hentry _ ih =>
    obtain ⟨c, bound, rfl⟩ := List.exists_cons_of_length_pos (Nat.zero_lt_of_lt short)
    have key := (nextKey_field m name value (lines n '}' (fields m fs) ++ rest)).2
    have hline : lines n '}' (fields m ((name, value) :: fs)) ++ rest =
        ',' :: '\n' :: field m name value ++ (lines n '}' (fields m fs) ++ rest) := by
      simp [fields, lines]
    rw [hline]
    exact readEntriesWithin_cons key (hentry _ (endsLine_lines n '}' _ rest))
      (ih (Nat.lt_of_succ_lt_succ short)) c

/-- A printed map is read back, whatever comes after it. -/
theorem readParts_block {entry : δ → List Char → Reader δ} {finish : δ → Reader α} {d d' : δ}
    {a : α} {fs : List (List Char × List Char)} (h : EntriesRead entry d fs d') (hne : fs ≠ [])
    (hfinish : ∀ s, finish d' s = .ok (a, s)) (expected : String) (fromList : Reader α)
    (n m : Nat) (rest : List Char) :
    Json.readParts expected fromList (fun s => do
        let (d, s) ← readEntries entry d s
        finish d s) (block n '{' '}' (fields m fs) ++ rest) = .ok (a, rest) := by
  cases h with
  | nil => exact absurd rfl hne
  | @cons _ d₁ _ name value fs hentry hmore =>
    let tail := lines n '}' (fields m fs) ++ rest
    let inside := '\n' :: field m name value ++ tail
    have short : fs.length < inside.length := by
      have := length_lt_length_lines n '}' (fields m fs)
      simp only [fields, List.length_map] at this
      simp only [inside, tail, fields, List.length_append]
      omega
    have entries : readEntries entry d inside = .ok (d', '}' :: rest) :=
      readEntriesWithin_cons (nextKey_field m name value tail).1
        (hentry tail (endsLine_lines n '}' _ rest)) (readEntriesWithin_lines hmore n m short rest) ' '
    have hblock : block n '{' '}' (fields m ((name, value) :: fs)) ++ rest = '{' :: inside := by
      simp [block, fields, inside, tail]
    have close : closeMap ('}' :: rest) = .ok rest := by simp [closeMap, skipBlanks_cons, isBlank]
    simp [hblock, Json.readParts, skipBlanks_cons, isBlank, inMap, entries, bind, Except.bind,
      hfinish, close]

/-! ## Lists -/

/-- Maps with printed fields, in a list at a depth of `k` spaces. -/
def maps (k : Nat) (print : α → List (List Char)) (as : List α) : List (List Char) :=
  as.map fun a => List.replicate k ' ' ++ block k '{' '}' (print a)

/-- A list goes on with a map, whether that is the first one or follows a comma. -/
theorem nextItem_block (k : Nat) (ls : List (List Char)) (rest : List Char) :
    nextItem true ('\n' :: (List.replicate k ' ' ++ block k '{' '}' ls) ++ rest) =
        .ok (true, block k '{' '}' ls ++ rest) ∧
      nextItem false (',' :: '\n' :: (List.replicate k ' ' ++ block k '{' '}' ls) ++ rest) =
        .ok (true, block k '{' '}' ls ++ rest) := by
  cases ls <;> simp [nextItem, block, skipBlanks_cons, isBlank]

theorem nextItem_close (first : Bool) (n : Nat) (rest : List Char) :
    nextItem first ('\n' :: List.replicate n ' ' ++ ']' :: rest) = .ok (false, ']' :: rest) := by
  simp [nextItem, skipBlanks_cons, isBlank]

theorem readItemsWithin_cons {item : Reader α} {first : Bool} {a : α} {as : List α}
    {bound s r r' r'' : List Char} (hnext : nextItem first s = .ok (true, r))
    (hitem : item r = .ok (a, r'))
    (hmore : readItemsWithin item bound false r' = .ok (as, r'')) (c : Char) :
    readItemsWithin item (c :: bound) first s = .ok (a :: as, r'') := by
  simp only [readItemsWithin, hnext, hitem, hmore]

variable {item : Reader α} {k : Nat} {print : α → List (List Char)} {as : List α}

theorem readItemsWithin_lines
    (h : ∀ a ∈ as, ∀ rest, item (block k '{' '}' (print a) ++ rest) = .ok (a, rest)) (n : Nat)
    {bound : List Char} (short : as.length < bound.length) (rest : List Char) :
    readItemsWithin item bound false (lines n ']' (maps k print as) ++ rest) =
      .ok (as, ']' :: rest) := by
  induction as generalizing bound with
  | nil =>
    obtain ⟨c, bound, rfl⟩ := List.exists_cons_of_length_pos short
    have close := nextItem_close false n rest
    simp only [List.cons_append] at close
    simp [maps, lines, readItemsWithin, close]
  | cons a as ih =>
    obtain ⟨ha, has⟩ := List.forall_mem_cons.1 h
    obtain ⟨c, bound, rfl⟩ := List.exists_cons_of_length_pos (Nat.zero_lt_of_lt short)
    have next := (nextItem_block k (print a) (lines n ']' (maps k print as) ++ rest)).2
    have hline : lines n ']' (maps k print (a :: as)) ++ rest =
        ',' :: '\n' :: (List.replicate k ' ' ++ block k '{' '}' (print a)) ++
          (lines n ']' (maps k print as) ++ rest) := by
      simp [maps, lines]
    rw [hline]
    exact readItemsWithin_cons next (ha _) (ih has (Nat.lt_of_succ_lt_succ short)) c

/-- A printed list of maps is read back. -/
theorem reads_list (expected : String)
    (h : ∀ a ∈ as, ∀ rest, item (block k '{' '}' (print a) ++ rest) = .ok (a, rest)) (n : Nat) :
    Reads (readList expected item) (block n '[' ']' (maps k print as)) as := by
  intro rest _
  have close : closeList (']' :: rest) = .ok rest := by simp [closeList, skipBlanks_cons, isBlank]
  cases as with
  | nil =>
    simp [readList, maps, block, skipBlanks_cons, isBlank, inList, readItems, readItemsWithin,
      nextItem, close]
  | cons a as =>
    obtain ⟨ha, has⟩ := List.forall_mem_cons.1 h
    let tail := lines n ']' (maps k print as) ++ rest
    let inside := '\n' :: (List.replicate k ' ' ++ block k '{' '}' (print a)) ++ tail
    have short : as.length < inside.length := by
      have := length_lt_length_lines n ']' (maps k print as)
      simp only [maps, List.length_map] at this
      simp only [inside, tail, maps, List.length_append]
      omega
    have items : readItems item inside = .ok (a :: as, ']' :: rest) :=
      readItemsWithin_cons (nextItem_block k (print a) tail).1 (ha tail)
        (readItemsWithin_lines has n short rest) ' '
    have hblock : ' ' :: block n '[' ']' (maps k print (a :: as)) ++ rest = ' ' :: '[' :: inside := by
      simp [block, maps, inside, tail]
    rw [hblock]
    simp [readList, skipBlanks_cons, isBlank, inList, items, close]

end Testbench.Json
