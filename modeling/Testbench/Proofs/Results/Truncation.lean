import Testbench.Proofs.Json.Stable.Value
import Testbench.Proofs.Results.Storage
/-!
# Results cut short

Results are a map, and a map is read the same whatever comes after its closing brace. So no part of a
results file from its start, short of the whole, is read as results: it is no text if the cut falls inside
a character, and no document otherwise.

Main statements: `Results.stable_read` and `Results.load_truncated`.
-/
namespace Testbench
open Json

/-- The bytes of a text up to some place, short of all of them, are the beginning of the text if they are
a text at all. -/
theorem Text.exists_append_of_isValidUTF8 {s : String} {n : Nat} (short : n < s.utf8ByteSize)
    (valid : (s.toByteArray.extract 0 n).IsValidUTF8) :
    ∃ t, t ≠ "" ∧ String.ofByteArray (s.toByteArray.extract 0 n) valid ++ t = s := by
  have place : String.Pos.Raw.IsValid s ⟨n⟩ :=
    String.Pos.Raw.isValid_iff_isValidUTF8_extract_zero.2 ⟨Nat.le_of_lt short, valid⟩
  obtain ⟨s₁, t, rfl, hn⟩ := String.Pos.Raw.isValid_iff_exists_append.1 place
  cases hn
  refine ⟨t, ?_, ?_⟩
  · rintro rfl
    simp at short
  · congr 1
    apply String.toByteArray_inj.1
    simp [ByteArray.extract_append_eq_left]

/-! ## The parts of results -/

namespace Status

theorem stable_readName : Stable readName where
  more := by
    intro s a r h t
    unfold readName at h ⊢
    split at h
    · next s' hs =>
      split at h
      · cases h
      · next htext =>
        simp only [skipBlanks_append hs t, stable_readText.more htext t]
        split at h
        · cases h
          rfl
        · cases h
    · cases h
  nil _ h := nomatch h

theorem stable_readEntry : Stable readEntry where
  more := by
    intro s a r h t
    unfold readEntry at h ⊢
    split at h
    · cases h
    · next hname =>
      split at h
      · cases h
      · next hcolon =>
        split at h
        · cases h
        · next hnull =>
          split at h
          · next hclose =>
            cases h
            simp only [stable_readName.more hname t, readColon_append hcolon t,
              (stable_readNull "unit").more hnull t, skipBlanks_append hclose t]
          · cases h
          · cases h
  nil _ h := nomatch h

theorem stable_read : Stable Status.read where
  more := by
    intro s a r h t
    unfold Status.read at h ⊢
    split at h
    · cases h
    · next hs =>
      simp only [skipBlanks_append hs t]
      exact stable_readEntry.more h t
    · next hs =>
      simp only [skipBlanks_append hs t]
      exact stable_readName.more h t
    · cases h
  nil _ h := nomatch h

end Status

section
variable {α δ : Type} {part : Reader α}

theorem stableInside_readOnce (h : StableInside part) (name : String) (old : Option α)
    (keep : α → δ) : StableInside (readOnce name old part keep) where
  more := by
    intro s d r hread hne t
    unfold readOnce at hread ⊢
    split at hread
    · cases hread
    · split at hread
      · cases hread
      · next hcolon =>
        split at hread
        · cases hread
        · next hpart =>
          cases hread
          simp only [readColon_append hcolon t, h.more hpart hne t]
  nil := by
    intro d r hread
    cases old <;> cases hread

theorem stableInside_readUnknown (d : δ) : StableInside (readUnknown d) where
  more := by
    intro s d' r hread hne t
    unfold readUnknown at hread ⊢
    split at hread
    · cases hread
    · next hcolon =>
      split at hread
      · cases hread
      · next hskip =>
        cases hread
        simp only [readColon_append hcolon t, skipValue_append hskip hne t]
  nil _ _ h := nomatch h

theorem stableInside_readPart (h : StableInside part) (expected : String) (n : Nat) :
    StableInside (readPart expected n part) where
  more := by
    intro s a r hread hne t
    unfold readPart at hread ⊢
    split at hread
    · cases hread
    · cases hread
    · next hnext =>
      simp only [nextItem_append hnext t]
      exact h.more hread hne t
  nil _ _ h := nomatch h

/-- A part that must have been read, and what is made of it. -/
theorem stableInside_required {next : α → Reader δ} (hnext : ∀ a, StableInside (next a))
    (name : String) (old : Option α) : StableInside (fun s => do
      let a ← required name old s
      next a s) := by
  cases old with
  | none =>
    constructor
    · intro s a r hread
      cases hread
    · intro a r hread
      cases hread
  | some a => exact hnext a

end

namespace Record

theorem stableInside_readEntry (d : Draft) (key : List Char) : StableInside (readEntry d key) := by
  unfold readEntry
  split_ifs
  · exact stableInside_readOnce (stable_readString _).inside _ _ _
  · exact stableInside_readOnce (stable_readString _).inside _ _ _
  · exact stableInside_readOnce Status.stable_read.inside _ _ _
  · exact stableInside_readOnce (stableInside_readNat _) _ _ _
  · exact stableInside_readOnce (stable_readOptional _).inside _ _ _
  · exact stableInside_readUnknown d

theorem stableInside_ofDraft (d : Draft) : StableInside (ofDraft d) := by
  unfold ofDraft
  refine stableInside_required (fun className => ?_) _ _
  refine stableInside_required (fun method => ?_) _ _
  refine stableInside_required (fun status => ?_) _ _
  refine stableInside_required (fun millis => ?_) _ _
  exact stableInside_pure _

theorem stableInside_readMap : StableInside readMap :=
  (stable_readEntries stableInside_readEntry .empty).inside.bind stableInside_ofDraft

theorem stableInside_readLast : StableInside readLast where
  more := by
    intro s a r hread hne t
    unfold readLast at hread ⊢
    split at hread
    · cases hread
    · next hnext =>
      cases hread
      simp only [nextItem_append hnext t]
    · next hnext =>
      simp only [nextItem_append hnext t]
      exact (stable_readOptional "a string").more hread t
  nil _ _ h := nomatch h

-- The parts are put together before they are compared with `readParts`: its own matches keep `bind` from
-- being applied to it.
theorem stableInside_readParts : StableInside readParts :=
  have text := (stable_readString "a string").inside
  have parts := (stableInside_readPart text expected 0).bind fun className =>
    (stableInside_readPart text expected 1).bind fun method =>
    (stableInside_readPart Status.stable_read.inside expected 2).bind fun status =>
    (stableInside_readPart (stableInside_readNat "u64") expected 3).bind fun millis =>
    stableInside_readLast.bind fun message =>
    stableInside_pure (⟨className, method, status, millis, message⟩ : Record)
  parts

theorem stable_read : Stable Record.read :=
  Json.stable_readParts stableInside_readParts stableInside_readMap _

end Record

namespace Results

theorem stable_readRecords : Stable readRecords := stable_readList Record.stable_read.inside _

theorem stableInside_readEntry (d : Draft) (key : List Char) : StableInside (readEntry d key) := by
  unfold readEntry
  split_ifs
  · exact stableInside_readOnce (stableInside_readNat _) _ _ _
  · exact stableInside_readOnce (stableInside_readNat _) _ _ _
  · exact stableInside_readOnce (stableInside_readNat _) _ _ _
  · exact stableInside_readOnce (stableInside_readNat _) _ _ _
  · exact stableInside_readOnce stable_readRecords.inside _ _ _
  · exact stableInside_readUnknown d

theorem stableInside_ofDraft (d : Draft) : StableInside (ofDraft d) := by
  unfold ofDraft
  refine stableInside_required (fun passed => ?_) _ _
  refine stableInside_required (fun failed => ?_) _ _
  refine stableInside_required (fun ignored => ?_) _ _
  refine stableInside_required (fun millis => ?_) _ _
  refine stableInside_required (fun records => ?_) _ _
  exact stableInside_pure _

theorem stableInside_readMap : StableInside readMap :=
  (stable_readEntries stableInside_readEntry .empty).inside.bind stableInside_ofDraft

theorem stableInside_readParts : StableInside readParts :=
  have count := stableInside_readNat "usize"
  have parts := (stableInside_readPart count expected 0).bind fun passed =>
    (stableInside_readPart count expected 1).bind fun failed =>
    (stableInside_readPart count expected 2).bind fun ignored =>
    (stableInside_readPart (stableInside_readNat "u64") expected 3).bind fun millis =>
    (stableInside_readPart stable_readRecords.inside expected 4).bind fun records =>
    stableInside_pure (⟨passed, failed, ignored, millis, records⟩ : Results)
  parts

theorem stable_read : Stable Results.read :=
  Json.stable_readParts stableInside_readParts stableInside_readMap _

/-! ## Files cut short -/

/-- The beginning of a text of results, short of all of it, is no document. -/
theorem ofText_prefix {r : Results} (fits : r.Fits) {s t : String} (h : s ++ t = r.text)
    (ht : t ≠ "") : ∃ f, ofText s = .error (.json f) := by
  have chars : s.toList ++ t.toList = r.printed := by
    rw [← String.toList_append, h, text, String.toList_ofList]
  have read : Results.read (s.toList ++ t.toList) = .ok (r, []) := by
    have := read_printed fits []
    rwa [List.append_nil, ← chars] at this
  have more : t.toList ≠ [] := by simpa using ht
  obtain ⟨f, hf⟩ := stable_read.readAll_prefix read more
  refine ⟨f, ?_⟩
  simp only [ofText, hf]

/-- Loading never gives results from a file that holds less than what was saved, wherever it was cut. -/
theorem load_truncated {r : Results} (fits : r.Fits) {fs fs' cut : Files} {path other : Path}
    {whole : ByteArray} {n : Nat} (saved : r.save path fs = .ok fs')
    (written : fs'.read path = .ok whole) (short : n < whole.size)
    (held : cut.read other = .ok (whole.extract 0 n)) :
    (¬ (whole.extract 0 n).IsValidUTF8 ∧ load other cut = .error (.file .notText)) ∨
      ((whole.extract 0 n).IsValidUTF8 ∧ ∃ fault, load other cut = .error (.json fault)) := by
  have bytes : fs'.read path = .ok r.text.toUTF8 := Files.read_write (save_eq_ok_iff.1 saved)
  rw [written] at bytes
  cases bytes
  rw [String.toUTF8_eq_toByteArray] at short held ⊢
  by_cases valid : (r.text.toByteArray.extract 0 n).IsValidUTF8
  · refine .inr ⟨valid, ?_⟩
    obtain ⟨t, ht, happend⟩ := Text.exists_append_of_isValidUTF8 short valid
    obtain ⟨f, hf⟩ := ofText_prefix fits happend ht
    refine ⟨f, ?_⟩
    simp only [load, Files.readText, held, String.fromUTF8?, valid]
    exact hf
  · refine .inl ⟨valid, ?_⟩
    simp only [load, Files.readText, held, String.fromUTF8?, valid]
    rfl

/-- Cut inside a character, and cut before anything was written. -/
theorem load_truncated_within_character :
    let r : Results := ⟨1, 0, 0, 7, [⟨"é", "m", .passed, 7, none⟩]⟩
    let path := Path.ofString "out.json"
    let holding (content : ByteArray) := Files.empty.put [path.data.toList] (.file content)
    r.save path .empty = .ok (holding r.text.toUTF8) ∧
      load path (holding (r.text.toUTF8.extract 0 103)) = .error (.file .notText) ∧
      ∃ fault, load path (holding (r.text.toUTF8.extract 0 0)) = .error (.json fault) := by
  intro r path holding
  have fits : r.Fits := by
    refine ⟨by decide, by decide, by decide, by decide, ?_⟩
    intro record hmem
    obtain rfl : record = _ := by simpa [r] using hmem
    exact (by decide : 7 < UInt64.size)
  have wrote (content : ByteArray) : Files.empty.write path content = .ok (holding content) := by
    refine Files.write_eq_ok_iff.2 ⟨[path.data.toList], rfl, ?_, rfl⟩
    simp [Files.lookup, Files.empty]
  have saved : r.save path .empty = .ok (holding r.text.toUTF8) := save_eq_ok_iff.2 (wrote _)
  have held (content : ByteArray) : (holding content).read path = .ok content :=
    Files.read_write (wrote content)
  have short : 103 < r.text.toUTF8.size := by decide +kernel
  refine ⟨saved, ?_, ?_⟩
  · -- Whether the place lies between characters is seen from the byte there, without all those before it.
    have inside : ¬ String.Pos.Raw.IsValid r.text ⟨103⟩ := by decide +kernel
    have invalid : ¬ (r.text.toUTF8.extract 0 103).IsValidUTF8 := fun valid =>
      inside (String.Pos.Raw.isValid_iff_isValidUTF8_extract_zero.2 ⟨Nat.le_of_lt short, valid⟩)
    obtain ⟨-, h⟩ | ⟨valid, -⟩ := load_truncated fits saved (held _) short (held _)
    · exact h
    · exact absurd valid invalid
  · have valid : (r.text.toUTF8.extract 0 0).IsValidUTF8 := by simp
    obtain ⟨invalid, -⟩ | ⟨-, h⟩ :=
      load_truncated fits saved (held _) (Nat.zero_lt_of_lt short) (held _)
    · exact absurd valid invalid
    · exact h

end Results
end Testbench
