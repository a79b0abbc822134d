import Mathlib.Data.List.Basic
import Testbench.Files.Basic
import Testbench.Proofs.Pending
/-!
# Writing files and reading them back

Whether a path can be written to does not depend on what is written. What was written there is what is
read there afterwards.

Main statements: `Writable.write` and `readText_write`.
-/
namespace Testbench.Files

/-- A path at which a file can be written. -/
def Writable (fs : Files) (path : Path) : Prop := ∃ content fs', fs.write path content = .ok fs'

/-! ## Looking up what was put -/

theorem lookup_put_self {names : List Name} (h : names ≠ []) (fs : Files) (node : Node) :
    (fs.put names node).lookup names = some node := by
  simp [lookup, put, h]

theorem lookup_put_ne {names other : List Name} (h : other ≠ names) (fs : Files) (node : Node) :
    (fs.put names node).lookup other = fs.lookup other := by
  have hb : (other == names) = false := beq_false_of_ne h
  simp only [lookup, put, List.lookup_cons, hb, Pending.lookup_filter_ne h]

/-! ## The way to a file -/

/-- Only directories are on a way, so it stays as it is when anything else is replaced. -/
theorem descend_put {fs : Files} {names : List Name} (h : fs.lookup names ≠ some .directory)
    (node : Node) {dir found rest : List Name} (hd : fs.descend dir rest = .ok found) :
    (fs.put names node).descend dir rest = .ok found := by
  induction rest generalizing dir with
  | nil => exact hd
  | cons name rest ih =>
    rw [descend] at hd ⊢
    split at hd
    · cases hd
    · rename_i hlength
      rw [if_neg hlength]
      cases hl : fs.lookup (step dir name) with
      | none => simp [hl] at hd
      | some node' =>
        cases node' with
        | file content => simp [hl] at hd
        | directory =>
          have hne : step dir name ≠ names := fun he => h (he ▸ hl)
          rw [lookup_put_ne hne, hl]
          simp only [hl] at hd
          exact ih hd

theorem locate_put {fs : Files} {names : List Name} (h : fs.lookup names ≠ some .directory)
    (node : Node) {path : Path} {found : List Name × Bool} (hl : fs.locate path = .ok found) :
    (fs.put names node).locate path = .ok found := by
  unfold locate at hl ⊢
  simp only at hl ⊢
  split_ifs at hl ⊢
  cases hlast : (Text.fullPieces 47 path.data.toList).getLast? with
  | none => simpa [hlast] using hl
  | some last =>
    simp only [hlast] at hl ⊢
    cases hd : fs.descend [] (Text.fullPieces 47 path.data.toList).dropLast with
    | error e => simp [hd] at hl
    | ok dir =>
      rw [descend_put h node hd]
      simpa [hd] using hl

/-! ## Writing -/

theorem write_eq_ok_iff {fs fs' : Files} {path : Path} {content : ByteArray} :
    fs.write path content = .ok fs' ↔ ∃ names, fs.locate path = .ok (names, false) ∧
      fs.lookup names ≠ some .directory ∧ fs' = fs.put names (.file content) := by
  unfold write
  cases hl : fs.locate path with
  | error e => simp
  | ok found =>
    obtain ⟨names, slash⟩ := found
    cases hn : fs.lookup names with
    | none => cases slash <;> simp [hn, eq_comm]
    | some node => cases node <;> cases slash <;> simp [hn, eq_comm]

theorem writable_of_locate {fs : Files} {path : Path} {names : List Name}
    (h : fs.locate path = .ok (names, false)) (hn : fs.lookup names ≠ some .directory) :
    fs.Writable path :=
  ⟨.empty, _, write_eq_ok_iff.2 ⟨names, h, hn, rfl⟩⟩

/-- Anything can be written where something can be written. -/
theorem Writable.write {fs : Files} {path : Path} (h : fs.Writable path) (content : ByteArray) :
    ∃ fs', fs.write path content = .ok fs' := by
  obtain ⟨_, _, hw⟩ := h
  obtain ⟨names, hl, hn, -⟩ := write_eq_ok_iff.1 hw
  exact ⟨_, write_eq_ok_iff.2 ⟨names, hl, hn, rfl⟩⟩

/-- Why a file cannot be written does not depend on what it should hold. -/
theorem write_error_congr {fs : Files} {path : Path} {content : ByteArray} {e : FileError}
    (h : fs.write path content = .error e) (content' : ByteArray) :
    fs.write path content' = .error e := by
  unfold write at h ⊢
  cases hl : fs.locate path with
  | error e' => simpa [hl] using h
  | ok found =>
    obtain ⟨names, slash⟩ := found
    simp only [hl] at h ⊢
    cases hn : fs.lookup names with
    | none => cases slash <;> simp_all
    | some node => cases node <;> cases slash <;> simp_all

theorem writable_iff {fs : Files} {path : Path} :
    fs.Writable path ↔ (fs.write path .empty).isOk = true := by
  refine ⟨fun h => ?_, fun h => ?_⟩
  · obtain ⟨fs', hw⟩ := h.write .empty
    rw [hw]
    rfl
  · cases hw : fs.write path .empty with
    | error e => simp [hw, Except.isOk, Except.toBool] at h
    | ok fs' => exact ⟨.empty, fs', hw⟩

instance (fs : Files) (path : Path) : Decidable (fs.Writable path) :=
  decidable_of_iff _ writable_iff.symm

theorem read_write {fs fs' : Files} {path : Path} {content : ByteArray}
    (h : fs.write path content = .ok fs') : fs'.read path = .ok content := by
  obtain ⟨names, hl, hn, rfl⟩ := write_eq_ok_iff.1 h
  have hne : names ≠ [] := by
    rintro rfl
    exact hn rfl
  rw [read, locate_put hn _ hl]
  simp [lookup_put_self hne]

/-- What can be written can be written again. -/
theorem Writable.again {fs fs' : Files} {path : Path} {content : ByteArray}
    (h : fs.write path content = .ok fs') : fs'.Writable path := by
  obtain ⟨names, hl, hn, rfl⟩ := write_eq_ok_iff.1 h
  refine writable_of_locate (locate_put hn _ hl) ?_
  by_cases hne : names = []
  · exact absurd (by rw [hne]; rfl) hn
  · simp [lookup_put_self hne]

/-- A text that was written is read back. -/
theorem readText_write {fs fs' : Files} {path : Path} {s : String}
    (h : fs.write path s.toUTF8 = .ok fs') : fs'.readText path = .ok s := by
  rw [readText, read_write h]
  simp only [Text.fromUTF8?_toUTF8]

end Testbench.Files
