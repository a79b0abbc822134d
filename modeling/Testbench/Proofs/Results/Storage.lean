import Testbench.Proofs.Files
import Testbench.Proofs.Json.Blocks
import Testbench.Results.Listener
/-!
# Stored results are loaded again

Results whose numbers fit into 64 bits are read back from the text that is printed for them, whatever
characters their names and messages hold.

Main statements: `Results.ofText_text` for the text and `Results.load_save` for the file.
-/
namespace Testbench
open Json

namespace Status

theorem ofName_name (s : Status) : ofName? s.name.toList = some s := by
  cases s <;> decide

theorem reads_name (s : Status) : Reads Status.read (written s.name.toList) s := by
  intro rest _
  simp [Status.read, readName, written, skipBlanks_cons, isBlank, ofName_name]

end Status

/-- A part is read if none of its name was read before. -/
theorem readOnce_none {α δ : Type} {part : Reader α} {value : List Char} {a : α}
    (h : Reads part value a) (name : String) (keep : α → δ) (rest : List Char)
    (hrest : EndsLine rest) :
    readOnce name none part keep (':' :: ' ' :: value ++ rest) = .ok (keep a, rest) := by
  have read := h rest hrest
  simp only [List.cons_append] at read ⊢
  simp [readOnce, readColon, skipBlanks_cons, isBlank, read]

namespace Record

/-- The time of a record fits into 64 bits. -/
def Fits (r : Record) : Prop := r.millis < UInt64.size

/-- The parts of a record as they are printed. -/
def parts (r : Record) : List (List Char × List Char) :=
  ("class".toList, written r.className.toList) ::
    ("method".toList, written r.method.toList) ::
    ("status".toList, written r.status.name.toList) ::
    ("elapsed_ms".toList, natural r.millis) ::
    r.message.toList.map fun m => ("message".toList, written m.toList)

theorem printed_eq (r : Record) :
    r.printed = List.replicate 4 ' ' ++ block 4 '{' '}' (fields 6 r.parts) := by
  obtain ⟨className, method, status, millis, _ | message⟩ := r <;> rfl

theorem entriesRead {r : Record} (h : r.Fits) : EntriesRead readEntry .empty r.parts
    ⟨some r.className, some r.method, some r.status, some r.millis, r.message.map some⟩ := by
  obtain ⟨className, method, status, millis, message⟩ := r
  refine .cons (readOnce_none (reads_written _ _) "class" _) ?_
  refine .cons (readOnce_none (reads_written _ _) "method" _) ?_
  refine .cons (readOnce_none (Status.reads_name _) "status" _) ?_
  refine .cons (readOnce_none (reads_natural h _) "elapsed_ms" _) ?_
  cases message with
  | none => exact .nil _
  | some m => exact .cons (readOnce_none (reads_optional _ _) "message" _) (.nil _)

/-- A record is read back, whatever comes after it. -/
theorem read_block {r : Record} (h : r.Fits) (rest : List Char) :
    Record.read (block 4 '{' '}' (fields 6 r.parts) ++ rest) = .ok (r, rest) := by
  refine readParts_block (entriesRead h) (List.cons_ne_nil _ _) ?_ _ readParts 4 6 rest
  intro s
  obtain ⟨className, method, status, millis, _ | message⟩ := r <;> rfl

end Record

namespace Results

/-- All numbers in some results fit into 64 bits. -/
structure Fits (r : Results) : Prop where
  passed : r.passed < UInt64.size
  failed : r.failed < UInt64.size
  ignored : r.ignored < UInt64.size
  millis : r.millis < UInt64.size
  records : ∀ record ∈ r.records, record.Fits

/-- The parts of results as they are printed. -/
def parts (r : Results) : List (List Char × List Char) :=
  [("passed".toList, natural r.passed), ("failed".toList, natural r.failed),
    ("ignored".toList, natural r.ignored), ("elapsed_ms".toList, natural r.millis),
    ("tests".toList, block 2 '[' ']' (maps 4 (fun record => fields 6 record.parts) r.records))]

theorem printed_eq (r : Results) : r.printed = block 0 '{' '}' (fields 2 r.parts) := by
  have records : r.records.map Record.printed = maps 4 (fun record => fields 6 record.parts) r.records :=
    List.map_congr_left fun record _ => record.printed_eq
  rw [printed, records]
  rfl

theorem entriesRead {r : Results} (h : r.Fits) : EntriesRead readEntry .empty r.parts
    ⟨some r.passed, some r.failed, some r.ignored, some r.millis, some r.records⟩ := by
  have records := reads_list "a sequence" (fun record hmem => Record.read_block (h.records record hmem)) 2
  refine .cons (readOnce_none (reads_natural h.passed _) "passed" _) ?_
  refine .cons (readOnce_none (reads_natural h.failed _) "failed" _) ?_
  refine .cons (readOnce_none (reads_natural h.ignored _) "ignored" _) ?_
  refine .cons (readOnce_none (reads_natural h.millis _) "elapsed_ms" _) ?_
  exact .cons (readOnce_none records "tests" _) (.nil _)

/-- Results are read back, whatever comes after them. -/
theorem read_printed {r : Results} (h : r.Fits) (rest : List Char) :
    Results.read (r.printed ++ rest) = .ok (r, rest) := by
  rw [printed_eq]
  exact readParts_block (entriesRead h) (List.cons_ne_nil _ _) (fun _ => rfl) _ readParts 0 2 rest

theorem ofText_text {r : Results} (h : r.Fits) : ofText r.text = .ok r := by
  have read := read_printed h []
  rw [List.append_nil] at read
  simp [ofText, text, readAll, read, skipBlanks]

/-! ## Files -/

variable {r : Results} {fs fs' : Files} {path : Path}

theorem save_eq_ok_iff : r.save path fs = .ok fs' ↔ fs.write path r.text.toUTF8 = .ok fs' := by
  rw [save]
  cases fs.write path r.text.toUTF8 <;> simp

theorem readText_save (h : r.save path fs = .ok fs') : fs'.readText path = .ok r.text :=
  Files.readText_write (save_eq_ok_iff.1 h)

/-- Results are loaded from every file that holds their text. -/
theorem load_of_readText (fits : r.Fits) (h : fs.readText path = .ok r.text) :
    load path fs = .ok r := by
  rw [load, h]
  exact ofText_text fits

theorem load_of_save (fits : r.Fits) (h : r.save path fs = .ok fs') : load path fs' = .ok r :=
  load_of_readText fits (readText_save h)

/-- Where a file can be written, results are saved, and loading them gives them back. -/
theorem load_save {r : Results} (fits : r.Fits) {fs : Files} {path : Path}
    (writable : fs.Writable path) : ∃ fs', r.save path fs = .ok fs' ∧ load path fs' = .ok r := by
  obtain ⟨fs', hwrite⟩ := writable.write r.text.toUTF8
  have saved : r.save path fs = .ok fs' := save_eq_ok_iff.2 hwrite
  exact ⟨fs', saved, load_of_save fits saved⟩

/-- The largest numbers, and texts with quotes, backslashes, control characters and characters beyond the
first plane. -/
theorem load_save_awkward :
    let greatest := UInt64.size - 1
    let awkward : List Record :=
      [⟨"a\"b\\c", "\x00\t\x1f\x7f", .failed, greatest, some "line\nline 😀𝄞"⟩,
        ⟨"", "", .passed, 0, some ""⟩, ⟨"é", "/", .ignored, 7, none⟩]
    let r : Results := ⟨greatest, greatest, 0, greatest, awkward⟩
    let path := Path.ofString "out.json"
    r.Fits ∧ Files.empty.Writable path ∧
      ∃ fs', r.save path .empty = .ok fs' ∧ load path fs' = .ok r := by
  intro greatest awkward r path
  have fits : r.Fits := by
    refine ⟨by decide, by decide, by decide, by decide, ?_⟩
    intro record hmem
    have times : ∀ record ∈ awkward, record.millis < UInt64.size := by decide
    exact times record hmem
  have writable : Files.empty.Writable path := by decide +kernel
  exact ⟨fits, writable, load_save fits writable⟩

end Results
end Testbench
