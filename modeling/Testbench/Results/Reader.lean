import Testbench.Error
import Testbench.Json.Value
import Testbench.Results.Basic
/-!
# Reading results

Results and records are read from maps, whose keys may come in any order and among others, or from lists
of their parts in order. A status is its name, or a map from its name to null.
-/
namespace Testbench

open Json

namespace Status

def ofName? (name : List Char) : Option Status :=
  if name = passed.name.toList then some passed
  else if name = failed.name.toList then some failed
  else if name = ignored.name.toList then some ignored
  else none

/-- A status by its name. -/
def readName : Reader Status := fun s =>
  match skipBlanks s with
  | '"' :: r =>
    match readText r with
    | .error p => .error p
    | .ok (t, r') =>
      match ofName? t with
      | some status => .ok (status, r')
      | none =>
        .error (.here (.unknownVariant (String.ofList t) [passed.name, failed.name, ignored.name]) r')
  | r => .error (unexpected "variant identifier" r)

/-- A status after the opening brace of a map. -/
def readEntry : Reader Status := fun s =>
  match readName s with
  | .error p => .error p
  | .ok (status, r) =>
    match readColon r with
    | .error p => .error p
    | .ok r =>
      match readNull "unit" r with
      | .error p => .error p
      | .ok ((), r) =>
        match skipBlanks r with
        | '}' :: r' => .ok (status, r')
        | [] => .error (.here .endInObject [])
        | r' => .error (.here .expectedValue r')

def read : Reader Status := fun s =>
  match skipBlanks s with
  | [] => .error (.atNext .endInValue [])
  | '{' :: r => readEntry r
  | '"' :: r => readName ('"' :: r)
  | r => .error (.atNext .expectedValue r)

end Status

/-- A part that was read before must not come again. -/
def readOnce {α δ : Type} (name : String) (old : Option α) (part : Reader α) (keep : α → δ) :
    Reader δ := fun s =>
  match old with
  | some _ => .error (.unplaced (.repeatedField name) s)
  | none =>
    match readColon s with
    | .error p => .error p
    | .ok r =>
      match part r with
      | .error p => .error p
      | .ok (a, r') => .ok (keep a, r')

/-- A part with a name that nobody knows. -/
def readUnknown {δ : Type} (d : δ) : Reader δ := fun s =>
  match readColon s with
  | .error p => .error p
  | .ok r =>
    match skipValue r with
    | .error p => .error p
    | .ok r' => .ok (d, r')

/-- A part that must have been read. -/
def required {α : Type} (name : String) (part : Option α) (s : List Char) : Except Problem α :=
  match part with
  | some a => .ok a
  | none => .error (.unplaced (.missingField name) s)

/-- The next part of a list that has `n` parts so far. -/
def readPart {α : Type} (expected : String) (n : Nat) (part : Reader α) : Reader α := fun s =>
  match nextItem (n = 0) s with
  | .error p => .error p
  | .ok (false, r) => .error (.unplaced (.wrongLength n expected) r)
  | .ok (true, r) => part r

namespace Record

/-- The parts of a record that were read so far. -/
structure Draft where
  className : Option String
  method : Option String
  status : Option Status
  millis : Option Nat
  message : Option (Option String)
  deriving DecidableEq, Repr

def Draft.empty : Draft := ⟨none, none, none, none, none⟩

def readEntry (d : Draft) (key : List Char) : Reader Draft :=
  if key = "class".toList then
    readOnce "class" d.className (readString "a string") fun x => { d with className := some x }
  else if key = "method".toList then
    readOnce "method" d.method (readString "a string") fun x => { d with method := some x }
  else if key = "status".toList then
    readOnce "status" d.status Status.read fun x => { d with status := some x }
  else if key = "elapsed_ms".toList then
    readOnce "elapsed_ms" d.millis (readNat "u64") fun x => { d with millis := some x }
  else if key = "message".toList then
    readOnce "message" d.message (readOptional "a string") fun x => { d with message := some x }
  else readUnknown d

/-- The record of a draft; only the message may be missing. -/
def ofDraft (d : Draft) : Reader Record := fun s => do
  let className ← required "class" d.className s
  let method ← required "method" d.method s
  let status ← required "status" d.status s
  let millis ← required "elapsed_ms" d.millis s
  return (⟨className, method, status, millis, d.message.getD none⟩, s)

def readMap : Reader Record := fun s => do
  let (d, s) ← readEntries readEntry Draft.empty s
  ofDraft d s

def expected : String := "struct TestRecord with 5 elements"

/-- The message at the end of a list of parts; it may be missing. -/
def readLast : Reader (Option String) := fun s =>
  match nextItem false s with
  | .error p => .error p
  | .ok (false, r) => .ok (none, r)
  | .ok (true, r) => readOptional "a string" r

def readParts : Reader Record := fun s => do
  let (className, s) ← readPart expected 0 (readString "a string") s
  let (method, s) ← readPart expected 1 (readString "a string") s
  let (status, s) ← readPart expected 2 Status.read s
  let (millis, s) ← readPart expected 3 (readNat "u64") s
  let (message, s) ← readLast s
  return (⟨className, method, status, millis, message⟩, s)

def read : Reader Record := Json.readParts "struct TestRecord" readParts readMap

end Record

namespace Results

/-- The parts of the results that were read so far. -/
structure Draft where
  passed : Option Nat
  failed : Option Nat
  ignored : Option Nat
  millis : Option Nat
  records : Option (List Record)
  deriving DecidableEq, Repr

def Draft.empty : Draft := ⟨none, none, none, none, none⟩

def readRecords : Reader (List Record) := readList "a sequence" Record.read

def readEntry (d : Draft) (key : List Char) : Reader Draft :=
  if key = "passed".toList then
    readOnce "passed" d.passed (readNat "usize") fun x => { d with passed := some x }
  else if key = "failed".toList then
    readOnce "failed" d.failed (readNat "usize") fun x => { d with failed := some x }
  else if key = "ignored".toList then
    readOnce "ignored" d.ignored (readNat "usize") fun x => { d with ignored := some x }
  else if key = "elapsed_ms".toList then
    readOnce "elapsed_ms" d.millis (readNat "u64") fun x => { d with millis := some x }
  else if key = "tests".toList then
    readOnce "tests" d.records readRecords fun x => { d with records := some x }
  else readUnknown d

def ofDraft (d : Draft) : Reader Results := fun s => do
  let passed ← required "passed" d.passed s
  let failed ← required "failed" d.failed s
  let ignored ← required "ignored" d.ignored s
  let millis ← required "elapsed_ms" d.millis s
  let records ← required "tests" d.records s
  return (⟨passed, failed, ignored, millis, records⟩, s)

def readMap : Reader Results := fun s => do
  let (d, s) ← readEntries readEntry Draft.empty s
  ofDraft d s

def expected : String := "struct JsonResults with 5 elements"

def readParts : Reader Results := fun s => do
  let (passed, s) ← readPart expected 0 (readNat "usize") s
  let (failed, s) ← readPart expected 1 (readNat "usize") s
  let (ignored, s) ← readPart expected 2 (readNat "usize") s
  let (millis, s) ← readPart expected 3 (readNat "u64") s
  let (records, s) ← readPart expected 4 readRecords s
  return (⟨passed, failed, ignored, millis, records⟩, s)

def read : Reader Results := Json.readParts "struct JsonResults" readParts readMap

/-- Reads a text that holds results and nothing else. -/
def ofText (s : String) : Except Error Results :=
  match readAll read s.toList with
  | .ok r => .ok r
  | .error f => .error (.json f)

end Results
end Testbench
