import Testbench.Json.Number
import Testbench.Json.Text
/-!
# Values of any kind

Three ways to meet a value without knowing its kind: to pass over it, to check it as a document of its
own, which may nest 127 deep, and to name it when something else was expected.
-/
namespace Testbench.Json

/-- The closing bracket of a list, or the closing brace of a map. -/
inductive Frame where
  | list
  | map
  deriving DecidableEq, Repr

/-- A key and its colon. -/
def skipKey (s : List Char) : Except Problem (List Char) :=
  match skipBlanks s with
  | [] => .error (.atNext .endInObject [])
  | '"' :: r =>
    match skipText r with
    | .error p => .error p
    | .ok r' => readColon r'
  | r => .error (.atNext .keyNotText r)

/-- A value that is neither a list nor a map, in front of which no blanks stand. -/
def skipScalar : List Char → Except Problem (List Char)
  | [] => .error (.atNext .endInValue [])
  | 'n' :: r => readWord ['u', 'l', 'l'] r
  | 't' :: r => readWord ['r', 'u', 'e'] r
  | 'f' :: r => readWord ['a', 'l', 's', 'e'] r
  | '-' :: r => skipNumber r
  | '"' :: r => skipText r
  | c :: r => if c.isDigit then skipNumber (c :: r) else .error (.atNext .expectedValue (c :: r))

/-- What comes next inside the open lists and maps. -/
inductive Due where
  | value
  | separator

/-- Passes over what is due and all that follows, until every open list and map is closed, in fewer
steps than `bound` has members. -/
def skipWithin : List Char → Due → List Frame → List Char → Except Problem (List Char)
  | [], _, _, s => .error (.here .endInValue s)
  | _, .separator, [], s => .ok s
  | _ :: bound, .separator, frame :: frames, s =>
    match frame, skipBlanks s with
    | .list, ',' :: r => skipWithin bound .value (.list :: frames) r
    | .map, ',' :: r =>
      match skipKey r with
      | .error p => .error p
      | .ok r' => skipWithin bound .value (.map :: frames) r'
    | .list, ']' :: r => skipWithin bound .separator frames r
    | .map, '}' :: r => skipWithin bound .separator frames r
    | .list, [] => .error (.atNext .endInList [])
    | .map, [] => .error (.atNext .endInObject [])
    | .list, r => .error (.atNext .expectedCommaInList r)
    | .map, r => .error (.atNext .expectedCommaInObject r)
  | _ :: bound, .value, frames, s =>
    match skipBlanks s with
    | '[' :: r =>
      match skipBlanks r with
      | [] => .error (.atNext .endInList [])
      | ']' :: r' => skipWithin bound .separator frames r'
      | r' => skipWithin bound .value (.list :: frames) r'
    | '{' :: r =>
      match skipBlanks r with
      | [] => .error (.atNext .endInObject [])
      | '}' :: r' => skipWithin bound .separator frames r'
      | r' =>
        match skipKey r' with
        | .error p => .error p
        | .ok r'' => skipWithin bound .value (.map :: frames) r''
    | r =>
      match skipScalar r with
      | .error p => .error p
      | .ok r' => skipWithin bound .separator frames r'

/-- What is left after a value that nobody asked for. Each step but the last takes a character, so the
text itself bounds their number. -/
def skipValue (s : List Char) : Except Problem (List Char) :=
  skipWithin (' ' :: ' ' :: s) .value [] s

/-- A value of some kind, which may hold lists and maps `depth` deep. -/
def readAny : Nat → Reader Unit
  | depth, s =>
    match skipBlanks s with
    | [] => .error (.atNext .endInValue [])
    | '[' :: r =>
      match depth with
      | 0 => .error (.atNext .tooDeep ('[' :: r))
      | depth + 1 => (inList (readItems (readAny depth)) r).map fun (_, r') => ((), r')
    | '{' :: r =>
      match depth with
      | 0 => .error (.atNext .tooDeep ('{' :: r))
      | depth + 1 =>
        inMap (readEntries (fun _ _ r =>
          match readColon r with
          | .error p => .error p
          | .ok r' => readAny depth r') ()) r
    | 'n' :: r => (readWord ['u', 'l', 'l'] r).map fun r' => ((), r')
    | 't' :: r => (readWord ['r', 'u', 'e'] r).map fun r' => ((), r')
    | 'f' :: r => (readWord ['a', 'l', 's', 'e'] r).map fun r' => ((), r')
    | '-' :: r => (readNumber true r).map fun (_, r') => ((), r')
    | '"' :: r => (readText r).map fun (_, r') => ((), r')
    | c :: r =>
      if c.isDigit then (readNumber false (c :: r)).map fun (_, r') => ((), r')
      else .error (.atNext .expectedValue (c :: r))

/-- The fault of a text that is no document, if there is one. -/
def check (s : String) : Except Fault Unit := readAll (readAny 127) s.toList

/-- The problem with a value of another kind than expected; blanks in front of it were skipped. -/
def unexpected (expected : String) (s : List Char) : Problem :=
  match s with
  | [] => .atNext .endInValue []
  | 'n' :: r => afterWord ['u', 'l', 'l'] .null r
  | 't' :: r => afterWord ['r', 'u', 'e'] (.bool true) r
  | 'f' :: r => afterWord ['a', 'l', 's', 'e'] (.bool false) r
  | '-' :: r => number true r
  | '"' :: r =>
    match readText r with
    | .error p => p
    | .ok (t, r') => .here (.wrongKind (.text (String.ofList t)) expected) r'
  | '[' :: r => .here (.wrongKind .sequence expected) ('[' :: r)
  | '{' :: r => .here (.wrongKind .map expected) ('{' :: r)
  | c :: r => if c.isDigit then number false (c :: r) else .atNext .expectedValue (c :: r)
where
  afterWord (word : List Char) (found : Found) (r : List Char) : Problem :=
    match readWord word r with
    | .error p => p
    | .ok r' => .here (.wrongKind found expected) r'
  number (negative : Bool) (r : List Char) : Problem :=
    match readNumber negative r with
    | .error p => p
    | .ok (n, r') => .here (.wrongKind n.found expected) r'

/-! ## Values of a known kind -/

/-- A natural number of 64 bits. -/
def readNat (expected : String) : Reader Nat := fun s =>
  match skipBlanks s with
  | [] => .error (.atNext .endInValue [])
  | '-' :: r => fitting (readNumber true r)
  | c :: r =>
    if c.isDigit then fitting (readNumber false (c :: r))
    else .error (unexpected expected (c :: r))
where
  /-- Only a natural number fits. -/
  fitting : Except Problem (Number × List Char) → Except Problem (Nat × List Char)
    | .error p => .error p
    | .ok (.natural n, r) => .ok (n, r)
    | .ok (.negative n, r) => .error (.here (.wrongValue (.integer (-n)) expected) r)
    | .ok (.decimal x, r) => .error (.here (.wrongKind (Number.decimal x).found expected) r)

def readString (expected : String) : Reader String := fun s =>
  match skipBlanks s with
  | '"' :: r =>
    match readText r with
    | .error p => .error p
    | .ok (t, r') => .ok (String.ofList t, r')
  | r => .error (unexpected expected r)

def readNull (expected : String) : Reader Unit := fun s =>
  match skipBlanks s with
  | 'n' :: r =>
    match readWord ['u', 'l', 'l'] r with
    | .error p => .error p
    | .ok r' => .ok ((), r')
  | r => .error (unexpected expected r)

/-- A text, or nothing. -/
def readOptional (expected : String) : Reader (Option String) := fun s =>
  match skipBlanks s with
  | 'n' :: r =>
    match readWord ['u', 'l', 'l'] r with
    | .error p => .error p
    | .ok r' => .ok (none, r')
  | r =>
    match readString expected r with
    | .error p => .error p
    | .ok (t, r') => .ok (some t, r')

/-- A list of values. -/
def readList {α : Type} (expected : String) (item : Reader α) : Reader (List α) := fun s =>
  match skipBlanks s with
  | '[' :: r => inList (readItems item) r
  | r => .error (unexpected expected r)

/-- A value with named parts, as a list in the order of the parts or as a map. -/
def readParts {α : Type} (expected : String) (fromList fromMap : Reader α) : Reader α := fun s =>
  match skipBlanks s with
  | '[' :: r => inList fromList r
  | '{' :: r => inMap fromMap r
  | r => .error (unexpected expected r)

end Testbench.Json
