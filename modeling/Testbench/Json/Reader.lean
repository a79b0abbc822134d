import Testbench.Json.Fault
/-!
# Reading JSON

A reader takes a value off the front of a text and gives it back with what is left, or reports a problem.
A problem remembers what was left where it arose; its place in the whole text is worked out at the end. A
problem with a value, not with the grammar, is placed by the value that encloses it, after that value
was closed as far as possible.

Main definitions: `Reader`, `Problem`, `inList`, `inMap`, `readAll`.
-/
namespace Testbench.Json

/-- What is wrong, what is left there, whether the next byte counts as read, and whether this is the
place to report. -/
structure Problem where
  cause : Cause
  left : List Char
  peeked : Bool
  settled : Bool
  deriving DecidableEq, Repr

namespace Problem

/-- At the end of what was read. -/
def here (cause : Cause) (left : List Char) : Problem := ⟨cause, left, false, true⟩

/-- At the byte after what was read. -/
def atNext (cause : Cause) (left : List Char) : Problem := ⟨cause, left, true, true⟩

/-- At a place that the enclosing value decides. -/
def unplaced (cause : Cause) (left : List Char) : Problem := ⟨cause, left, false, false⟩

/-- The problem, placed at `left` if it has no place yet. -/
def settle (p : Problem) (left : List Char) : Problem :=
  if p.settled then p else here p.cause left

end Problem

abbrev Reader (α : Type) := List Char → Except Problem (α × List Char)

/-- The place after the given characters. -/
def Place.after (cs : List Char) : Place :=
  cs.foldl (fun p c => if c = '\n' then ⟨p.line + 1, 0⟩ else ⟨p.line, p.column + c.utf8Size⟩) ⟨1, 0⟩

/-- The place of a problem in the whole text. -/
def Problem.place (p : Problem) (whole : List Char) : Place :=
  let before := Place.after (whole.take (whole.length - p.left.length))
  if p.peeked then
    match p.left with
    | [] => before
    | '\n' :: _ => ⟨before.line + 1, 0⟩
    | _ => ⟨before.line, before.column + 1⟩
  else before

def Problem.fault (p : Problem) (whole : List Char) : Fault := ⟨p.cause, p.place whole⟩

def isBlank (c : Char) : Bool := c == ' ' || c == '\n' || c == '\t' || c == '\r'

def skipBlanks (s : List Char) : List Char := s.dropWhile isBlank

/-- The rest of a word whose first letter was read. -/
def readWord : List Char → List Char → Except Problem (List Char)
  | [], s => .ok s
  | _ :: _, [] => .error (.here .endInValue [])
  | w :: ws, c :: s => if c = w then readWord ws s else .error (.atNext .expectedWord (c :: s))

/-! ## Lists and maps -/

/-- Whether a list goes on, and what is left from the next element or the closing bracket on. -/
def nextItem (first : Bool) (s : List Char) : Except Problem (Bool × List Char) :=
  match skipBlanks s with
  | [] => .error (.atNext .endInList [])
  | c :: r =>
    if c = ']' then .ok (false, c :: r)
    else if first then .ok (true, c :: r)
    else if c = ',' then
      match skipBlanks r with
      | [] => .error (.atNext .endInValue [])
      | d :: r' =>
        if d = ']' then .error (.atNext .trailingComma (d :: r')) else .ok (true, d :: r')
    else .error (.atNext .expectedCommaInList (c :: r))

/-- The end of a list. -/
def closeList (s : List Char) : Except Problem (List Char) :=
  match skipBlanks s with
  | [] => .error (.atNext .endInList [])
  | ']' :: r => .ok r
  | ',' :: r =>
    match skipBlanks r with
    | ']' :: r' => .error (.atNext .trailingComma (']' :: r'))
    | r' => .error (.atNext .trailingText r')
  | r => .error (.atNext .trailingText r)

/-- What is left after an attempt to close a list. -/
def afterList (s : List Char) : List Char :=
  match skipBlanks s with
  | ']' :: r => r
  | ',' :: r => skipBlanks r
  | r => r

/-- The end of a map. -/
def closeMap (s : List Char) : Except Problem (List Char) :=
  match skipBlanks s with
  | [] => .error (.atNext .endInObject [])
  | '}' :: r => .ok r
  | ',' :: r => .error (.atNext .trailingComma (',' :: r))
  | r => .error (.atNext .trailingText r)

/-- What is left after an attempt to close a map. -/
def afterMap (s : List Char) : List Char :=
  match skipBlanks s with
  | '}' :: r => r
  | r => r

/-- The colon between a key and its value. -/
def readColon (s : List Char) : Except Problem (List Char) :=
  match skipBlanks s with
  | [] => .error (.atNext .endInObject [])
  | ':' :: r => .ok r
  | r => .error (.atNext .expectedColon r)

variable {α δ : Type}

/-- The inside of a list and its end. -/
def inList (body : Reader α) : Reader α := fun s =>
  match body s with
  | .error p => .error (p.settle (afterList p.left))
  | .ok (a, r) =>
    match closeList r with
    | .error p => .error p
    | .ok r' => .ok (a, r')

/-- The inside of a map and its end. -/
def inMap (body : Reader α) : Reader α := fun s =>
  match body s with
  | .error p => .error (p.settle (afterMap p.left))
  | .ok (a, r) =>
    match closeMap r with
    | .error p => .error p
    | .ok r' => .ok (a, r')

/-- Elements up to the closing bracket, fewer than `bound` has members. -/
def readItemsWithin (item : Reader α) : List Char → Bool → Reader (List α)
  | [], _, s => .error (.here .endInValue s)
  | _ :: bound, first, s =>
    match nextItem first s with
    | .error p => .error p
    | .ok (false, r) => .ok ([], r)
    | .ok (true, r) =>
      match item r with
      | .error p => .error p
      | .ok (a, r') =>
        match readItemsWithin item bound false r' with
        | .error p => .error p
        | .ok (as, r'') => .ok (a :: as, r'')

/-- All elements up to the closing bracket. Each takes a character at least, so the text itself bounds
their number. -/
def readItems (item : Reader α) : Reader (List α) := fun s => readItemsWithin item (' ' :: s) true s

/-- The whole text is one value, with blanks around it at most. -/
def readAll (reader : Reader α) (whole : List Char) : Except Fault α :=
  match reader whole with
  | .error p => .error (p.fault whole)
  | .ok (a, r) =>
    match skipBlanks r with
    | [] => .ok a
    | r' => .error ((Problem.atNext .trailingText r').fault whole)

end Testbench.Json
