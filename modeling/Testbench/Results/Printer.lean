import Testbench.Json.Text
import Testbench.Results.Basic
/-!
# Printing results

Results are printed as JSON with two spaces for each depth, one field or element to a line. A record
has a message only if there is one.
-/
namespace Testbench

namespace Json

/-- A field at a depth of `n` spaces. -/
def field (n : Nat) (name : List Char) (value : List Char) : List Char :=
  List.replicate n ' ' ++ written name ++ ':' :: ' ' :: value

/-- The lines of a list or a map after its first one, and its end at a depth of `n` spaces. -/
def lines (n : Nat) (close : Char) : List (List Char) → List Char
  | [] => '\n' :: List.replicate n ' ' ++ [close]
  | l :: rest => ',' :: '\n' :: l ++ lines n close rest

/-- A list or a map whose elements are printed, with their own spaces, at a depth of `n` spaces. -/
def block (n : Nat) (opening close : Char) : List (List Char) → List Char
  | [] => [opening, close]
  | l :: rest => opening :: '\n' :: l ++ lines n close rest

def natural (n : Nat) : List Char := Nat.toDigits 10 n

end Json

namespace Record
open Json

def messageField (message : Option String) : List (List Char) :=
  match message with
  | none => []
  | some m => [field 6 "message".toList (written m.toList)]

def printed (r : Record) : List Char :=
  List.replicate 4 ' ' ++ block 4 '{' '}'
    (field 6 "class".toList (written r.className.toList) ::
      field 6 "method".toList (written r.method.toList) ::
      field 6 "status".toList (written r.status.name.toList) ::
      field 6 "elapsed_ms".toList (natural r.millis) ::
      messageField r.message)

end Record

namespace Results
open Json

def printed (r : Results) : List Char :=
  block 0 '{' '}'
    [field 2 "passed".toList (natural r.passed),
      field 2 "failed".toList (natural r.failed),
      field 2 "ignored".toList (natural r.ignored),
      field 2 "elapsed_ms".toList (natural r.millis),
      field 2 "tests".toList (block 2 '[' ']' (r.records.map Record.printed))]

def text (r : Results) : String := String.ofList r.printed

end Results
end Testbench
