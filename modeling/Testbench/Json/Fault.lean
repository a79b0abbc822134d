import Testbench.Text.Quoted
/-!
# Faults in a JSON text

A fault has a cause and, once it is known where it lies, a place. A cause is either a breach of the
grammar or a value that does not fit what was expected there.
-/
namespace Testbench.Json

/-- A value met where another was expected; a number that is no integer is kept as it is shown. -/
inductive Found where
  | null
  | bool (b : Bool)
  | integer (n : Int)
  | decimal (shown : String)
  | text (s : String)
  | sequence
  | map
  deriving DecidableEq, Repr

def Found.describe : Found → String
  | null => "null"
  | bool true => "boolean `true`"
  | bool false => "boolean `false`"
  | integer n => "integer `" ++ toString n ++ "`"
  | decimal shown => "floating point `" ++ shown ++ "`"
  | text s => "string " ++ Text.quoted s
  | sequence => "sequence"
  | map => "map"

inductive Cause where
  | endInList
  | endInObject
  | endInText
  | endInValue
  | expectedColon
  | expectedCommaInList
  | expectedCommaInObject
  | expectedWord
  | expectedValue
  | invalidEscape
  | invalidNumber
  | outOfRange
  | controlInText
  | keyNotText
  | loneSurrogate
  | trailingComma
  | trailingText
  | unfinishedPair
  | tooDeep
  | wrongKind (found : Found) (expected : String)
  | wrongValue (found : Found) (expected : String)
  | wrongLength (n : Nat) (expected : String)
  | missingField (name : String)
  | repeatedField (name : String)
  | unknownVariant (name : String) (known : List String)
  deriving DecidableEq, Repr

/-- Names between backquotes, with commas between them. -/
def listed : List String → String
  | [] => ""
  | [n] => "`" ++ n ++ "`"
  | n :: rest => "`" ++ n ++ "`, " ++ listed rest

def Cause.message : Cause → String
  | endInList => "EOF while parsing a list"
  | endInObject => "EOF while parsing an object"
  | endInText => "EOF while parsing a string"
  | endInValue => "EOF while parsing a value"
  | expectedColon => "expected `:`"
  | expectedCommaInList => "expected `,` or `]`"
  | expectedCommaInObject => "expected `,` or `\x7d`"
  | expectedWord => "expected ident"
  | expectedValue => "expected value"
  | invalidEscape => "invalid escape"
  | invalidNumber => "invalid number"
  | outOfRange => "number out of range"
  | controlInText => "control character (\\u0000-\\u001F) found while parsing a string"
  | keyNotText => "key must be a string"
  | loneSurrogate => "lone leading surrogate in hex escape"
  | trailingComma => "trailing comma"
  | trailingText => "trailing characters"
  | unfinishedPair => "unexpected end of hex escape"
  | tooDeep => "recursion limit exceeded"
  | wrongKind found expected => "invalid type: " ++ found.describe ++ ", expected " ++ expected
  | wrongValue found expected => "invalid value: " ++ found.describe ++ ", expected " ++ expected
  | wrongLength n expected => "invalid length " ++ toString n ++ ", expected " ++ expected
  | missingField name => "missing field `" ++ name ++ "`"
  | repeatedField name => "duplicate field `" ++ name ++ "`"
  | unknownVariant name known =>
    "unknown variant `" ++ name ++ "`, expected one of " ++ listed known

/-- A line, counted from one, and how many bytes of it come before a place. -/
structure Place where
  line : Nat
  column : Nat
  deriving DecidableEq, Repr

structure Fault where
  cause : Cause
  place : Place
  deriving DecidableEq, Repr

def Fault.message (f : Fault) : String :=
  f.cause.message ++ " at line " ++ toString f.place.line ++
    " column " ++ toString f.place.column

end Testbench.Json
