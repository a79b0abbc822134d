import Testbench.Description
import Testbench.Duration
import Testbench.Text.Quoted
/-!
# Test classes

A test class is a named list of cases. The body of a case is known by what becomes of it, how it ends
and how long it takes; an ignored case is reported and its body is left alone.
-/
namespace Testbench

/-- What a body panics with: a text, or something that has no text. -/
inductive Payload where
  | text (s : String)
  | other
  deriving DecidableEq, Repr

def Payload.message : Payload → String
  | text s => s
  | other => "test panicked"

inductive Ending where
  | passed
  | failed (message : String)
  | panicked (payload : Payload)
  deriving DecidableEq, Repr

/-- The message of a failure; a panic fails the test with its text. -/
def Ending.failure? : Ending → Option String
  | passed => none
  | failed message => some message
  | panicked payload => some payload.message

structure Body where
  ending : Ending
  takes : Duration
  deriving DecidableEq, Repr

structure TestCase where
  name : String
  body : Body
  ignored : Bool
  deriving DecidableEq, Repr

structure TestClass where
  name : String
  cases : List TestCase
  deriving DecidableEq, Repr

/-- A summary of a case for diagnostics; the body has none. -/
def TestCase.summary (c : TestCase) : String :=
  "TestCase \x7b name: " ++ Text.quoted c.name ++ ", ignored: " ++ toString c.ignored ++ ", .. \x7d"

namespace TestClass

def summary (c : TestClass) : String :=
  "TestClass \x7b name: " ++ Text.quoted c.name ++ ", cases: [" ++
    ", ".intercalate (c.cases.map TestCase.summary) ++ "] \x7d"

def describeCase (c : TestClass) (t : TestCase) : Description :=
  .test c.name t.name []

def describe (c : TestClass) : Description :=
  .ofClass c.name (c.cases.map c.describeCase)

end TestClass
end Testbench
