import Testbench.Description
/-!
# Console lines

The lines that report a run while it goes on. Each kind of line has one wording. A line is one write to the
console: a name in it stands as it is, whatever line feeds it holds, and a line feed ends the write.
-/
namespace Testbench.Console

inductive Line where
  | running (count : Nat)
  | suiteStarted (count : Nat) (suite : String)
  | suiteFinished (count : Nat) (suite : String) (millis : Nat)
  | blank
  | started (test : String)
  | finished (test : String) (ok : Bool) (millis : Nat)
  | ran (count millis : Nat)
  | passed (count : Nat)
  | failedHead (count : Nat)
  | failed (test : String)
  | failedCount (count : Nat)
  | listed (test : String)
  deriving DecidableEq, Repr

/-- What is written for a line, without the line feed at its end. -/
def Line.text : Line → String
  | running count => "[==========] Running " ++ toString count ++ " tests."
  | suiteStarted count suite =>
    "[----------] Running " ++ toString count ++ " tests from " ++ suite ++ "."
  | suiteFinished count suite millis =>
    "[----------] Run " ++ toString count ++ " test cases from " ++ suite ++
      " (" ++ toString millis ++ " ms)"
  | blank => ""
  | started test => "[ RUN      ] " ++ test
  | finished test ok millis =>
    (if ok then "[       OK ] " else "[  FAILED  ] ") ++ test ++
      " (" ++ toString millis ++ " ms)"
  | ran count millis =>
    "[==========] " ++ toString count ++ " tests ran. (" ++ toString millis ++ " ms total)"
  | passed count => "[  PASSED  ] " ++ toString count ++ " tests."
  | failedHead count => "[  FAILED  ] " ++ toString count ++ " tests, listed below:"
  | failed test => "[  FAILED  ] " ++ test
  | failedCount count => toString count ++ " FAILED TESTS"
  | listed test => test

/-- The lines at the start of a suite. -/
def suiteStarted (d : Description) (count : Nat) : List Line := [.suiteStarted count d.className]

/-- The lines at the end of a suite. -/
def suiteFinished (d : Description) (count millis : Nat) : List Line :=
  [.suiteFinished count d.className millis, .blank]

/-- The block that names the failed tests; there is none if nothing failed. -/
def failedBlock (failed : List Description) : List Line :=
  if failed.isEmpty then []
  else
    .failedHead failed.length :: failed.map (fun d => .failed d.reportName) ++
      [.blank, .failedCount failed.length]

/-- The block that closes a run. -/
def summary (passed : Nat) (failed : List Description) (millis : Nat) : List Line :=
  .ran (passed + failed.length) millis :: .passed passed :: failedBlock failed

end Testbench.Console
