import Testbench.Files.Error
import Testbench.Json.Fault
/-!
# Errors of the harness

What can go wrong while runners are built, filtered and run and while results are stored.
-/
namespace Testbench

inductive Error where
  | initialization (className reason : String)
  | noTestsRemain (filter : String)
  | invalidFilter (reason : String)
  | stoppedByUser
  | execution (reason : String)
  | file (cause : FileError)
  | json (cause : Json.Fault)
  deriving DecidableEq, Repr, Inhabited

def Error.message : Error → String
  | initialization c reason => "initialization error for " ++ c ++ ": " ++ reason
  | noTestsRemain filter => "no tests remain after filter " ++ filter
  | invalidFilter reason => "invalid filter: " ++ reason
  | stoppedByUser => "test run stopped by request"
  | execution reason => "execution failed: " ++ reason
  | file cause => "I/O error: " ++ cause.message
  | json cause => "JSON error: " ++ cause.message

end Testbench
