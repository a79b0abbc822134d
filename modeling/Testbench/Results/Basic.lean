import Testbench.Description
/-!
# Results of a run

A record tells what became of one test. The results of a run are its records, in order, with the counts
of each status and the time of the run.
-/
namespace Testbench

inductive Status where
  | passed
  | failed
  | ignored
  deriving DecidableEq, Repr, Inhabited

def Status.name : Status → String
  | passed => "passed"
  | failed => "failed"
  | ignored => "ignored"

structure Record where
  className : String
  method : String
  status : Status
  millis : Nat
  message : Option String
  deriving DecidableEq, Repr

/-- The record of a description; one that is no test goes by its display name. -/
def Record.of (d : Description) (status : Status) (millis : Nat) (message : Option String) :
    Record :=
  ⟨d.className, d.methodName, status, millis, message⟩

structure Results where
  passed : Nat
  failed : Nat
  ignored : Nat
  millis : Nat
  records : List Record
  deriving DecidableEq, Repr

namespace Results

def empty : Results := ⟨0, 0, 0, 0, []⟩

/-- One more record; to count it is left to whoever adds it. -/
def push (r : Results) (record : Record) : Results := { r with records := r.records ++ [record] }

end Results
end Testbench
