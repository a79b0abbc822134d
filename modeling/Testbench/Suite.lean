import Testbench.Runner
/-!
# Suites of classes

A suite is built from a list of classes and a builder, which makes a runner for one class. A logging
suite differs from a serial one in that each class reports its start and its end.
-/
namespace Testbench

abbrev Builder (β : Type) := TestClass → Except Error (Runner β)

namespace Builder
variable {β : Type}

/-- Every class gets its own runner. -/
def plain : Builder β := Runner.forClass

/-- The runners of another builder, each of which reports its start and its end. -/
def logging (b : Builder β) : Builder β := fun c => (b c).map .logged

end Builder

namespace Runner
variable {β : Type}

/-- One runner for each class, in order, or the first error. -/
def forClasses (b : Builder β) (classes : List TestClass) : Except Error (List (Runner β)) :=
  classes.mapM b

def suiteOf (name : String) (b : Builder β) (classes : List TestClass) :
    Except Error (Runner β) :=
  (forClasses b classes).map (suite name)

/-- The name of a suite that nobody named. -/
def defaultName : String := "classes"

def serial (b : Builder β) (classes : List TestClass) : Except Error (Runner β) :=
  suiteOf defaultName b classes

def logging (b : Builder β) (classes : List TestClass) : Except Error (Runner β) :=
  suiteOf defaultName b.logging classes

end Runner
end Testbench
