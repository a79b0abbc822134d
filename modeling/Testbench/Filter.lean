import Testbench.Description
import Testbench.Error
import Testbench.Text.Pieces
import Testbench.Text.Quoted
import Testbench.Wildcard
/-!
# Filters

A filter decides which descriptions stay. A pattern filter reads a text such as `Foo.*:Bar.?-*.slow`:
patterns between colons, those after the first dash excluding. A test stays if some including pattern
matches its display name (or there is none) and no excluding pattern does; a suite stays if one of its
tests does.
-/
namespace Testbench

structure Filter where
  shouldRun : Description → Bool
  describe : String

/-- The filter that keeps everything. -/
def Filter.all : Filter := ⟨fun _ => true, "all tests"⟩

structure PatternFilter where
  spec : String
  including : List Wildcard.Pattern
  excluding : List Wildcard.Pattern
  deriving Repr

namespace PatternFilter

/-- The including part and the excluding part of a filter text. -/
def halves (spec : List Char) : List Char × List Char :=
  (Text.cutAt '-' spec).getD (spec, [])

def tooLarge (pattern : List Char) : Error :=
  .invalidFilter ("bad pattern " ++ Text.quoted (String.ofList pattern) ++
    ": Compiled regex exceeds size limit of 10485760 bytes.")

/-- One pattern, unless it is too large. -/
def pattern? (cs : List Char) : Except Error Wildcard.Pattern :=
  let p := Wildcard.Pattern.ofText cs
  if p.isTooLarge then .error (tooLarge cs) else .ok p

/-- The patterns of a list between colons, in order; the first one that is too large is reported. -/
def patterns? (cs : List Char) : Except Error (List Wildcard.Pattern) :=
  (Text.fullPieces ':' cs).mapM pattern?

/-- Reads a filter text; the including part is read first. -/
def parse (spec : String) : Except Error PatternFilter := do
  let (including, excluding) := halves spec.toList
  return ⟨spec, ← patterns? including, ← patterns? excluding⟩

/-- Whether a display name is selected. -/
def acceptsName (f : PatternFilter) (name : String) : Bool :=
  (f.including.isEmpty || f.including.any (Wildcard.accepts · name.toList)) &&
    !f.excluding.any (Wildcard.accepts · name.toList)

def toFilter (f : PatternFilter) : Filter where
  shouldRun d := d.anyTest fun t => f.acceptsName t.displayName
  describe := "gtest-filter: " ++ f.spec

end PatternFilter

/-- A filter by a list of display names; suites stay as told, or else if a child does. -/
def Filter.byName (names : List String) (describe : String) (suites : Option Bool) : Filter where
  shouldRun d :=
    match suites with
    | none => d.anyTest fun t => names.contains t.displayName
    | some keep => if d.isTest then names.contains d.displayName else keep
  describe

end Testbench
