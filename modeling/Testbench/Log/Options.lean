/-!
# Log options

Which log events a run shows: an explicit filter comes first, then the switches for one level, then
the environment, and at last the level info. A single level holds for the targets of this library.
-/
namespace Testbench.Log

structure Options where
  trace : Bool
  debug : Bool
  level : Option String
  filter : Option String
  deriving DecidableEq, Repr, Inhabited

/-- The first parts of the targets of this library. -/
def ownTargets : List String := ["suitelog", "logging"]

/-- The filter text that sets one level for this library; ASCII letters are made small. -/
def levelSpec (level : String) : String :=
  ",".intercalate (ownTargets.map fun t => t ++ "=" ++ level.map Char.toLower)

namespace Options

def none : Options := ⟨false, false, .none, .none⟩

/-- The filter text that options amount to; an environment that is not text counts as missing. -/
def spec (o : Options) (environment : Option ByteArray) : String :=
  match o.filter with
  | some f => f
  | .none =>
    if o.trace then levelSpec "trace"
    else if o.debug then levelSpec "debug"
    else
      match o.level with
      | some level => levelSpec level
      | .none => ((environment.bind String.fromUTF8?).getD (levelSpec "info"))

end Options
end Testbench.Log
