import Testbench.CommandLine.Switch
/-!
# Refusals

Why a command line is not run: a fault in it, or a request for help or for the version.
-/
namespace Testbench.CommandLine

inductive Refusal where
  | missingValue (s : Switch)
  | notText
  | repeated (s : Switch)
  | excluded (s : Switch) (others : List Switch)
  | surplusValue (s : Switch) (value : String)
  | unknown (argument : String)
  | help (program : String)
  | version
  deriving DecidableEq, Repr

namespace Refusal

/-- Whether something is wrong with the command line. -/
def isFault : Refusal → Bool
  | help _ => false
  | version => false
  | _ => true

def spaces (n : Nat) : String := String.ofList (List.replicate n ' ')

/-- One line of the table of switches. -/
def helpLine (s : Switch) : String :=
  let letter := match s.letter with | none => "    " | some c => "-" ++ c.toString ++ ", "
  "  " ++ letter ++ s.shown ++ spaces (28 - s.shown.length) ++ s.about ++ "\n"

def usage (program : String) : String := "Usage: " ++ program ++ " [OPTIONS]\n"

def helpText (program : String) : String :=
  "Run test classes with googletest-style output\n\n" ++ usage program ++ "\nOptions:\n" ++
    String.join (Switch.all.map helpLine)

def message : Refusal → String
  | missingValue s => "error: a value is required for '" ++ s.shown ++ "' but none was supplied"
  | notText => "error: invalid UTF-8 was detected in one or more arguments"
  | repeated s => "error: the argument '" ++ s.shown ++ "' cannot be used multiple times"
  | excluded s others =>
    "error: the argument '" ++ s.shown ++ "' cannot be used with" ++
      match others with
      | [other] => " '" ++ other.shown ++ "'"
      | _ => ":" ++ String.join (others.map fun o => "\n  " ++ o.shown)
  | surplusValue s value =>
    "error: unexpected value '" ++ value ++ "' for '" ++ s.shown ++
      "' found; no more were expected"
  | unknown argument => "error: unexpected argument '" ++ argument ++ "' found"
  | help program => helpText program
  | version => "suitelog 0.0.1\n"

end Refusal
end Testbench.CommandLine
