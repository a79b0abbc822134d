/-!
# Switches

What may stand on the command line of a test program: a switch has a long name, some have a letter, and
some take a value.
-/
namespace Testbench.CommandLine

inductive Switch where
  | trace
  | debug
  | logLevel
  | logFilter
  | pattern
  | resultsFile
  | failFast
  | list
  | help
  | version
  deriving DecidableEq, Repr

namespace Switch

def all : List Switch :=
  [trace, debug, logLevel, logFilter, pattern, resultsFile, failFast, list, help, version]

def name : Switch → String
  | trace => "trace"
  | debug => "debug"
  | logLevel => "log-level"
  | logFilter => "log-filter"
  | pattern => "gtest-filter"
  | resultsFile => "json-results-file"
  | failFast => "fail-fast"
  | list => "list"
  | help => "help"
  | version => "version"

/-- A second name that help does not mention. -/
def otherName : Switch → Option String
  | pattern => some "gtest_filter"
  | _ => none

def letter : Switch → Option Char
  | help => some 'h'
  | version => some 'V'
  | _ => none

/-- The name of the value, for a switch that takes one. -/
def value : Switch → Option String
  | logLevel => some "LOG_LEVEL"
  | logFilter => some "LOG_FILTER"
  | pattern => some "PATTERN"
  | resultsFile => some "PATH"
  | _ => none

/-- Whether the value may look like a switch. -/
def takesAnything (s : Switch) : Bool := s == pattern

def about : Switch → String
  | trace => "Set global log level to trace (our crates only)"
  | debug => "Set global log level to debug (our crates only)"
  | logLevel => "Set a single global log level for our crates (error|warn|info|debug|trace)"
  | logFilter =>
    "Set an explicit tracing filter directive (overrides other flags) e.g. " ++
      "\"suitelog=trace,logging=debug\""
  | pattern => "Only run tests matching this googletest filter, e.g. `FooTest.*-FooTest.slow`"
  | resultsFile => "Write per-test results to this JSON file"
  | failFast => "Stop after the first failing test"
  | list => "List the selected tests instead of running them"
  | help => "Print help"
  | version => "Print version"

/-- Whether two switches exclude each other. -/
def excludes : Switch → Switch → Bool
  | trace, s => s == debug || s == logLevel || s == logFilter
  | debug, s => s == trace || s == logLevel || s == logFilter
  | logLevel, s => s == trace || s == debug
  | logFilter, s => s == trace || s == debug
  | _, _ => false

/-- The long name as it is typed, with the name of the value. -/
def shown (s : Switch) : String :=
  "--" ++ s.name ++ (match s.value with | none => "" | some v => " <" ++ v ++ ">")

def ofName? (name : String) : Option Switch :=
  all.find? fun s => s.name == name || s.otherName == some name

def ofLetter? (c : Char) : Option Switch := all.find? fun s => s.letter == some c

end Switch
end Testbench.CommandLine
