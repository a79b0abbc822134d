import Testbench.Console.Line
/-!
# What is printed

`Line.Worded` gives the words of each kind of line; numbers stand in them in decimal digits, and names as they
are. The words at the start of a printed text tell whether it announces the number of tests of a run or of a
suite. Only a listed name may begin in any way.

Main statements: `Line.worded_iff`, `beginning_running` and `beginning_suiteStarted`.
-/
namespace Testbench.Console

/-! ## The words of a line -/

/-- What a line of each kind says. -/
inductive Line.Worded : Line → String → Prop
  | running (count : Nat) :
    Worded (.running count) ("[==========] Running " ++ toString count ++ " tests.")
  | suiteStarted (count : Nat) (suite : String) :
    Worded (.suiteStarted count suite)
      ("[----------] Running " ++ toString count ++ " tests from " ++ suite ++ ".")
  | suiteFinished (count : Nat) (suite : String) (millis : Nat) :
    Worded (.suiteFinished count suite millis)
      ("[----------] Run " ++ toString count ++ " test cases from " ++ suite ++
        " (" ++ toString millis ++ " ms)")
  | blank : Worded .blank ""
  | started (test : String) : Worded (.started test) ("[ RUN      ] " ++ test)
  | finishedWell (test : String) (millis : Nat) :
    Worded (.finished test true millis)
      ("[       OK ] " ++ test ++ " (" ++ toString millis ++ " ms)")
  | finishedBadly (test : String) (millis : Nat) :
    Worded (.finished test false millis)
      ("[  FAILED  ] " ++ test ++ " (" ++ toString millis ++ " ms)")
  | ran (count millis : Nat) :
    Worded (.ran count millis)
      ("[==========] " ++ toString count ++ " tests ran. (" ++ toString millis ++ " ms total)")
  | passed (count : Nat) : Worded (.passed count) ("[  PASSED  ] " ++ toString count ++ " tests.")
  | failedHead (count : Nat) :
    Worded (.failedHead count) ("[  FAILED  ] " ++ toString count ++ " tests, listed below:")
  | failed (test : String) : Worded (.failed test) ("[  FAILED  ] " ++ test)
  | failedCount (count : Nat) : Worded (.failedCount count) (toString count ++ " FAILED TESTS")
  | listed (test : String) : Worded (.listed test) test

/-- A line is printed in its words, and in no others. -/
theorem Line.worded_iff {l : Line} {s : String} : l.Worded s ↔ l.text = s := by
  constructor
  · intro worded
    cases worded <;> rfl
  · rintro rfl
    cases l with
    | finished test ok millis => cases ok <;> constructor
    | _ => constructor

/-! ## How printed texts begin -/

/-- The texts that begin with some words. -/
def beginning (words : String) (printed : List String) : List String :=
  printed.filter fun s => words.toList.isPrefixOf s.toList

/-- If each of some lines says whether it begins with some words, all of them do. -/
theorem beginning_texts {α : Type} {words : String} {f : Line → Option α} {say : α → String}
    {lines : List Line} (h : ∀ l ∈ lines, beginning words [l.text] = (f l).toList.map say) :
    beginning words (lines.map Line.text) = (lines.filterMap f).map say := by
  induction lines with
  | nil => rfl
  | cons l lines ih =>
    obtain ⟨first, rest⟩ := List.forall_mem_cons.1 h
    have split : beginning words ((l :: lines).map Line.text) =
        beginning words [l.text] ++ beginning words (lines.map Line.text) :=
      List.filter_append [l.text] (lines.map Line.text)
    rw [split, first, ih rest]
    cases hl : f l <;> simp [hl]

/-- No number begins with what is not a digit. -/
theorem not_prefix_digits {c : Char} (h : c.isDigit = false) (words : List Char) (n : Nat)
    (rest : List Char) : ¬ c :: words <+: Nat.toDigits 10 n ++ rest := by
  obtain ⟨d, digits, hdigits⟩ := List.exists_cons_of_ne_nil (Nat.toDigits_ne_nil (n := n) (b := 10))
  have mem : d ∈ Nat.toDigits 10 n := hdigits ▸ List.mem_cons_self
  have hd : d.isDigit = true := Nat.isDigit_of_mem_toDigits (by decide) (by decide) mem
  rw [hdigits, List.cons_append, List.cons_prefix_cons]
  rintro ⟨rfl, -⟩
  simp [h] at hd

/-- Whether a line is a name in a listing. -/
def Line.isListed : Line → Bool
  | listed _ => true
  | _ => false

/-- The number of tests that a run begins with. -/
def Line.running? : Line → Option Nat
  | running count => some count
  | _ => none

/-- The number of tests that a suite begins with, and its name. -/
def Line.suiteStarted? : Line → Option (Nat × String)
  | suiteStarted count suite => some (count, suite)
  | _ => none

variable {l : Line}

/-- Apart from listed names, only the start of a run is printed with its words. -/
theorem beginning_running (unlisted : l.isListed = false) :
    beginning "[==========] Running " [l.text] =
      l.running?.toList.map fun count => "[==========] Running " ++ toString count ++ " tests." := by
  have worded : l.Worded l.text := Line.worded_iff.2 rfl
  generalize l.text = s at worded
  cases worded <;> simp_all [beginning, Line.running?, Line.isListed, not_prefix_digits]

/-- Apart from listed names, only the start of a suite is printed with its words. -/
theorem beginning_suiteStarted (unlisted : l.isListed = false) :
    beginning "[----------] Running " [l.text] = l.suiteStarted?.toList.map fun started =>
      "[----------] Running " ++ toString started.1 ++ " tests from " ++ started.2 ++ "." := by
  have worded : l.Worded l.text := Line.worded_iff.2 rfl
  generalize l.text = s at worded
  cases worded <;> simp_all [beginning, Line.suiteStarted?, Line.isListed, not_prefix_digits]

end Testbench.Console
