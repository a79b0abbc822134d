import Testbench.CommandLine.Refusal
import Testbench.Files.Basic
import Testbench.Log.Options
/-!
# Reading a command line

Arguments are bytes; the first one names the program. A switch takes its value after an equals sign or
from the next argument, unless that looks like a switch itself. The value of a switch is only looked at
when the next switch or the end comes, so that an argument nobody knows is reported first.

Main definitions: `CommandLine.step` takes one argument, `Options.ofArguments` takes them all.
-/
namespace Testbench

/-- What a test program is asked to do. -/
structure Options where
  log : Log.Options
  pattern : Option String
  resultsFile : Option Path
  failFast : Bool
  list : Bool

def Options.none : Options := ⟨.none, .none, .none, false, false⟩

namespace CommandLine

abbrev Argument := ByteArray

namespace Argument

def bytes (a : Argument) : List UInt8 := a.data.toList

def ofBytes (bs : List UInt8) : Argument := ⟨bs.toArray⟩

def text? (a : Argument) : Option String := String.fromUTF8? a

def shown (a : Argument) : String := Text.lenient a

def dash : UInt8 := 45

def isEscape (a : Argument) : Bool := a.bytes == [dash, dash]

/-- Whether an argument looks like a switch; a lone dash does not. -/
def looksLikeSwitch (a : Argument) : Bool :=
  match a.bytes with
  | b :: _ :: _ => b == dash
  | _ => false

end Argument

/-- The switches seen so far, in order, what they ask for, and the one whose value is still due or
still to be looked at. -/
structure State where
  options : Options
  seen : List Switch
  waiting : Option (Switch × Option Argument)

def State.start : State := ⟨.none, [], none⟩

/-- A value that must be text. -/
def textOf (value : Argument) : Except Refusal String :=
  match value.text? with
  | some s => .ok s
  | none => .error .notText

/-- The options with the value of one more switch. -/
def withValue (o : Options) (s : Switch) (value : Argument) : Except Refusal Options :=
  match s with
  | .logLevel => (textOf value).map fun t => { o with log := { o.log with level := some t } }
  | .logFilter => (textOf value).map fun t => { o with log := { o.log with filter := some t } }
  | .pattern => (textOf value).map fun t => { o with pattern := some t }
  | .resultsFile =>
    if value.isEmpty then .error (.missingValue .resultsFile)
    else .ok { o with resultsFile := some value }
  | _ => .ok o

/-- The options with one more switch that takes no value. -/
def withFlag (o : Options) : Switch → Options
  | .trace => { o with log := { o.log with trace := true } }
  | .debug => { o with log := { o.log with debug := true } }
  | .failFast => { o with failFast := true }
  | .list => { o with list := true }
  | _ => o

/-- A switch is seen together with its value. -/
def State.accept (st : State) (s : Switch) (value : Argument) : Except Refusal State :=
  if st.seen.contains s then .error (.repeated s)
  else (withValue st.options s value).map fun o => { st with options := o, seen := st.seen ++ [s] }

/-- The switch that waits gets its value, which must have come by now. -/
def State.settle (st : State) : Except Refusal State :=
  match st.waiting with
  | none => .ok st
  | some (s, none) => .error (.missingValue s)
  | some (s, some value) => State.accept { st with waiting := none } s value

/-- A switch that takes no value. -/
def State.flag (st : State) (program : String) (s : Switch) : Except Refusal State :=
  match st.settle with
  | .error r => .error r
  | .ok st =>
    match s with
    | .help => .error (.help program)
    | .version => .error .version
    | s =>
      if st.seen.contains s then .error (.repeated s)
      else .ok { st with options := withFlag st.options s, seen := st.seen ++ [s] }

/-- A switch by its long name, with what follows an equals sign. -/
def State.long (st : State) (program : String) (name : Argument) (attached : Option Argument) :
    Except Refusal State :=
  match name.text?.bind Switch.ofName? with
  | none => .error (.unknown ("--" ++ name.shown))
  | some s =>
    match s.value, attached with
    | none, none => st.flag program s
    | none, some value => .error (.surplusValue s value.shown)
    | some _, none => st.settle.map fun st => { st with waiting := some (s, none) }
    | some _, some value => st.settle.bind fun st => st.accept s value

/-- A switch by its letter; what follows the letter is never reached. -/
def State.short (st : State) (program : String) (letters : List UInt8) : Except Refusal State :=
  let (n, whole) := Text.stretch letters
  if whole then
    let c := Text.spelled (letters.take n)
    match Switch.ofLetter? c with
    | some s => st.flag program s
    | none => .error (.unknown ("-" ++ c.toString))
  else .error (.unknown ("-" ++ (Argument.ofBytes letters).shown))

/-- An argument that looks like a switch. -/
def State.switch (st : State) (program : String) (a : Argument) : Except Refusal State :=
  match a.bytes with
  | _ :: 45 :: rest =>
    match Text.cutAt 61 rest with
    | some (name, value) => st.long program (.ofBytes name) (some (.ofBytes value))
    | none => st.long program (.ofBytes rest) none
  | _ :: letters => st.short program letters
  | [] => .ok st

/-- Whether the value of the waiting switch is still due. -/
def State.due (st : State) : Option Switch :=
  match st.waiting with
  | some (s, none) => some s
  | _ => none

/-- One argument before any escape. -/
def State.step (st : State) (program : String) (a : Argument) : Except Refusal State :=
  match st.due with
  | some s =>
    if s.takesAnything || !a.looksLikeSwitch then .ok { st with waiting := some (s, some a) }
    else st.switch program a
  | none =>
    if a.looksLikeSwitch then st.switch program a else .error (.unknown a.shown)

/-- Whether an argument ends the switches. -/
def State.escapes (st : State) (a : Argument) : Bool :=
  a.isEscape && !(st.due.any Switch.takesAnything)

/-- All arguments after the program; after an escape none is allowed. -/
def State.run (program : String) : State → List Argument → Except Refusal State
  | st, [] => st.settle
  | st, a :: rest =>
    if st.escapes a then
      match rest with
      | [] => st.settle
      | b :: _ => .error (.unknown b.shown)
    else
      match st.step program a with
      | .error r => .error r
      | .ok st => run program st rest

/-- The first switch that was used together with others that it excludes. -/
def exclusion (seen : List Switch) : Option Refusal :=
  seen.findSome? fun s =>
    match seen.filter s.excludes with
    | [] => none
    | others => some (.excluded s others)

/-- The program by the last part of its path, if that is a name. -/
def programName (a : Argument) : String :=
  let parts := (Text.fullPieces 47 a.bytes).filter (· ≠ Files.thisDirectory)
  match parts.getLast? with
  | none => "suitelog"
  | some part =>
    if part = Files.parentDirectory then "suitelog"
    else ((Argument.ofBytes part).text?).getD "suitelog"

end CommandLine

open CommandLine in
/-- The options on a command line. -/
def Options.ofArguments : List Argument → Except Refusal Options
  | [] => .ok .none
  | program :: arguments =>
    match State.run (programName program) .start arguments with
    | .error r => .error r
    | .ok st =>
      match exclusion st.seen with
      | some r => .error r
      | .none => .ok st.options

end Testbench
