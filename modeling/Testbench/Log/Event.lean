import Testbench.Log.Level
import Testbench.Text.Blank
import Testbench.Text.Quoted
/-!
# Log events

An event has a level, a target, a message and named fields in the order of their recording. Its line
is the message and then `name=value` for each field, with one space between neighbours. A value that
holds a blank, a quote or an equals sign is quoted, so that fields cannot be confused.
-/
namespace Testbench.Log

structure Event where
  level : Level
  target : String
  message : Option String
  fields : List (String × String)
  deriving DecidableEq, Repr

namespace Event

/-- Whether a value could be mistaken for something else if it stood bare. -/
def needsQuotes (value : String) : Bool :=
  value.toList.any fun c => Text.isBlank c || c == '"' || c == '='

def shownValue (value : String) : String :=
  if needsQuotes value then Text.quoted value else value

/-- A line with one more field; nothing comes before the first word of a line. -/
def withField (line : String) (field : String × String) : String :=
  line ++ (if line.isEmpty then "" else " ") ++ field.1 ++ "=" ++ shownValue field.2

/-- The message, followed by the fields. -/
def line (e : Event) : String := e.fields.foldl withField (e.message.getD "")

/-- The value of the first field of that name. -/
def field? (e : Event) (name : String) : Option String := e.fields.lookup name

/-- Whether an event has a field of that name; the message counts as one. -/
def hasField (e : Event) (name : String) : Bool :=
  (name == "message" && e.message.isSome) || (e.field? name).isSome

/-- A character of a message, spelled out if a terminal would obey it. -/
def disarmed (c : Char) : List Char :=
  if c = '\x1b' ∨ c = '\x07' ∨ c = '\x08' ∨ c = '\x0c' ∨ c = '\x7f' then
    ['\\', 'x', Nat.digitChar (c.toNat / 16), Nat.digitChar (c.toNat % 16)]
  else if 0x80 ≤ c.toNat ∧ c.toNat ≤ 0x9f then
    '\\' :: 'u' :: '\x7b' :: Text.hex c.toNat ++ ['\x7d']
  else [c]

def shownMessage (message : String) : String := String.ofList (message.toList.flatMap disarmed)

/-- The level aligned to the right, the target, the message, and the fields with bare values. -/
def consoleLine (e : Event) : String :=
  let level := e.level.name
  let level := if level.length < 5 then " " ++ level else level
  let words := (e.message.map shownMessage).toList ++ e.fields.map fun (k, v) => k ++ "=" ++ v
  level ++ " " ++ e.target ++ ":" ++ words.foldl (fun line w => line ++ " " ++ w) ""

end Event

/-- The events whose line begins with the given text. -/
def beginningWith (start : String) (events : List Event) : List Event :=
  events.filter fun e => start.toList.isPrefixOf e.line.toList

end Testbench.Log
