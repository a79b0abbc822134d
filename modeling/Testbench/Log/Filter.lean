import Testbench.Log.Event
import Testbench.Text.Pieces
/-!
# Filters of log events

A filter is a list of directives between commas: a level for everything, or a target, a field or both,
and their level. A directive speaks for the events whose target begins with its own and which have its
field. Of several, the one with the longest target decides, then one that names a field, and of equal
ones the last. Without any directive only errors pass. Directives about spans are read, but no event is
inside of a span.

Main definitions: `Filter.ofSpec`, `Filter.passes`.
-/
namespace Testbench.Log

/-- How much detail passes; nothing passes at zero. -/
abbrev Detail := Nat

structure Directive where
  target : Option String
  field : Option String
  detail : Detail
  deriving DecidableEq, Repr

/-- A directive about events, one about spans, or a text that is neither. -/
inductive Reading where
  | event (d : Directive)
  | span
  | malformed (reason : String)
  deriving DecidableEq, Repr

/-- A level by its name in any case of letters, or by its number. -/
def detail? (s : List Char) : Option Detail :=
  let digits := match s with | '+' :: r => r | r => r
  if !digits.isEmpty && digits.all Char.isDigit then
    let n := digits.foldl (fun n c => n * 10 + (c.toNat - 48)) 0
    if n ≤ 5 then some n else none
  else
    match String.ofList (s.map Char.toLower) with
    | "" => some 1
    | "off" => some 0
    | "error" => some 1
    | "warn" => some 2
    | "info" => some 3
    | "debug" => some 4
    | "trace" => some 5
    | _ => none

def trimmed (s : List Char) : List Char :=
  ((s.dropWhile Text.isBlank).reverse.dropWhile Text.isBlank).reverse

/-- Whether a target or a level may begin with this character. -/
def beginsWord (c : Char) : Bool :=
  c.isAlphanum || c == '-' || c == ':' || c == '_' || 0x80 ≤ c.toNat

namespace Reading

def misplaced : Reading := .malformed "invalid filter directive"

def badLevel : Reading :=
  .malformed ("error parsing level filter: expected one of \"off\", \"error\", \"warn\", \"info\", " ++
    "\"debug\", \"trace\", or a number 0-5")

/-- A directive by the text of its level; without one everything passes. -/
def ofLevel (target field : Option String) (level : List Char) : Reading :=
  if level.isEmpty then .event ⟨target, field, 5⟩
  else
    match detail? level with
    | some d => .event ⟨target, field, d⟩
    | none => badLevel

/-- A well-formed directive that only holds inside of a span. -/
def inSpan : Reading → Reading
  | event _ => span
  | r => r

/-- A directive by what follows its brackets: nothing, or an equals sign and a level. -/
def afterBrackets (target field : Option String) : List Char → Reading
  | [] => ofLevel target field []
  | '=' :: level => ofLevel target field level
  | _ => misplaced

/-- A directive by what follows the opening bracket: the name of a span and a field in braces, either
of which may be missing. A field with a value is known of spans only. -/
def ofBrackets (target : Option String) (s : List Char) : Reading :=
  let (name, rest) := s.span fun c => c != ']' && c != '\x7b'
  match rest with
  | ']' :: rest => (afterBrackets target none rest).inSpan
  | _ :: rest =>
    match Text.cutAt '\x7d' rest with
    | some (c :: cs, ']' :: rest) =>
      let r := afterBrackets target (some (String.ofList (c :: cs))) rest
      if name.isEmpty && !(c :: cs).contains '=' then r else r.inSpan
    | _ => misplaced
  | [] => misplaced

/-- Reads one directive. A single word is a level if it can be, and else a target. -/
def ofText (text : List Char) : Reading :=
  match trimmed text with
  | [] => misplaced
  | '[' :: rest => ofBrackets none rest
  | c :: cs =>
    if beginsWord c then
      let (word, rest) := (c :: cs).span fun c => c != '=' && c != '['
      match rest with
      | [] =>
        match detail? word with
        | some d => .event ⟨none, none, d⟩
        | none => ofLevel (some (String.ofList word)) none []
      | '=' :: level => ofLevel (some (String.ofList word)) none level
      | _ :: rest => ofBrackets (some (String.ofList word)) rest
    else misplaced

end Reading

namespace Directive

/-- Whether a directive speaks for an event. -/
def covers (d : Directive) (e : Event) : Bool :=
  d.target.all (fun t => t.toList.isPrefixOf e.target.toList) && d.field.all e.hasField

/-- The length of the target, where any target is longer than none. -/
def weight (d : Directive) : Nat :=
  match d.target with
  | none => 0
  | some t => t.utf8ByteSize + 1

/-- Whether `d` comes first if it stands after `d'`: it has the longer target, or one as long and a
field that is no smaller. -/
def outranks (d d' : Directive) : Bool :=
  if d.weight = d'.weight then decide (¬ d.field.getD "" < d'.field.getD "")
  else decide (d'.weight < d.weight)

end Directive

structure Filter where
  directives : List Directive
  deriving DecidableEq, Repr

namespace Filter

def readings (spec : String) : List (String × Reading) :=
  (Text.fullPieces ',' spec.toList).map fun p => (String.ofList p, Reading.ofText p)

/-- The complaints about malformed directives, which are left out. -/
def complaints (spec : String) : List String :=
  (readings spec).filterMap fun (text, r) =>
    match r with
    | .malformed reason => some ("ignoring `" ++ text ++ "`: " ++ reason)
    | _ => none

/-- The filter that only lets errors pass. -/
def errorsOnly : Filter := ⟨[⟨none, none, 1⟩]⟩

def ofSpec (spec : String) : Filter :=
  let rs := (readings spec).map Prod.snd
  let ds := rs.filterMap fun | .event d => some d | _ => none
  if ds.isEmpty && !rs.contains .span then errorsOnly else ⟨ds⟩

/-- The directive that decides about an event. -/
def deciding (f : Filter) (e : Event) : Option Directive :=
  (f.directives.filter (·.covers e)).foldl (fun best d =>
    match best with
    | none => some d
    | some b => if d.outranks b then some d else some b) none

def passes (f : Filter) (e : Event) : Bool :=
  match f.deciding e with
  | none => false
  | some d => decide (e.level.detail ≤ d.detail)

end Filter
end Testbench.Log
