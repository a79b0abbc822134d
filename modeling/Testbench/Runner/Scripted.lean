import Testbench.Runner
/-!
# Scripted runners

A runner that plays a fixed list of firings. It stands for runners from elsewhere: one may change its
description when it runs, fail at the end, refuse filters or fail on them.
-/
namespace Testbench

/-- What a scripted runner does with a filter. -/
inductive Filtering where
  | unsupported
  | unchanged
  | fails (e : Error)
  deriving DecidableEq, Repr

structure Scripted where
  description : Description
  firings : List Firing
  failure : Option Error
  filtering : Filtering
  forgetful : Bool
  deriving DecidableEq, Repr

namespace Scripted

/-- A runner that only has a description. -/
def bare (d : Description) : Scripted := ⟨d, [], none, .unsupported, false⟩

/-- The runner once it started; a forgetful one no longer knows its description. -/
def started (s : Scripted) : Scripted :=
  if s.forgetful then { s with description := .suite "cleared" [] } else s

/-- Fires in order until a firing is refused, and then ends with the given failure, if there is one. -/
def firing (after : Scripted) : List Firing → Script Scripted
  | [] => .done (match after.failure with | none => .ok () | some e => .error e) after
  | f :: fs => .fire f fun a =>
    if a.refused then .done (.error .stoppedByUser) after else firing after fs

instance : RunnerKind Scripted where
  describe s := s.description
  filter? s :=
    match s.filtering with
    | .unsupported => none
    | .unchanged => some fun _ => (.ok (), s)
    | .fails e => some fun _ => (.error e, s)
  script s := firing s.started s.firings

end Scripted
end Testbench
