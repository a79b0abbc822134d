import Testbench.Proofs.Heard
import Testbench.Proofs.Runner.Brackets
/-!
# Times aside

Two runs of the same tests measure different times. No listener looks at a time except to report it, so
without the times both runs put out the same.

What can hold a time has a form without it, `untimed`; of listeners and stages that differ in nothing else
`Retimed` says so. Main definition: `Output.Alike`, for what comes out on two hosts. Main statement:
`Stage.Retimed.play`.
-/
namespace Testbench

/-! ## Forms without times -/

def Tally.untimed (t : Tally) : Tally := { t with runTime := 0 }

theorem Tally.passedCount_untimed (t : Tally) : t.untimed.passedCount = t.passedCount := rfl

def Callback.untimed : Callback → Callback
  | runFinished t => runFinished t.untimed
  | c => c

/-- The time that an event tells is in a field of its own. -/
def Log.Event.untimed (e : Log.Event) : Log.Event :=
  { e with fields := e.fields.map fun (name, value) =>
      (name, if name = "elapsed_ms" then "" else value) }

def Happening.untimed {ι : Type} : Happening ι → Happening ι
  | told listener c => told listener c.untimed
  | suite call => suite call.untimed
  | logged e => logged e.untimed
  | passed _ => passed 0

def Console.Line.untimed : Line → Line
  | suiteFinished count suite _ => suiteFinished count suite 0
  | finished test ok _ => finished test ok 0
  | ran count _ => ran count 0
  | l => l

def Output.untimed : Output → Output
  | line l => line l.untimed
  | event e => event e.untimed
  | suite call => suite call.untimed
  | heard listener c => heard listener c.untimed

def Record.untimed (r : Record) : Record := { r with millis := 0 }

def Results.untimed (r : Results) : Results :=
  { r with millis := 0, records := r.records.map Record.untimed }

theorem Callback.runFinished_congr {t t' : Tally} (h : t.untimed = t'.untimed) :
    (runFinished t).untimed = (runFinished t').untimed := congrArg runFinished h

/-- Callbacks that are the same without times hold a time only in the tally of a run. -/
theorem Callback.eq_or_of_untimed {c c' : Callback} (h : c.untimed = c'.untimed) :
    c = c' ∨ ∃ t t', c = runFinished t ∧ c' = runFinished t' ∧ t.untimed = t'.untimed := by
  cases c <;> cases c' <;> simp_all [untimed]

/-! ## Outputs -/

namespace Output

@[simp] theorem events_append (a b : List Output) : events (a ++ b) = events a ++ events b :=
  List.filterMap_append

theorem events_untimed (out : List Output) :
    events (out.map untimed) = (events out).map Log.Event.untimed := by
  rw [events, events, List.filterMap_map, List.map_filterMap]
  refine List.filterMap_congr fun o _ => ?_
  cases o <;> rfl

theorem lines_untimed (out : List Output) :
    lines (out.map untimed) = (lines out).map Console.Line.untimed := by
  rw [lines, lines, List.filterMap_map, List.map_filterMap]
  refine List.filterMap_congr fun o _ => ?_
  cases o <;> rfl

/-- Whatever the console, no event is lost. -/
theorem events_emit (s : Stage) (out : List Output) : events (s.emit out) = events out := by
  rw [events, events, Stage.emit, List.filterMap_filter]
  refine List.filterMap_congr fun o _ => ?_
  cases o with
  | line l => exact ite_self none
  | _ => rfl

theorem lines_emit (s : Stage) (out : List Output) :
    lines (s.emit out) = if s.host.consoleWorks then lines out else [] := by
  cases works : s.host.consoleWorks with
  | true => exact congrArg lines (Stage.emit_of_consoleWorks works out)
  | false =>
    refine List.filterMap_eq_nil_iff.2 fun o ho => ?_
    cases o with
    | line l => exact absurd (List.mem_filter.1 ho).2 (by simp [Host.emits, works])
    | _ => rfl

/-- Outputs with the same events and, if both consoles work or both fail, the same lines. -/
structure Alike (works works' : Bool) (out out' : List Output) : Prop where
  events : (events out).map Log.Event.untimed = (events out').map Log.Event.untimed
  lines : works = works' →
    (lines out).map Console.Line.untimed = (lines out').map Console.Line.untimed

namespace Alike
variable {works works' : Bool}

theorem refl (out : List Output) : Alike works works' out out := ⟨rfl, fun _ => rfl⟩

theorem nil : Alike works works' [] [] := refl []

theorem append {a a' b b' : List Output} (h : Alike works works' a a')
    (g : Alike works works' b b') : Alike works works' (a ++ b) (a' ++ b') where
  events := by simp [h.events, g.events]
  lines := fun same => by simp [h.lines same, g.lines same]

theorem event {e e' : Log.Event} (h : e.untimed = e'.untimed) :
    Alike works works' [.event e] [.event e'] where
  events := congrArg ([·]) h
  lines := fun _ => rfl

/-- The same outputs, each on its stage. -/
theorem emit {s s' : Stage} {out out' : List Output} (h : out.map untimed = out'.map untimed) :
    Alike s.host.consoleWorks s'.host.consoleWorks (s.emit out) (s'.emit out') where
  events := by
    rw [events_emit, events_emit, ← events_untimed, h, events_untimed]
  lines := by
    intro same
    rw [lines_emit, lines_emit, same]
    split
    · rw [← lines_untimed, h, lines_untimed]
    · rfl

end Alike
end Output

theorem SuiteLogger.hear_untimed {call call' : SuiteCall} (h : call.untimed = call'.untimed)
    (logger : SuiteLogger) :
    (logger.hear call).map Output.untimed = (logger.hear call').map Output.untimed := by
  have untimed (call : SuiteCall) :
      (logger.hear call).map Output.untimed = (logger.hear call.untimed).map Output.untimed := by
    induction logger with
    | both first second ih ih' => simp only [hear, List.map_append, ih, ih']
    | _ => cases call <;> rfl
  rw [untimed call, h, ← untimed call']

/-! ## Listeners -/

namespace Console

theorem untimed_summary (passed : Nat) (failed : List Description) (millis : Nat) :
    (summary passed failed millis).map Line.untimed = summary passed failed 0 := by
  unfold summary failedBlock
  split <;> simp [Line.untimed, Function.comp_def]

/-- Consoles that differ at most in the starts that they have seen. -/
structure Listener.Retimed (l l' : Listener) : Prop where
  pending : l.pending = l'.pending
  failedTests : l.failedTests = l'.failedTests

/-- A console shows times, but does not look at them otherwise. -/
theorem Listener.Retimed.hear {l l' : Listener} (h : l.Retimed l') (now now' : Duration)
    {c c' : Callback} (same : c.untimed = c'.untimed) :
    (l.hear now c).1.Retimed (l'.hear now' c').1 ∧
      (l.hear now c).2.map Line.untimed = (l'.hear now' c').2.map Line.untimed := by
  obtain ⟨hpending, hfailed⟩ := h
  have finish (t t' : Tally) (ht : t.untimed = t'.untimed) :
      (l.hear now (.runFinished t)).1.Retimed (l'.hear now' (.runFinished t')).1 ∧
        (l.hear now (.runFinished t)).2.map Line.untimed =
          (l'.hear now' (.runFinished t')).2.map Line.untimed := by
    have passed : t.passedCount = t'.passedCount := by
      rw [← t.passedCount_untimed, ht, t'.passedCount_untimed]
    have orphans : l.withOrphans.failedTests = l'.withOrphans.failedTests := by
      simp only [withOrphans, hpending, hfailed]
    refine ⟨⟨rfl, orphans⟩, ?_⟩
    simp only [Listener.hear, untimed_summary, passed, orphans]
  obtain rfl | ⟨t, t', rfl, rfl, ht⟩ := Callback.eq_or_of_untimed same
  · cases c with
    | runFinished t => exact finish t t rfl
    | failure f => exact ⟨⟨by simp only [Listener.hear, hpending], hfailed⟩, rfl⟩
    | finished d =>
      refine ⟨⟨?_, ?_⟩, ?_⟩ <;>
        simp only [Listener.hear, hpending, hfailed, List.map_singleton, Line.untimed]
    | _ => exact ⟨⟨hpending, hfailed⟩, rfl⟩
  · exact finish t t' ht

end Console

namespace Results

theorem untimed_add (r : Results) (record : Record) :
    (r.add record).untimed = r.untimed.add record.untimed := by
  simp only [add, untimed, Record.untimed, List.map_append, List.map_singleton]
  rfl

theorem untimed_addAll (r : Results) (records : List Record) :
    (records.foldl add r).untimed = (records.map Record.untimed).foldl add r.untimed := by
  induction records generalizing r with
  | nil => rfl
  | cons record records ih => rw [List.foldl_cons, ih, untimed_add, List.map_cons, List.foldl_cons]

/-- Results listeners that differ at most in the starts that they have seen and the times that they have
recorded. -/
structure Listener.Retimed (l l' : Listener) : Prop where
  path : l.path = l'.path
  results : l.results.untimed = l'.results.untimed
  failures : l.failures = l'.failures

namespace Listener.Retimed
variable {l l' : Listener}

theorem verdict (h : l.Retimed l') (d : Description) (now now' : Duration) :
    (l.verdict d now).untimed = (l'.verdict d now').untimed := by
  unfold Listener.verdict
  rw [h.failures]
  cases l'.failures.lookup d.displayName <;> rfl

theorem withOrphans (h : l.Retimed l') :
    l.withOrphans.results.untimed = l'.withOrphans.results.untimed := by
  simp only [results_withOrphans, untimed_addAll, h.results, h.failures]

/-- A results listener records times, but does not look at them otherwise. -/
theorem collect (h : l.Retimed l') (now now' : Duration) {c c' : Callback}
    (same : c.untimed = c'.untimed) : (l.collect now c).Retimed (l'.collect now' c') := by
  have finish (t t' : Tally) :
      (l.collect now (.runFinished t)).Retimed (l'.collect now' (.runFinished t')) :=
    ⟨h.path, h.withOrphans, rfl⟩
  have hverdict (d : Description) := h.verdict d now now'
  obtain ⟨hpath, hresults, hfailures⟩ := h
  obtain rfl | ⟨t, t', rfl, rfl, -⟩ := Callback.eq_or_of_untimed same
  · cases c with
    | runFinished t => exact finish t t
    | failure f => exact ⟨hpath, hresults, by simp only [Listener.collect, hfailures]⟩
    | ignored d =>
      exact ⟨hpath, by simp only [results_ignored, untimed_add, hresults], hfailures⟩
    | finished d =>
      refine ⟨hpath, ?_, ?_⟩
      · simp only [results_finished, untimed_add, hresults, hverdict]
      · simp only [Listener.collect, hfailures]
    | _ => exact ⟨hpath, hresults, hfailures⟩
  · exact finish t t'

end Listener.Retimed
end Results

/-- Listeners that differ at most in times. -/
inductive Listener.Retimed : Listener → Listener → Prop
  | console {l l' : Console.Listener} : l.Retimed l' → Retimed (console l) (console l')
  | results {l l' : Results.Listener} : l.Retimed l' → Retimed (results l) (results l')
  | recorder (label : Nat) : Retimed (recorder label) (recorder label)
  | silent : Retimed silent silent

/-- Whether a callback closes a run. -/
def Callback.closes : Callback → Bool
  | runFinished _ => true
  | _ => false

namespace Listener.Retimed
variable {l l' : Listener}

theorem after (h : l.Retimed l') (now now' : Duration) {c c' : Callback}
    (same : c.untimed = c'.untimed) : (l.after now c).Retimed (l'.after now' c') := by
  cases h with
  | console h => exact .console (h.hear now now' same).1
  | results h => exact .results (h.collect now now' same)
  | recorder label => exact .recorder label
  | silent => exact .silent

/-- Listeners put out the same, whatever the files are, unless they are told to write a file. -/
theorem outputs (h : l.Retimed l') (now now' : Duration) (fs fs' : Files) {c c' : Callback}
    (same : c.untimed = c'.untimed) (goesOn : c.closes = false ∨ ∃ k, l = .console k) :
    (l.hear now fs c).2.2.map Output.untimed = (l'.hear now' fs' c').2.2.map Output.untimed := by
  cases h with
  | console h =>
    have lines := congrArg (List.map Output.line) (h.hear now now' same).2
    rw [List.map_map, List.map_map] at lines
    simp only [Listener.hear, List.map_map]
    exact lines
  | results h =>
    have goesOn : c.closes = false := by simpa using goesOn
    obtain rfl | ⟨t, t', rfl, -⟩ := Callback.eq_or_of_untimed same
    · cases c <;> first | rfl | cases goesOn
    · cases goesOn
  | recorder label => simp [Listener.hear, Output.untimed, same]
  | silent => rfl

end Listener.Retimed

/-- Before a run is closed no listener changes files. -/
theorem Listener.files_hear_of_goesOn (l : Listener) (now : Duration) (fs : Files) {c : Callback}
    (goesOn : c.closes = false) : (l.hear now fs c).2.1 = fs := by
  cases l with
  | results r => cases c <;> first | rfl | cases goesOn
  | _ => rfl

/-! ## Stages -/

/-- Whether a listener is told that a run is over. -/
def Happening.closes {ι : Type} : Happening ι → Bool
  | told _ c => c.closes
  | _ => false

namespace Stage

/-- Stages that differ at most in times, files and consoles. -/
structure Retimed (s s' : Stage) : Prop where
  listeners : ∀ i : Nat, Option.Rel Listener.Retimed s.listeners[i]? s'.listeners[i]?
  logger : s.logger = s'.logger

theorem files_perceive_of_goesOn (s : Stage) {h : Happening Nat} (goesOn : h.closes = false) :
    (s.perceive h).1.host.files = s.host.files := by
  cases h with
  | told i c =>
    cases hl : s.listeners[i]? with
    | none => rw [perceive_told_of_none hl]
    | some l =>
      rw [perceive_told_of_some hl]
      exact l.files_hear_of_goesOn s.clock s.host.files goesOn
  | _ => rfl

/-- Until a run is closed its files stay as they are. -/
theorem files_play_of_goesOn (s : Stage) {trace : List (Happening Nat)}
    (goesOn : ∀ h ∈ trace, h.closes = false) : (s.play trace).1.host.files = s.host.files := by
  induction trace generalizing s with
  | nil => rfl
  | cons h trace ih =>
    obtain ⟨hh, htrace⟩ := List.forall_mem_cons.1 goesOn
    rw [play_cons, ih _ htrace, s.files_perceive_of_goesOn hh]

theorem logger_perceive (s : Stage) (h : Happening Nat) : (s.perceive h).1.logger = s.logger := by
  cases h with
  | told i c =>
    simp only [perceive]
    split <;> rfl
  | _ => rfl

namespace Retimed
variable {s s' : Stage}

/-- Stages that perceive the same stay alike, even if one of them writes a file. -/
theorem perceive (hs : s.Retimed s') {h h' : Happening Nat} (same : h.untimed = h'.untimed) :
    (s.perceive h).1.Retimed (s'.perceive h').1 := by
  have logger : (s.perceive h).1.logger = (s'.perceive h').1.logger := by
    rw [logger_perceive, logger_perceive, hs.logger]
  refine ⟨fun j => ?_, logger⟩
  cases h <;> cases h'
  case told.told i c i' c' =>
    obtain ⟨rfl, hc⟩ : i = i' ∧ c.untimed = c'.untimed := by simpa [Happening.untimed] using same
    rw [getElem?_perceive_told, getElem?_perceive_told]
    split
    · exact match s.listeners[j]?, s'.listeners[j]?, hs.listeners j with
        | _, _, .none => .none
        | _, _, .some h => .some (h.after s.clock s'.clock hc)
    · exact hs.listeners j
  all_goals first | exact hs.listeners j | cases same

theorem results (hs : s.Retimed s') {i : Nat} {r r' : Results.Listener}
    (h : s.listeners[i]? = some (.results r)) (h' : s'.listeners[i]? = some (.results r')) :
    r.Retimed r' := by
  have rel := hs.listeners i
  rw [h, h'] at rel
  cases rel with
  | some rel =>
    cases rel with
    | results alike => exact alike

/-- A listener that is told the same on both stages puts out the same, unless it is told to write a
file. -/
theorem told (hs : s.Retimed s') {i : Nat} {c c' : Callback} (same : c.untimed = c'.untimed)
    (goesOn : c.closes = false ∨ ∃ l, s.listeners[i]? = some (.console l)) :
    Output.Alike s.host.consoleWorks s'.host.consoleWorks (s.perceive (.told i c)).2
      (s'.perceive (.told i c')).2 := by
  have rel := hs.listeners i
  cases hl : s.listeners[i]? <;> cases hl' : s'.listeners[i]? <;> rw [hl, hl'] at rel
  case none.none =>
    rw [perceive_told_of_none hl, perceive_told_of_none hl']
    exact .nil
  case some.some =>
    obtain ⟨h⟩ := rel
    rw [perceive_told_of_some hl, perceive_told_of_some hl']
    refine .emit (h.outputs s.clock s'.clock s.host.files s'.host.files same ?_)
    simpa [hl] using goesOn
  all_goals cases rel

theorem outputs (hs : s.Retimed s') {h h' : Happening Nat} (same : h.untimed = h'.untimed)
    (goesOn : h.closes = false) :
    Output.Alike s.host.consoleWorks s'.host.consoleWorks (s.perceive h).2 (s'.perceive h').2 := by
  cases h <;> cases h'
  case told.told i c i' c' =>
    obtain ⟨rfl, hc⟩ : i = i' ∧ c.untimed = c'.untimed := by simpa [Happening.untimed] using same
    exact hs.told hc (.inl goesOn)
  case suite.suite call call' =>
    have hcall : call.untimed = call'.untimed := by simpa [Happening.untimed] using same
    refine .emit ?_
    rw [hs.logger, SuiteLogger.hear_untimed hcall]
  case logged.logged e e' =>
    exact .event (by simpa [Happening.untimed] using same)
  case passed.passed => exact .nil
  all_goals cases same

/-- Until a run is closed both stages put out the same. -/
theorem play (hs : s.Retimed s') {a b : List (Happening Nat)}
    (same : a.map Happening.untimed = b.map Happening.untimed)
    (goesOn : ∀ h ∈ a, h.closes = false) :
    (s.play a).1.Retimed (s'.play b).1 ∧
      Output.Alike s.host.consoleWorks s'.host.consoleWorks (s.play a).2 (s'.play b).2 := by
  induction a generalizing b s s' with
  | nil =>
    obtain rfl : b = [] := List.map_eq_nil_iff.1 same.symm
    exact ⟨hs, .nil⟩
  | cons h a ih =>
    obtain ⟨h', b', rfl, hh, hrest⟩ := List.map_eq_cons_iff.1 same.symm
    obtain ⟨hhead, htail⟩ := List.forall_mem_cons.1 goesOn
    have first := hs.outputs hh.symm hhead
    obtain ⟨hstage, others⟩ := ih (hs.perceive hh.symm) hrest.symm htail
    rw [consoleWorks_perceive, consoleWorks_perceive] at others
    exact ⟨hstage, first.append others⟩

end Retimed
end Stage
end Testbench
