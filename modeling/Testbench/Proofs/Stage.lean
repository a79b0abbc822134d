import Testbench.Harness
import Testbench.Proofs.Listeners.Records
/-!
# A console and a results file

The stage of a run with a results file: a console listener and a results listener hear every callback,
one after the other. What one callback does to such a stage is what it does to each of the two listeners.

Main statements: `play_toEach` for one callback, and `play_runFinished` for the end of a run, when the
results are written.
-/
namespace Testbench

/-! ## Lines among outputs -/

namespace Output

@[simp] theorem lines_nil : lines [] = [] := rfl

@[simp] theorem lines_append (a b : List Output) : lines (a ++ b) = lines a ++ lines b :=
  List.filterMap_append

@[simp] theorem lines_line (l : Console.Line) (out : List Output) :
    lines (.line l :: out) = l :: lines out := rfl

@[simp] theorem lines_event (e : Log.Event) (out : List Output) :
    lines (.event e :: out) = lines out := rfl

@[simp] theorem lines_map_line (ls : List Console.Line) : lines (ls.map .line) = ls := by
  induction ls with
  | nil => rfl
  | cons l ls ih => rw [List.map_cons, lines_line, ih]

@[simp] theorem lines_map_event (es : List Log.Event) : lines (es.map .event) = [] := by
  induction es with
  | nil => rfl
  | cons e es ih => rw [List.map_cons, lines_event, ih]

end Output

namespace Stage

@[simp] theorem play_passed (s : Stage) (time : Duration) (trace : List (Happening Nat)) :
    s.play (.passed time :: trace) = { s with clock := s.clock + time }.play trace := rfl

@[simp] theorem play_logged (s : Stage) (e : Log.Event) (trace : List (Happening Nat)) :
    s.play (.logged e :: trace) = ((s.play trace).1, .event e :: (s.play trace).2) := rfl

/-- Nothing is lost if the console can be written to. -/
theorem emit_of_consoleWorks {s : Stage} (works : s.host.consoleWorks = true) (out : List Output) :
    s.emit out = out := by
  refine List.filter_eq_self.2 fun o _ => ?_
  cases o <;> simp [Host.emits, works]

@[simp] theorem emit_map_event (s : Stage) (es : List Log.Event) :
    s.emit (es.map .event) = es.map .event := by
  refine List.filter_eq_self.2 fun o ho => ?_
  obtain ⟨e, -, rfl⟩ := List.mem_map.1 ho
  rfl

end Stage

/-! ## Two listeners -/

namespace Harness

/-- The stage of a run with a results file, at some moment. -/
def watched (c : Console.Listener) (r : Results.Listener) (host : Host) (clock : Duration) : Stage where
  listeners := [.console c, .results r]
  logger := .both .console .events
  host
  clock

theorem stage_some (path : Path) (host : Host) :
    stage (some path) host = watched .fresh (.fresh path) host 0 := rfl

variable (c : Console.Listener) (r : Results.Listener) (host : Host) (clock : Duration)

/-- The host after a results listener heard a callback. -/
def hostAfter (callback : Callback) : Host :=
  { host with files := (r.hear clock host.files callback).2.1 }

/-- Both listeners hear a callback, and the files are as the results listener leaves them. -/
theorem play_toEach (callback : Callback) :
    (watched c r host clock).play (callback.toEach [0, 1]) =
      (watched (c.hear clock callback).1 (r.hear clock host.files callback).1
          (hostAfter r host clock callback) clock,
        (watched c r host clock).emit ((c.hear clock callback).2.map .line) ++
          (r.hear clock host.files callback).2.2.map .event) := by
  simp [watched, hostAfter, Callback.toEach, Stage.play, Stage.perceive, Listener.hear,
    Stage.withFiles]

theorem play_suite (call : SuiteCall) :
    (watched c r host clock).play [.suite call] =
      (watched c r host clock,
        (watched c r host clock).emit
          ((SuiteLogger.lines call).map .line ++ [.event (SuiteLogger.event call)])) := by
  simp [watched, Stage.play, Stage.perceive, SuiteLogger.hear]

/-- A results listener writes only when a run finishes. -/
theorem hostAfter_of_ne {callback : Callback} (h : ∀ t, callback ≠ .runFinished t) :
    hostAfter r host clock callback = host := by
  cases callback with
  | runFinished t => exact absurd rfl (h t)
  | _ => rfl

/-! ## The end of a run -/

variable {r host}

/-- Results are written when a run finishes, if they can be. -/
theorem write_hostAfter (writable : host.files.Writable r.path) (t : Tally) :
    host.files.write r.path (r.collect clock (.runFinished t)).results.text.toUTF8 =
      .ok (hostAfter r host clock (.runFinished t)).files :=
  Results.save_eq_ok_iff.1 (Results.Listener.save_hear writable clock t)

/-- At the end of a run the console shows a summary, and the results are written. -/
theorem play_runFinished (works : host.consoleWorks = true) (writable : host.files.Writable r.path)
    (t : Tally) :
    let x := (watched c r host clock).play ((Callback.runFinished t).toEach [0, 1])
    Output.lines x.2 =
        Console.summary t.passedCount c.withOrphans.failedTests (c.runMillis clock t) ∧
      x.1.host.files.readText r.path = .ok (r.collect clock (.runFinished t)).results.text := by
  have written := Files.readText_write (write_hostAfter clock writable t)
  intro x
  rw [show x = _ from play_toEach c r host clock (.runFinished t),
    Stage.emit_of_consoleWorks (by exact works)]
  refine ⟨?_, written⟩
  rw [Output.lines_append, Output.lines_map_line, Output.lines_map_event, List.append_nil]
  rfl

end Harness
end Testbench
