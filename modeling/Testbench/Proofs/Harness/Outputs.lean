import Testbench.Proofs.Harness.Retimed
/-!
# Broken outputs do no harm

A run writes lines to a console and results to a file. Neither can break it: if the console fails, lines
are lost and nothing else; if the file cannot be written, the last event is a warning and nothing else
changes.

Main definition: `Harmless`, for two runs of the same classes at different times and on different hosts.
Main statement: `broken_outputs_harmless`.
-/
namespace Testbench

/-! ## Saving results -/

namespace Results

/-- The event that results were written. -/
def written (path : Path) (tests : Nat) : Log.Event :=
  ⟨.info, "suitelog::json", some "json_results_written",
    [("path", path.shown), ("tests", toString tests)]⟩

/-- The warning that results were not written. -/
def notWritten (path : Path) (e : Error) : Log.Event :=
  ⟨.warn, "suitelog::json", some "failed to write JSON results",
    [("path", path.shown), ("error", e.message)]⟩

/-- How saving ends: the files after it, and the event that tells of it. -/
inductive Saving (r : Results) (path : Path) (fs : Files) : Files → Log.Event → Prop
  | ok {fs' : Files} : r.save path fs = .ok fs' → Saving r path fs fs' (written path r.records.length)
  | error {e : Error} : r.save path fs = .error e → Saving r path fs fs (notWritten path e)

/-- Two states of some files after runs that may write results to them: neither wrote, or both wrote the same
results but for times. -/
inductive SameStored (resultsFile : Option Path) (files : Files) : Files → Files → Prop
  | nothing : SameStored resultsFile files files files
  | results {path : Path} {r r' : Results} {fs fs' : Files} : resultsFile = some path →
    r.untimed = r'.untimed → r.save path files = .ok fs → r'.save path files = .ok fs' →
      SameStored resultsFile files fs fs'

/-- The same events but for times, except that the last one, about a file that was written, is replaced by
a warning that it was not. -/
inductive Warned (path : Path) : List Log.Event → List Log.Event → Prop
  | intro {events events' : List Log.Event} (tests : Nat) (e : Error) :
    events.map Log.Event.untimed = events'.map Log.Event.untimed →
      Warned path (events ++ [written path tests]) (events' ++ [notWritten path e])

variable {r r' : Results} {path : Path} {fs fs' : Files}

theorem exists_save_of_writable (writable : fs.Writable path) (r : Results) :
    ∃ fs', r.save path fs = .ok fs' := by
  obtain ⟨fs', hwrite⟩ := writable.write r.text.toUTF8
  exact ⟨fs', save_eq_ok_iff.2 hwrite⟩

theorem writable_of_save (h : r.save path fs = .ok fs') : fs.Writable path :=
  ⟨_, _, save_eq_ok_iff.1 h⟩

/-- Why a file cannot be written does not depend on what it should hold. -/
theorem save_error_congr {e : Error} (h : r.save path fs = .error e) (r' : Results) :
    r'.save path fs = .error e := by
  unfold save at h ⊢
  cases hw : fs.write path r.text.toUTF8 with
  | ok fs' => simp only [hw, reduceCtorEq] at h
  | error cause => simpa only [hw, Files.write_error_congr hw r'.text.toUTF8] using h

theorem length_records_congr (same : r.untimed = r'.untimed) :
    r.records.length = r'.records.length := by
  simpa [untimed] using congrArg (fun r => r.records.length) same

namespace Saving
variable {after after' : Files} {e e' : Log.Event}

/-- Where the same is saved, saving ends the same. -/
theorem same_files (h : r.Saving path fs after e) (h' : r'.Saving path fs after' e')
    (same : r.untimed = r'.untimed) : e = e' ∧ SameStored (some path) fs after after' := by
  cases h with
  | ok saved =>
    cases h' with
    | ok saved' => exact ⟨by rw [length_records_congr same], .results rfl same saved saved'⟩
    | error failed =>
      have := save_error_congr failed r
      simp [saved] at this
  | error failed =>
    have failed' := save_error_congr failed r'
    cases h' with
    | ok saved => simp [saved] at failed'
    | error other =>
      obtain rfl := Except.error.inj (failed'.symm.trans other)
      exact ⟨rfl, .nothing⟩

theorem of_writable (h : r.Saving path fs after e) (writable : fs.Writable path) :
    e = written path r.records.length := by
  obtain ⟨fs', saved⟩ := exists_save_of_writable writable r
  cases h with
  | ok _ => rfl
  | error failed => simp [saved] at failed

theorem of_not_writable (h : r.Saving path fs after e) (not_writable : ¬ fs.Writable path) :
    ∃ cause, e = notWritten path cause := by
  cases h with
  | ok saved => exact absurd (writable_of_save saved) not_writable
  | error failed => exact ⟨_, rfl⟩

end Saving
end Results

/-- When a run is closed a results listener saves what it has collected. -/
theorem Stage.saving_perceive {s : Stage} {i : Nat} {r : Results.Listener}
    (h : s.listeners[i]? = some (.results r)) (t : Tally) :
    let x := s.perceive (.told i (.runFinished t))
    ∃ e, x.2 = [.event e] ∧
      (r.collect s.clock (.runFinished t)).results.Saving r.path s.host.files x.1.host.files e := by
  intro x
  let l := r.collect s.clock (.runFinished t)
  have heard : (Listener.results r).hear s.clock s.host.files (.runFinished t) =
      (.results l, (l.results.save r.path s.host.files).toOption.getD s.host.files,
        [.event (l.saved (l.results.save r.path s.host.files))]) := rfl
  have hx : x = _ := perceive_told_of_some h (.runFinished t)
  rw [heard] at hx
  refine ⟨_, congrArg Prod.snd hx, ?_⟩
  rw [hx]
  cases saved : l.results.save r.path s.host.files with
  | ok fs => exact .ok saved
  | error e => exact .error saved

/-- Stages on which the same was collected save the same. -/
theorem Stage.Retimed.saving {s s' : Stage} (hs : s.Retimed s') {i : Nat}
    {r r' : Results.Listener} (h : s.listeners[i]? = some (.results r))
    (h' : s'.listeners[i]? = some (.results r')) {t t' : Tally} (same : t.untimed = t'.untimed) :
    let x := s.perceive (.told i (.runFinished t))
    let x' := s'.perceive (.told i (.runFinished t'))
    ∃ (results results' : Results) (e e' : Log.Event), results.untimed = results'.untimed ∧
      x.2 = [.event e] ∧ results.Saving r.path s.host.files x.1.host.files e ∧
      x'.2 = [.event e'] ∧ results'.Saving r'.path s'.host.files x'.1.host.files e' := by
  obtain ⟨e, he, saving⟩ := saving_perceive h t
  obtain ⟨e', he', saving'⟩ := saving_perceive h' t'
  have collected := (hs.results h h').collect s.clock s'.clock (Callback.runFinished_congr same)
  exact ⟨_, _, e, e', collected.results, he, saving, he', saving'⟩

/-! ## Runs up to the saving of results -/

/-- What happens before the results of a run are saved: all of it but the last notice. -/
def Runner.untilSaving (r : Runner Empty) (n : Notifier Nat) : List (Happening Nat) :=
  r.untilEnd n ++ [.told 0 (.runFinished (r.total n))]

namespace Harness

theorem trace_supervise_stage (r : Runner Empty) (resultsFile : Option Path) (host : Host)
    (failFast : Bool) :
    let n := notifier (stage resultsFile host) failFast
    (r.supervise n).trace = r.untilSaving n ++
      (resultsFile.map fun _ => .told 1 (.runFinished (r.total n))).toList := by
  intro n
  rw [Runner.trace_supervise, Runner.untilSaving, List.append_assoc]
  cases resultsFile <;> rfl

/-- The listeners of a run at any time: a console, and a results listener if there is a file for it. -/
theorem listeners_play_stage (resultsFile : Option Path) (host : Host)
    (trace : List (Happening Nat)) :
    let s := ((stage resultsFile host).play trace).1
    (∃ c, s.listeners[0]? = some (.console c)) ∧
      ∀ path, resultsFile = some path →
        ∃ r, s.listeners[1]? = some (.results r) ∧ r.path = path := by
  intro s
  have listeners (i : Nat) := (stage resultsFile host).getElem?_play i trace
  refine ⟨⟨_, (listeners 0).trans (congrArg some (Listener.afterAll_console .fresh _))⟩, ?_⟩
  · rintro path rfl
    refine ⟨_, (listeners 1).trans (congrArg some (Listener.afterAll_results (.fresh path) _)), ?_⟩
    exact Results.Listener.path_collectAll (.fresh path) _

/-- No file changes before the results are saved. -/
theorem files_play_untilSaving (r : Runner Empty) (n : Notifier Nat) (resultsFile : Option Path)
    (host : Host) :
    ((stage resultsFile host).play (r.untilSaving n)).1.host.files = host.files := by
  obtain ⟨⟨c, hc⟩, -⟩ := listeners_play_stage resultsFile host (r.untilEnd n)
  have files := (stage resultsFile host).files_play_of_goesOn (r.goesOn_untilEnd n)
  rw [Runner.untilSaving, Stage.play_append, Stage.play_cons, Stage.perceive_told_of_some hc]
  exact files

theorem retimed_stage (resultsFile : Option Path) (host host' : Host) :
    (stage resultsFile host).Retimed (stage resultsFile host') := by
  refine ⟨?_, rfl⟩
  rintro (_ | _ | i)
  · exact .some (.console ⟨rfl, rfl⟩)
  · cases resultsFile with
    | none => exact .none
    | some path => exact .some (.results ⟨rfl, rfl, rfl⟩)
  · cases resultsFile <;> exact .none

/-- Until the results are saved two runs put out the same, whatever their hosts. -/
theorem play_untilSaving {cs cs' : List TestClass}
    (same : cs.map TestClass.untimed = cs'.map TestClass.untimed) (n : Notifier Nat)
    (resultsFile : Option Path) (host host' : Host) :
    let x := (stage resultsFile host).play ((loggedSuite cs).untilSaving n)
    let x' := (stage resultsFile host').play ((loggedSuite cs').untilSaving n)
    x.1.Retimed x'.1 ∧ Output.Alike host.consoleWorks host'.consoleWorks x.2 x'.2 := by
  intro x x'
  obtain ⟨hstage, hout⟩ := (retimed_stage resultsFile host host').play (untilEnd_congr same n)
    ((loggedSuite cs).goesOn_untilEnd n)
  have total : (Callback.runFinished ((loggedSuite cs).total n)).untimed =
      (Callback.runFinished ((loggedSuite cs').total n)).untimed :=
    Callback.runFinished_congr (total_congr same n)
  -- The summary is all that is put out when the console is told of the end.
  have summary := hstage.told total (.inr (listeners_play_stage resultsFile host _).1)
  rw [Stage.consoleWorks_play, Stage.consoleWorks_play] at summary
  simp only [x, x', Runner.untilSaving, Stage.play_append, Stage.play]
  refine ⟨hstage.perceive ?_, hout.append (summary.append .nil)⟩
  exact congrArg (Happening.told 0) total

/-! ## Two runs on different hosts -/

/-- Whether a run ends by saving its results at a path. -/
structure Saves (o : Options) (r : Report) (path : Path) : Prop where
  runs : o.list = false
  file : o.resultsFile = some path
  ends : ∃ t, r.outcome = .ok t

/-- Reports of the same run on two hosts. But for times, the outcomes are the same; so are the lines, if
both consoles work or both fail; so are the events and what is stored, if both hosts have the same files. If
only the first host lets the results be saved, the last event becomes a warning. -/
structure Harmless (o : Options) (host host' : Host) (r r' : Report) : Prop where
  outcome : r.outcome.map Tally.untimed = r'.outcome.map Tally.untimed
  lines : host.consoleWorks = host'.consoleWorks →
    (Output.lines r.outputs).map Console.Line.untimed =
      (Output.lines r'.outputs).map Console.Line.untimed
  events : (∀ path, Saves o r path → host.files = host'.files) →
    (Output.events r.outputs).map Log.Event.untimed =
      (Output.events r'.outputs).map Log.Event.untimed
  stored : host.files = host'.files →
    Results.SameStored o.resultsFile host.files r.host.files r'.host.files
  warned : ∀ path, Saves o r path → host.files.Writable path → ¬ host'.files.Writable path →
    Results.Warned path (Output.events r.outputs) (Output.events r'.outputs)

namespace Harmless
variable {o : Options} {host host' : Host} {r r' : Report}

/-- Runs that save nothing. -/
theorem of_alike (outcome : r.outcome.map Tally.untimed = r'.outcome.map Tally.untimed)
    (outputs : Output.Alike host.consoleWorks host'.consoleWorks r.outputs r'.outputs)
    (files : r.host.files = host.files) (files' : r'.host.files = host'.files)
    (unsaved : ∀ path, ¬ Saves o r path) : Harmless o host host' r r' where
  outcome := outcome
  lines := outputs.lines
  events := fun _ => outputs.events
  stored := by
    intro same
    rw [files, files', ← same]
    exact .nothing
  warned := fun path saves => absurd saves (unsaved path)

/-- Runs that end by saving their results. -/
theorem of_saving {path : Path} {out out' : List Output} {e e' : Log.Event} {results results' : Results}
    (outcome : r.outcome.map Tally.untimed = r'.outcome.map Tally.untimed)
    (saves : Saves o r path)
    (outputs : Output.Alike host.consoleWorks host'.consoleWorks out out')
    (hout : r.outputs = out ++ [.event e]) (hout' : r'.outputs = out' ++ [.event e'])
    (same : results.untimed = results'.untimed)
    (saving : results.Saving path host.files r.host.files e)
    (saving' : results'.Saving path host'.files r'.host.files e') : Harmless o host host' r r' := by
  have last (out : List Output) (e : Log.Event) :
      Output.events (out ++ [.event e]) = Output.events out ++ [e] := Output.events_append _ _
  refine ⟨outcome, ?_, ?_, ?_, ?_⟩
  · intro works
    simp [hout, hout', outputs.lines works]
  · intro files
    rw [← files path saves] at saving'
    rw [hout, hout', last, last, (saving.same_files saving' same).1, List.map_append, List.map_append,
      outputs.events]
  · intro files
    rw [← files] at saving'
    rw [saves.file]
    exact (saving.same_files saving' same).2
  · intro path' saves' writable not_writable
    obtain rfl : path = path' := Option.some.inj (saves.file.symm.trans saves'.file)
    obtain ⟨cause, rfl⟩ := saving'.of_not_writable not_writable
    rw [hout, hout', last, last, saving.of_writable writable]
    exact .intro _ cause outputs.events

end Harmless

/-- A run of chosen classes is played until its results are saved, and then to its end. -/
theorem runClasses_untilSaving {classes cs : List TestClass} {o : Options} (runs : o.list = false)
    (h : chosen classes o.pattern = .ok cs) (host : Host) {n : Notifier Nat}
    (hn : n = notifier (stage o.resultsFile host) o.failFast) :
    let t := (loggedSuite cs).total n
    let x := (stage o.resultsFile host).play ((loggedSuite cs).untilSaving n)
    let y := x.1.play (o.resultsFile.map fun _ => .told 1 (.runFinished t)).toList
    let r := runClasses classes o host
    r.outcome = .ok t ∧
      r.outputs = (select classes o.pattern).2.map .event ++ [.event (running (loggedSuite cs))] ++
        x.2 ++ y.2 ∧
      r.host = y.1.host := by
  intro t x y r
  subst hn
  have trace := trace_supervise_stage (loggedSuite cs) o.resultsFile host o.failFast
  have outcome := ((loggedSuite cs).supervise_eq (notifier (stage o.resultsFile host) o.failFast)).1
  simp only [r, runClasses_eq, h, runs, Bool.false_eq_true, if_false, trace, Stage.play_append]
  exact ⟨outcome, by simp [x, y, t], rfl⟩

section Runs
variable {classes classes' : List TestClass}
  (same : classes.map TestClass.untimed = classes'.map TestClass.untimed)
include same

/-- A run ends the same on every host, but for the time that it takes. -/
theorem outcome_congr (o : Options) (host host' : Host) :
    (runClasses classes o host).outcome.map Tally.untimed =
      (runClasses classes' o host').outcome.map Tally.untimed := by
  obtain ⟨e, hc, hc'⟩ | ⟨cs, cs', hc, hc', hcs⟩ := chosen_congr same o.pattern
  · simp [runClasses_eq, hc, hc']
  · cases hl : o.list with
    | true => simp [runClasses_eq, hc, hc', hl]
    | false =>
      rw [outcome_runClasses hl, outcome_runClasses hl, hc, hc']
      exact congrArg Except.ok (total_congr hcs (notifier (stage o.resultsFile host) o.failFast))

/-- Runs of the same chosen classes. -/
theorem harmless_run {cs cs' : List TestClass} {o : Options} (runs : o.list = false)
    (hc : chosen classes o.pattern = .ok cs) (hc' : chosen classes' o.pattern = .ok cs')
    (hcs : cs.map TestClass.untimed = cs'.map TestClass.untimed) (host host' : Host) :
    Harmless o host host' (runClasses classes o host) (runClasses classes' o host') := by
  have outcome := outcome_congr same o host host'
  obtain ⟨n, hn⟩ : ∃ n, n = notifier (stage o.resultsFile host) o.failFast := ⟨_, rfl⟩
  obtain ⟨ends, hout, hhost⟩ := runClasses_untilSaving runs hc host hn
  obtain ⟨-, hout', hhost'⟩ := runClasses_untilSaving runs hc' host' hn
  rw [← log_select_congr same, ← running_congr hcs] at hout'
  obtain ⟨retimed, played⟩ := play_untilSaving hcs n o.resultsFile host host'
  let opening := (select classes o.pattern).2.map Output.event ++ [.event (running (loggedSuite cs))]
  have outputs := (Output.Alike.refl opening).append played
  have files := files_play_untilSaving (loggedSuite cs) n o.resultsFile host
  have files' := files_play_untilSaving (loggedSuite cs') n o.resultsFile host'
  cases hfile : o.resultsFile with
  | none =>
    have nothing (t : Tally) :
        (o.resultsFile.map fun _ => Happening.told 1 (.runFinished t)) = none := by
      rw [hfile, Option.map_none]
    simp only [nothing, Option.toList_none, Stage.play, List.append_nil] at hout hout' hhost hhost'
    have unsaved (path : Path) : ¬ Saves o (runClasses classes o host) path := by
      rintro ⟨-, file, -⟩
      simp [hfile] at file
    rw [← hhost] at files
    rw [← hhost'] at files'
    refine .of_alike outcome ?_ files files' unsaved
    rw [hout, hout']
    exact outputs
  | some path =>
    have last (t : Tally) : (o.resultsFile.map fun _ => Happening.told 1 (.runFinished t)) =
        some (.told 1 (.runFinished t)) := by
      rw [hfile, Option.map_some]
    simp only [last, Option.toList_some, Stage.play, List.append_nil] at hout hout' hhost hhost'
    obtain ⟨r, hr, rfl⟩ := (listeners_play_stage o.resultsFile host _).2 path hfile
    obtain ⟨r', hr', hpath⟩ := (listeners_play_stage o.resultsFile host' _).2 r.path hfile
    obtain ⟨results, results', e, e', saved, he, saving, he', saving'⟩ :=
      retimed.saving hr hr' (total_congr hcs n)
    rw [he] at hout
    rw [he'] at hout'
    rw [files, ← hhost] at saving
    rw [files', hpath, ← hhost'] at saving'
    exact .of_saving outcome ⟨runs, hfile, _, ends⟩ outputs hout hout' saved saving saving'

end Runs

/-- Neither a console that fails nor a file that cannot be written changes anything about a run, but for
what they would have shown and the event about the file. -/
theorem broken_outputs_harmless {classes classes' : List TestClass}
    (same : classes.map TestClass.untimed = classes'.map TestClass.untimed) (o : Options)
    (host host' : Host) :
    Harmless o host host' (runClasses classes o host) (runClasses classes' o host') := by
  have outcome := outcome_congr same o host host'
  have log := log_select_congr same o.pattern
  obtain ⟨e, hc, hc'⟩ | ⟨cs, cs', hc, hc', hcs⟩ := chosen_congr same o.pattern
  · have unsaved (path : Path) : ¬ Saves o (runClasses classes o host) path := by
      rintro ⟨-, -, t, ht⟩
      simp [runClasses_eq, hc] at ht
    refine .of_alike outcome ?_ ?_ ?_ unsaved <;> simp only [runClasses_eq, hc, hc', log]
    exact .refl _
  · cases hl : o.list with
    | true =>
      have unsaved (path : Path) : ¬ Saves o (runClasses classes o host) path := by
        rintro ⟨runs, -, -⟩
        simp [hl] at runs
      refine .of_alike outcome ?_ ?_ ?_ unsaved <;>
        simp only [runClasses_eq, hc, hc', log, hl, if_true]
      rw [listing_congr hcs]
      exact (Output.Alike.refl _).append
        (@Output.Alike.emit (stage o.resultsFile host) (stage o.resultsFile host') _ _ rfl)
    | false => exact harmless_run same hl hc hc' hcs host host'

/-- A failure stops both runs. The first one writes its results; the second one takes other times, has no
directory to write to, and its console fails. -/
theorem broken_outputs_harmless_deaf :
    let case (name : String) (ending : Ending) (takes : Duration) : TestCase :=
      ⟨name, ⟨ending, takes⟩, false⟩
    let classes (a b c : Duration) : List TestClass :=
      [⟨"A", [case "x" .passed a, ⟨"off", ⟨.passed, 0⟩, true⟩]⟩,
        ⟨"B", [case "x" (.panicked .other) b, case "y" .passed c]⟩]
    let path := Path.ofString "out/results.json"
    let o := { Options.none with resultsFile := some path, failFast := true }
    let host : Host := ⟨Files.empty.makeDirectory (Path.ofString "out"), true⟩
    let deaf : Host := ⟨.empty, false⟩
    let r := runClasses (classes 1000000 2 3) o host
    let r' := runClasses (classes 4 5000000 6) o deaf
    (classes 1000000 2 3).map TestClass.untimed = (classes 4 5000000 6).map TestClass.untimed ∧
      Harmless o host deaf r r' ∧ Saves o r path ∧ host.files.Writable path ∧
      ¬ deaf.files.Writable path ∧
      Results.Warned path (Output.events r.outputs) (Output.events r'.outputs) := by
  intro case classes path o host deaf r r'
  have same : (classes 1000000 2 3).map TestClass.untimed =
      (classes 4 5000000 6).map TestClass.untimed := rfl
  have harmless : Harmless o host deaf r r' := broken_outputs_harmless same o host deaf
  let t : Tally := ⟨2, 1, [⟨.test "B" "x" [], "test panicked"⟩], 1000002⟩
  have ends : r.outcome = .ok t := by decide +kernel
  have saves : Saves o r path := ⟨rfl, rfl, t, ends⟩
  have writable : host.files.Writable path := by decide +kernel
  have not_writable : ¬ deaf.files.Writable path := by decide +kernel
  exact ⟨same, harmless, saves, writable, not_writable,
    harmless.warned path saves writable not_writable⟩

end Harness
end Testbench
