import Testbench.Proofs.Listeners.Console
import Testbench.Proofs.Listeners.Records
import Testbench.Proofs.Stage
/-!
# What each listener hears

Nothing that other listeners do reaches a listener: after a trace it is as it would be if it had been
told its own callbacks alone, wherever it stands and whatever the host is. After a history of firings these
are the callbacks that were passed on.

Main definitions: `Happening.toldTo`, `Stage.SoleWriter`. Main statements: `Stage.getElem?_play`,
`Notifier.toldTo_fireAll`; and for the end of a run `Stage.lines_play_fireAll` and
`Stage.readText_play_fireAll`.
-/
namespace Testbench

namespace Listener

/-- The listener after a callback, whatever the files are. -/
def after (l : Listener) (now : Duration) (c : Callback) : Listener :=
  match l with
  | console l => .console (l.hear now c).1
  | results l => .results (l.collect now c)
  | recorder label => .recorder label
  | silent => .silent

/-- The lines that a listener writes for a callback. -/
def lines (l : Listener) (now : Duration) (c : Callback) : List Console.Line :=
  match l with
  | console l => (l.hear now c).2
  | _ => []

theorem hear_fst (l : Listener) (now : Duration) (fs : Files) (c : Callback) :
    (l.hear now fs c).1 = l.after now c := by
  cases l with
  | results l => exact congrArg Listener.results (l.hear_fst now fs c)
  | _ => rfl

theorem lines_hear (l : Listener) (now : Duration) (fs : Files) (c : Callback) :
    Output.lines (l.hear now fs c).2.2 = l.lines now c := by
  cases l with
  | console l => exact Output.lines_map_line _
  | results l => exact Output.lines_map_event _
  | _ => rfl

/-- Only results listeners change files. -/
theorem files_hear {l : Listener} (h : ∀ r, l ≠ .results r) (now : Duration) (fs : Files)
    (c : Callback) : (l.hear now fs c).2.1 = fs := by
  cases l with
  | results r => exact absurd rfl (h r)
  | _ => rfl

/-- The listener after callbacks, each with the time at which it is heard. -/
def afterAll (l : Listener) (told : List (Duration × Callback)) : Listener :=
  told.foldl (fun l x => l.after x.1 x.2) l

@[simp] theorem afterAll_nil (l : Listener) : l.afterAll [] = l := rfl

theorem afterAll_console (l : Console.Listener) (told : List (Duration × Callback)) :
    (console l).afterAll told = .console (l.hearAll told) := by
  induction told generalizing l with
  | nil => rfl
  | cons x told ih => exact ih (l.hear x.1 x.2).1

theorem afterAll_results (l : Results.Listener) (told : List (Duration × Callback)) :
    (results l).afterAll told = .results (l.collectAll told) := by
  induction told generalizing l with
  | nil => rfl
  | cons x told ih => exact ih (l.collect x.1 x.2)

/-- What a console writes at the end of a run. -/
theorem lines_console_runFinished (c : Console.Listener) (told : List (Duration × Callback))
    (now : Duration) (t : Tally) :
    ((console c).afterAll told).lines now (.runFinished t) =
      Console.summary t.passedCount (c.hearAll (told ++ [(now, .runFinished t)])).failedTests
        ((c.hearAll told).runMillis now t) := by
  rw [afterAll_console, c.hearAll_concat]
  rfl

theorem lines_results (r : Results.Listener) (told : List (Duration × Callback)) (now : Duration)
    (c : Callback) : ((results r).afterAll told).lines now c = [] := by
  rw [afterAll_results]
  rfl

theorem after_eq_results {l : Listener} {now : Duration} {c : Callback} {r : Results.Listener}
    (h : l.after now c = .results r) : ∃ r', l = .results r' ∧ r'.path = r.path := by
  cases l with
  | results r' =>
    refine ⟨r', rfl, ?_⟩
    rw [← Listener.results.inj h, r'.path_collect]
  | _ => cases h

end Listener

/-! ## What a trace tells a listener -/

theorem Callback.toEach_cons (c : Callback) (i : Nat) (ids : List Nat) :
    c.toEach (i :: ids) = .told i c :: c.toEach ids := rfl

/-- What the listener at a position is told in a trace, and when. -/
def Happening.toldTo (i : Nat) (clock : Duration) :
    List (Happening Nat) → List (Duration × Callback)
  | [] => []
  | .told j c :: trace => (if j = i then [(clock, c)] else []) ++ toldTo i clock trace
  | .passed time :: trace => toldTo i (clock + time) trace
  | _ :: trace => toldTo i clock trace

namespace Happening

theorem toldTo_append (i : Nat) (clock : Duration) (a b : List (Happening Nat)) :
    toldTo i clock (a ++ b) = toldTo i clock a ++ toldTo i (clock + duration a) b := by
  induction a generalizing clock with
  | nil => rfl
  | cons h a ih =>
    cases h with
    | passed time => simp [toldTo, ih, duration, Happening.time, Nat.add_assoc]
    | _ => simp [toldTo, ih, duration, Happening.time]

theorem toldTo_map_logged (i : Nat) (clock : Duration) (events : List Log.Event) :
    toldTo i clock (events.map .logged) = [] := by
  induction events with
  | nil => rfl
  | cons e events ih => exact ih

theorem duration_map_logged (events : List Log.Event) :
    duration (events.map (.logged : Log.Event → Happening Nat)) = 0 := by
  induction events with
  | nil => rfl
  | cons e events ih => simpa [duration, Happening.time] using ih

theorem toldTo_toEach (i : Nat) (clock : Duration) (c : Callback) (ids : List Nat) :
    toldTo i clock (c.toEach ids) = List.replicate (ids.count i) (clock, c) := by
  induction ids with
  | nil => rfl
  | cons j ids ih =>
    rw [Callback.toEach_cons, toldTo, ih, List.count_cons]
    by_cases h : j = i <;> simp [h, List.replicate_succ]

end Happening

namespace Notifier

/-- Every listener that is registered once is told what is passed on, and when. -/
theorem toldTo_fireAll {n : Notifier Nat} (nodup : n.listeners.Nodup) {i : Nat}
    (registered : i ∈ n.listeners) (clock : Duration) (history : List (Duration × Firing)) :
    Happening.toldTo i clock (n.fireAll history).2 = n.told clock history := by
  induction history generalizing n clock with
  | nil => rfl
  | cons x history ih =>
    obtain ⟨time, f⟩ := x
    have same := n.listeners_fire f
    have rest := ih (same ▸ nodup) (same ▸ registered) (clock + time)
    rw [fireAll, Happening.toldTo, Happening.toldTo_append, told]
    obtain ⟨c, hc, htrace⟩ | ⟨hnone, events, htrace⟩ := n.trace_fire f
    · have once : n.listeners.count i = 1 := List.count_eq_one_of_mem nodup registered
      rw [htrace, Happening.toldTo_toEach, once, Scene.duration_toEach, hc, Nat.add_zero, rest]
      rfl
    · rw [htrace, Happening.toldTo_map_logged, Happening.duration_map_logged, hnone, Nat.add_zero,
        rest]
      rfl

theorem duration_fireAll (n : Notifier Nat) (history : List (Duration × Firing)) :
    Happening.duration (n.fireAll history).2 = duration history := by
  induction history generalizing n with
  | nil => rfl
  | cons x history ih =>
    obtain ⟨time, f⟩ := x
    have none_passes : Happening.duration (n.fire f).trace = 0 := by
      obtain ⟨c, -, htrace⟩ | ⟨-, events, htrace⟩ := n.trace_fire f
      · rw [htrace, Scene.duration_toEach]
      · rw [htrace, Happening.duration_map_logged]
    rw [fireAll, Happening.duration, Happening.duration_append, none_passes, Nat.zero_add, ih]
    simp [duration, Happening.time]

end Notifier

/-! ## Listeners on a stage -/

namespace Stage

theorem play_cons (s : Stage) (h : Happening Nat) (trace : List (Happening Nat)) :
    s.play (h :: trace) = (((s.perceive h).1.play trace).1,
      (s.perceive h).2 ++ ((s.perceive h).1.play trace).2) := rfl

theorem clock_perceive (s : Stage) (h : Happening Nat) :
    (s.perceive h).1.clock = s.clock + h.time := by
  cases h with
  | told i c =>
    simp only [perceive]
    split <;> rfl
  | _ => rfl

theorem clock_play (s : Stage) (trace : List (Happening Nat)) :
    (s.play trace).1.clock = s.clock + Happening.duration trace := by
  induction trace generalizing s with
  | nil => rfl
  | cons h trace ih =>
    rw [play_cons, ih, clock_perceive, Happening.duration, Nat.add_assoc]

theorem consoleWorks_perceive (s : Stage) (h : Happening Nat) :
    (s.perceive h).1.host.consoleWorks = s.host.consoleWorks := by
  cases h with
  | told i c =>
    simp only [perceive]
    split <;> rfl
  | _ => rfl

theorem consoleWorks_play (s : Stage) (trace : List (Happening Nat)) :
    (s.play trace).1.host.consoleWorks = s.host.consoleWorks := by
  induction trace generalizing s with
  | nil => rfl
  | cons h trace ih => rw [play_cons, ih, consoleWorks_perceive]

theorem perceive_told_of_none {s : Stage} {i : Nat} (h : s.listeners[i]? = none) (c : Callback) :
    s.perceive (.told i c) = (s, []) := by
  simp only [perceive, h]

/-- A listener that is told something changes itself and the files, and its outputs come out. -/
theorem perceive_told_of_some {s : Stage} {i : Nat} {l : Listener} (h : s.listeners[i]? = some l)
    (c : Callback) : s.perceive (.told i c) =
      ({ s.withFiles (l.hear s.clock s.host.files c).2.1 with
          listeners := s.listeners.set i (l.after s.clock c) },
        s.emit (l.hear s.clock s.host.files c).2.2) := by
  simp only [perceive, h, l.hear_fst]

theorem getElem?_perceive_told (s : Stage) (i j : Nat) (c : Callback) :
    (s.perceive (.told j c)).1.listeners[i]? =
      if j = i then (s.listeners[i]?).map (·.after s.clock c) else s.listeners[i]? := by
  cases hl : s.listeners[j]? with
  | none =>
    rw [perceive_told_of_none hl]
    split_ifs with h
    · rw [← h, hl]
      rfl
    · rfl
  | some l =>
    rw [perceive_told_of_some hl]
    split_ifs with h
    · have hlt : j < s.listeners.length := (List.getElem?_eq_some_iff.1 hl).1
      rw [← h, hl]
      exact List.getElem?_set_self hlt
    · exact List.getElem?_set_ne h

/-- A listener is as it would be if it had been told its own callbacks alone. -/
theorem getElem?_play (s : Stage) (i : Nat) (trace : List (Happening Nat)) :
    (s.play trace).1.listeners[i]? =
      (s.listeners[i]?).map (·.afterAll (Happening.toldTo i s.clock trace)) := by
  induction trace generalizing s with
  | nil => simp [play, Happening.toldTo]
  | cons h trace ih =>
    rw [play_cons, ih, clock_perceive]
    cases h with
    | told j c =>
      rw [getElem?_perceive_told, Happening.toldTo]
      split_ifs with hj
      · rw [Option.map_map]
        rfl
      · rfl
    | _ => rfl

/-! ## The end of a run -/

/-- Listeners that are told the same, each once, write their lines one after the other. -/
theorem lines_play_toEach {s : Stage} (works : s.host.consoleWorks = true) (c : Callback)
    {ids : List Nat} (nodup : ids.Nodup) :
    Output.lines (s.play (c.toEach ids)).2 =
      ids.flatMap fun i => (s.listeners[i]?).elim [] (·.lines s.clock c) := by
  induction ids generalizing s with
  | nil => rfl
  | cons i ids ih =>
    obtain ⟨hnot, hnodup⟩ := List.nodup_cons.1 nodup
    let s' := (s.perceive (.told i c)).1
    have first : Output.lines (s.perceive (.told i c)).2 =
        (s.listeners[i]?).elim [] (·.lines s.clock c) := by
      cases hl : s.listeners[i]? with
      | none =>
        rw [perceive_told_of_none hl]
        rfl
      | some l =>
        rw [perceive_told_of_some hl, emit_of_consoleWorks works]
        exact l.lines_hear s.clock s.host.files c
    have others : ∀ j ∈ ids, s'.listeners[j]? = s.listeners[j]? := by
      intro j hj
      have hne : i ≠ j := fun h => hnot (h ▸ hj)
      rw [getElem?_perceive_told, if_neg hne]
    have hclock : s'.clock = s.clock := s.clock_perceive (.told i c)
    have rest := ih (s := s') ((s.consoleWorks_perceive _).trans works) hnodup
    rw [Callback.toEach_cons, play_cons, Output.lines_append, first, rest, List.flatMap_cons, hclock]
    congr 1
    exact List.flatMap_congr fun j hj => by rw [others j hj]

/-- Only the listener at one position writes a file, and it can. -/
structure SoleWriter (s : Stage) (j : Nat) (path : Path) : Prop where
  alone : ∀ k r, s.listeners[k]? = some (.results r) → k = j ∧ r.path = path
  writable : s.host.files.Writable path

namespace SoleWriter
variable {s : Stage} {j : Nat} {path : Path}

theorem files_perceive (h : s.SoleWriter j path) {i : Nat} (hne : i ≠ j) (c : Callback) :
    (s.perceive (.told i c)).1.host.files = s.host.files := by
  cases hl : s.listeners[i]? with
  | none => rw [perceive_told_of_none hl]
  | some l =>
    rw [perceive_told_of_some hl]
    refine Listener.files_hear ?_ s.clock s.host.files c
    rintro r rfl
    exact hne (h.alone i r hl).1

theorem writable_perceive (h : s.SoleWriter j path) (e : Happening Nat) :
    (s.perceive e).1.host.files.Writable path := by
  cases e with
  | told i c =>
    by_cases hi : i = j
    · cases hl : s.listeners[i]? with
      | none =>
        rw [perceive_told_of_none hl]
        exact h.writable
      | some l =>
        rw [perceive_told_of_some hl]
        cases l with
        | results r =>
          obtain ⟨-, rfl⟩ := h.alone i r hl
          exact r.writable_hear h.writable s.clock c
        | _ => exact h.writable
    · rw [h.files_perceive hi]
      exact h.writable
  | _ => exact h.writable

theorem perceive (h : s.SoleWriter j path) (e : Happening Nat) :
    (s.perceive e).1.SoleWriter j path where
  alone := by
    cases e with
    | told i c =>
      intro k r hk
      rw [getElem?_perceive_told] at hk
      split_ifs at hk
      · obtain ⟨l, hl, hafter⟩ := Option.map_eq_some_iff.1 hk
        obtain ⟨r', rfl, hpath⟩ := Listener.after_eq_results hafter
        exact hpath ▸ h.alone k r' hl
      · exact h.alone k r hk
    | _ => exact h.alone
  writable := h.writable_perceive e

theorem play (h : s.SoleWriter j path) (trace : List (Happening Nat)) :
    (s.play trace).1.SoleWriter j path := by
  induction trace generalizing s with
  | nil => exact h
  | cons e trace ih => exact ih (h.perceive e)

theorem files_play_toEach (h : s.SoleWriter j path) (c : Callback) {ids : List Nat}
    (hnot : j ∉ ids) : (s.play (c.toEach ids)).1.host.files = s.host.files := by
  induction ids generalizing s with
  | nil => rfl
  | cons i ids ih =>
    obtain ⟨hne, hrest⟩ := not_or.1 (mt List.mem_cons.2 hnot)
    have rest := ih (h.perceive (.told i c)) hrest
    exact rest.trans (h.files_perceive (Ne.symm hne) c)

/-- When a run finishes, what a sole writer has collected is in its file. -/
theorem readText_play_toEach (h : s.SoleWriter j path) {r : Results.Listener}
    (hr : s.listeners[j]? = some (.results r)) (t : Tally) {ids : List Nat} (nodup : ids.Nodup)
    (told : j ∈ ids) :
    (s.play ((Callback.runFinished t).toEach ids)).1.host.files.readText path =
      .ok (r.collect s.clock (.runFinished t)).results.text := by
  obtain ⟨-, rfl⟩ := h.alone j r hr
  induction ids generalizing s with
  | nil => exact absurd told List.not_mem_nil
  | cons i ids ih =>
    obtain ⟨hnot, hnodup⟩ := List.nodup_cons.1 nodup
    let s' := (s.perceive (.told i (.runFinished t))).1
    rw [Callback.toEach_cons, play_cons]
    rcases List.mem_cons.1 told with rfl | hlater
    · have hfiles : s'.host.files = (r.hear s.clock s.host.files (.runFinished t)).2.1 := by
        simp only [s', perceive_told_of_some hr]
        rfl
      rw [(h.perceive _).files_play_toEach _ hnot, hfiles]
      exact Results.readText_save (Results.Listener.save_hear h.writable s.clock t)
    · have hne : i ≠ j := fun he => hnot (he ▸ hlater)
      have hr' : s'.listeners[j]? = some (.results r) := by
        rw [getElem?_perceive_told, if_neg hne, hr]
      have hclock : s'.clock = s.clock := s.clock_perceive (.told i (.runFinished t))
      rw [← hclock]
      exact ih hr' hnodup hlater (h.perceive _)

end SoleWriter

/-! ## Histories of firings -/

section Histories
variable {s : Stage} {n : Notifier Nat} (nodup : n.listeners.Nodup)
include nodup

/-- After a history of firings every listener has heard what was passed on. -/
theorem getElem?_play_fireAll {i : Nat} (registered : i ∈ n.listeners)
    (history : List (Duration × Firing)) :
    (s.play (n.fireAll history).2).1.listeners[i]? =
      (s.listeners[i]?).map (·.afterAll (n.told s.clock history)) := by
  rw [getElem?_play, Notifier.toldTo_fireAll nodup registered]

/-- At the end of a run the listeners write their lines one after the other. -/
theorem lines_play_fireAll (works : s.host.consoleWorks = true)
    (history : List (Duration × Firing)) (time runTime : Duration) :
    let t : Tally := { (n.fireAll history).1.tally with runTime }
    let now := s.clock + Notifier.duration history + time
    Output.lines (s.play (n.fireAll (history ++ [(time, .runFinished runTime)])).2).2 =
      Output.lines (s.play (n.fireAll history).2).2 ++ n.listeners.flatMap fun i =>
        (s.listeners[i]?).elim [] fun l =>
          (l.afterAll (n.told s.clock history)).lines now (.runFinished t) := by
  intro t now
  let s' : Stage := { (s.play (n.fireAll history).2).1 with clock := now }
  have works' : s'.host.consoleWorks = true := (s.consoleWorks_play _).trans works
  have hwait : { (s.play (n.fireAll history).2).1 with
      clock := (s.play (n.fireAll history).2).1.clock + time } = s' := by
    rw [clock_play, n.duration_fireAll]
  rw [n.fireAll_concat_runFinished, play_append, play_passed, hwait, Output.lines_append,
    lines_play_toEach works' _ nodup]
  congr 1
  refine List.flatMap_congr fun i hi => ?_
  have hlistener : s'.listeners[i]? = (s.listeners[i]?).map (·.afterAll (n.told s.clock history)) :=
    getElem?_play_fireAll nodup hi history
  rw [hlistener]
  cases s.listeners[i]? <;> rfl

/-- At the end of a run what a sole writer has collected is in its file. -/
theorem readText_play_fireAll {j : Nat} {path : Path} (sole : s.SoleWriter j path)
    {r : Results.Listener} (hr : s.listeners[j]? = some (.results r)) (registered : j ∈ n.listeners)
    (history : List (Duration × Firing)) (time runTime : Duration) :
    let whole := history ++ [(time, .runFinished runTime)]
    (s.play (n.fireAll whole).2).1.host.files.readText path =
      .ok (r.collectAll (n.told s.clock whole)).results.text := by
  intro whole
  let s' : Stage := { (s.play (n.fireAll history).2).1 with
    clock := (s.play (n.fireAll history).2).1.clock + time }
  have sole' : s'.SoleWriter j path := ⟨(sole.play _).alone, (sole.play _).writable⟩
  have hlistener : s'.listeners[j]? = some (.results (r.collectAll (n.told s.clock history))) := by
    have heard := getElem?_play_fireAll (s := s) nodup registered history
    rwa [hr, Option.map_some, Listener.afterAll_results] at heard
  have written := sole'.readText_play_toEach hlistener
    { (n.fireAll history).1.tally with runTime } nodup registered
  simp only [whole, n.fireAll_concat_runFinished, n.told_concat_runFinished, r.collectAll_concat,
    play_append, play_passed]
  exact written

end Histories

end Stage

/-- The results listener of a run with a results file writes alone. -/
theorem Harness.soleWriter_watched (c : Console.Listener) {r : Results.Listener} {host : Host}
    (writable : host.files.Writable r.path) (clock : Duration) :
    (watched c r host clock).SoleWriter 1 r.path where
  alone := by
    intro k r' hk
    rcases k with _ | _ | k
    · cases hk
    · cases hk
      exact ⟨rfl, rfl⟩
    · cases hk
  writable := writable

end Testbench
