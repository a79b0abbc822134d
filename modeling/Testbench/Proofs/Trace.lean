import Testbench.Notifier
/-!
# Reading traces

A trace mixes what listeners are told with calls to the logger of suites, events and the passing of
time. `Happening.heard` and `Happening.calls` pick out the first two, `Happening.quiet` drops the calls.

Main definition: `Effect.Annotated`, for an effect that differs from another one only by calls to the
logger of suites that were put into its trace.
-/
namespace Testbench
variable {ι : Type}

namespace Happening

/-- The callbacks in a trace, each with the listener that is told. -/
def heard (trace : List (Happening ι)) : List (ι × Callback) :=
  trace.filterMap fun
    | told listener callback => some (listener, callback)
    | _ => none

/-- The calls to the logger of suites in a trace. -/
def calls (trace : List (Happening ι)) : List SuiteCall :=
  trace.filterMap fun
    | suite call => some call
    | _ => none

def isCall : Happening ι → Bool
  | suite _ => true
  | _ => false

/-- A trace without the calls to the logger of suites. -/
def quiet (trace : List (Happening ι)) : List (Happening ι) := trace.filter (!·.isCall)

@[simp] theorem heard_nil : heard ([] : List (Happening ι)) = [] := rfl

@[simp] theorem calls_nil : calls ([] : List (Happening ι)) = [] := rfl

@[simp] theorem quiet_nil : quiet ([] : List (Happening ι)) = [] := rfl

@[simp] theorem heard_append (a b : List (Happening ι)) : heard (a ++ b) = heard a ++ heard b :=
  List.filterMap_append

@[simp] theorem calls_append (a b : List (Happening ι)) : calls (a ++ b) = calls a ++ calls b :=
  List.filterMap_append

@[simp] theorem quiet_append (a b : List (Happening ι)) : quiet (a ++ b) = quiet a ++ quiet b :=
  List.filter_append ..

@[simp] theorem heard_suite (c : SuiteCall) (t : List (Happening ι)) :
    heard (suite c :: t) = heard t := rfl

@[simp] theorem heard_logged (e : Log.Event) (t : List (Happening ι)) :
    heard (logged e :: t) = heard t := rfl

@[simp] theorem heard_passed (time : Duration) (t : List (Happening ι)) :
    heard (passed time :: t) = heard t := rfl

@[simp] theorem calls_suite (c : SuiteCall) (t : List (Happening ι)) :
    calls (suite c :: t) = c :: calls t := rfl

@[simp] theorem quiet_suite (c : SuiteCall) (t : List (Happening ι)) :
    quiet (suite c :: t) = quiet t := rfl

/-- Callbacks are not among what `quiet` drops. -/
theorem heard_quiet (t : List (Happening ι)) : heard (quiet t) = heard t := by
  induction t with
  | nil => rfl
  | cons h t ih => cases h <;> simp_all [quiet, heard, isCall]

/-- Nothing is dropped from a trace without calls. -/
theorem quiet_of_calls {t : List (Happening ι)} (h : calls t = []) : quiet t = t := by
  induction t with
  | nil => rfl
  | cons x t ih => cases x <;> simp_all [quiet, calls, isCall]

/-! ## Traces with calls put in -/

/-- The second trace is the first one with calls to the logger of suites put in. -/
inductive Annotated : List (Happening ι) → List (Happening ι) → Prop
  | nil : Annotated [] []
  | same (h : Happening ι) {a b} : Annotated a b → Annotated (h :: a) (h :: b)
  | call (c : SuiteCall) {a b} : Annotated a b → Annotated a (suite c :: b)

theorem Annotated.refl (t : List (Happening ι)) : Annotated t t := by
  induction t with
  | nil => exact .nil
  | cons h t ih => exact .same h ih

theorem Annotated.append {a b c d : List (Happening ι)} (h : Annotated a b) (g : Annotated c d) :
    Annotated (a ++ c) (b ++ d) := by
  induction h with
  | nil => exact g
  | same x _ ih => exact .same x ih
  | call c _ ih => exact .call c ih

/-- Listeners cannot tell the two traces apart. -/
theorem Annotated.heard_eq {a b : List (Happening ι)} (h : Annotated a b) : heard a = heard b := by
  induction h with
  | nil => rfl
  | same x _ ih => cases x <;> simp_all [heard]
  | call c _ ih => rw [heard_suite, ih]

end Happening

/-- The second effect is the first one with calls to the logger of suites put into its trace. -/
structure Effect.Annotated (e e' : Effect ι) : Prop where
  outcome : e'.outcome = e.outcome
  notifier : e'.notifier = e.notifier
  trace : Happening.Annotated e.trace e'.trace

theorem Effect.Annotated.refl (e : Effect ι) : e.Annotated e := ⟨rfl, rfl, .refl _⟩

/-- An effect without the calls to the logger of suites in its trace. -/
def Effect.quiet (e : Effect ι) : Effect ι := { e with trace := Happening.quiet e.trace }

theorem Effect.quiet_of_calls {e : Effect ι} (h : Happening.calls e.trace = []) : e.quiet = e := by
  rw [quiet, Happening.quiet_of_calls h]

theorem Effect.quiet_andThen (e : Effect ι) (f : Notifier ι → Effect ι) :
    (e.andThen f).quiet = e.quiet.andThen fun n => (f n).quiet := by
  rcases h : e.outcome with err | _
  · have hq : e.quiet.outcome = .error err := h
    rw [andThen_of_error h, andThen_of_error hq]
  · have hq : e.quiet.outcome = .ok () := h
    rw [andThen_of_ok h, andThen_of_ok hq]
    simp [quiet]

theorem Effect.calls_andThen {e : Effect ι} {f : Notifier ι → Effect ι}
    (h : Happening.calls e.trace = []) (hf : ∀ n, Happening.calls (f n).trace = []) :
    Happening.calls (e.andThen f).trace = [] := by
  rcases ho : e.outcome with err | _
  · rw [andThen_of_error ho, h]
  · rw [andThen_of_ok ho, Happening.calls_append, h, hf]
    rfl

/-! ## Firings do not call the logger of suites -/

theorem Notifier.calls_tell (n : Notifier ι) (c : Callback) : Happening.calls (n.tell c) = [] := by
  rw [tell, Happening.calls, List.filterMap_map]
  exact List.filterMap_eq_nil_iff.2 fun _ _ => rfl

@[simp] theorem Notifier.heard_tell (n : Notifier ι) (c : Callback) :
    Happening.heard (n.tell c) = n.listeners.map (·, c) := by
  rw [tell, Happening.heard, List.filterMap_map]
  exact congrFun List.filterMap_eq_map n.listeners

theorem Notifier.calls_fire (n : Notifier ι) (f : Firing) :
    Happening.calls (n.fire f).trace = [] := by
  cases f with
  | started d =>
    rw [Notifier.fire]
    split
    · rfl
    · exact n.calls_tell _
  | stop => rfl
  | _ => exact n.calls_tell _

end Testbench
