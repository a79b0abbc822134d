import Testbench.Proofs.Notifier
/-!
# Operations on a notifier

Between firings a listener may be registered, at any time. What a notifier counts, whether it refuses the
next start and what each listener has been told so far can be read off the operations alone: `counted`,
`stopped` and `announced` do so, without a notifier.

Main definitions: `Notifier.operateAll` for operations one after another, `Notifier.recounted` for the
notifier that they ought to leave. Main statements: `operateAll_recounted` and `trueTo_operateAll`.
-/
namespace Testbench
variable {ι : Type}

namespace Firing

def isFinished : Firing → Bool
  | finished _ => true
  | _ => false

def isIgnored : Firing → Bool
  | ignored _ => true
  | _ => false

/-- The failure that is reported, if one is. -/
def failure? : Firing → Option Failure
  | failure f => some f
  | _ => none

/-- The time of a run that is finished, if one is. -/
def runTime? : Firing → Option Duration
  | runFinished runTime => some runTime
  | _ => none

end Firing

namespace Notifier

/-! ## What firings amount to -/

/-- Whether a stop is requested after some firings. -/
def stopped (failFast : Bool) (fs : List Firing) : Bool :=
  fs.contains .stop || (failFast && fs.any (·.failure?.isSome))

/-- The tally after some firings. -/
def counted (fs : List Firing) : Tally where
  runCount := fs.countP Firing.isFinished
  ignoreCount := fs.countP Firing.isIgnored
  failures := fs.filterMap Firing.failure?
  runTime := (fs.filterMap Firing.runTime?).getLastD 0

/-- What listeners are told of a firing that comes after others. -/
def notice? (failFast : Bool) (before : List Firing) : Firing → Option Callback
  | .runStarted d => some (.runStarted d)
  | .runFinished runTime => some (.runFinished { counted before with runTime })
  | .started d => if stopped failFast before then none else some (.started d)
  | .finished d => some (.finished d)
  | .failure f => some (.failure f)
  | .ignored d => some (.ignored d)
  | .stop => none

/-- What listeners are told of firings that come after others. -/
def notices (failFast : Bool) (before : List Firing) : List Firing → List Callback
  | [] => []
  | f :: fs => (notice? failFast before f).toList ++ notices failFast (before ++ [f]) fs

theorem stopped_iff {failFast : Bool} {fs : List Firing} :
    stopped failFast fs ↔ .stop ∈ fs ∨ failFast ∧ ∃ f, .failure f ∈ fs := by
  have failure_iff (x : Firing) : x.failure?.isSome ↔ ∃ f, x = .failure f := by
    cases x <;> simp [Firing.failure?]
  simp only [stopped, Bool.or_eq_true, List.contains_iff_mem, Bool.and_eq_true, List.any_eq_true,
    failure_iff]
  grind

theorem stopped_concat (failFast : Bool) (fs : List Firing) (f : Firing) :
    stopped failFast (fs ++ [f]) =
      (stopped failFast fs || (decide (f = .stop) || (failFast && f.failure?.isSome))) := by
  simp only [stopped, List.contains_append, List.any_append]
  cases failFast <;> grind

/-! ## Operations -/

/-- What may be asked of a notifier. -/
inductive Operation (ι : Type) where
  | register (listener : ι)
  | fire (f : Firing)

namespace Operation

def listener? : Operation ι → Option ι
  | register l => some l
  | fire _ => none

def firing? : Operation ι → Option Firing
  | register _ => none
  | fire f => some f

end Operation

/-- The listeners that are registered, in order. -/
def audience (ops : List (Operation ι)) : List ι := ops.filterMap Operation.listener?

/-- What is fired, in order. -/
def firings (ops : List (Operation ι)) : List Firing := ops.filterMap Operation.firing?

@[simp] theorem audience_nil : audience ([] : List (Operation ι)) = [] := rfl

@[simp] theorem audience_register (l : ι) (ops : List (Operation ι)) :
    audience (.register l :: ops) = l :: audience ops := rfl

@[simp] theorem audience_fire (f : Firing) (ops : List (Operation ι)) :
    audience (.fire f :: ops) = audience ops := rfl

@[simp] theorem audience_append (a b : List (Operation ι)) :
    audience (a ++ b) = audience a ++ audience b := List.filterMap_append

@[simp] theorem firings_nil : firings ([] : List (Operation ι)) = [] := rfl

@[simp] theorem firings_register (l : ι) (ops : List (Operation ι)) :
    firings (.register l :: ops) = firings ops := rfl

@[simp] theorem firings_fire (f : Firing) (ops : List (Operation ι)) :
    firings (.fire f :: ops) = f :: firings ops := rfl

@[simp] theorem firings_append (a b : List (Operation ι)) :
    firings (a ++ b) = firings a ++ firings b := List.filterMap_append

/-- What one operation does. -/
def operate (n : Notifier ι) : Operation ι → Effect ι
  | .register l => .idle (n.addListener l)
  | .fire f => n.fire f

/-- Operations one after another: the notifier after them, and all that happens. A refusal does not keep
the next one from being made. -/
def operateAll (n : Notifier ι) : List (Operation ι) → Notifier ι × List (Happening ι)
  | [] => (n, [])
  | op :: ops =>
    let e := n.operate op
    let (after, trace) := operateAll e.notifier ops
    (after, e.trace ++ trace)

/-- The notifier that operations on a fresh one ought to leave. -/
def recounted (failFast : Bool) (ops : List (Operation ι)) : Notifier ι :=
  ⟨audience ops, counted (firings ops), stopped failFast (firings ops), failFast⟩

theorem recounted_nil (failFast : Bool) :
    (recounted failFast [] : Notifier ι) = fresh failFast := by
  simp [recounted, fresh, counted, stopped, Tally.empty]

/-- Who is told of an operation that comes after others, and what: all listeners so far, in the order of
their registration. -/
def announcement (failFast : Bool) (before : List (Operation ι)) :
    Operation ι → List (ι × Callback)
  | .register _ => []
  | .fire f => (notice? failFast (firings before) f).toList.flatMap fun c =>
      (audience before).map (·, c)

/-- Who is told of operations that come after others, and what. -/
def announced (failFast : Bool) (before : List (Operation ι)) :
    List (Operation ι) → List (ι × Callback)
  | [] => []
  | op :: ops => announcement failFast before op ++ announced failFast (before ++ [op]) ops

theorem announced_append (failFast : Bool) (before a b : List (Operation ι)) :
    announced failFast before (a ++ b) =
      announced failFast before a ++ announced failFast (before ++ a) b := by
  induction a generalizing before with
  | nil => simp [announced]
  | cons op a ih => simp [announced, ih]

/-- A firing at a notifier that is as it ought to be. -/
theorem fire_recounted (failFast : Bool) (ops : List (Operation ι)) (f : Firing) :
    let e := (recounted failFast ops).fire f
    e.notifier = recounted failFast (ops ++ [.fire f]) ∧
      Happening.heard e.trace = announcement failFast ops (.fire f) := by
  have stop := stopped_concat failFast (firings ops) f
  cases f with
  | started d =>
    cases hs : stopped failFast (firings ops) <;>
      simp_all [recounted, fire, announcement, notice?, counted, Firing.isFinished, Firing.isIgnored,
        Firing.failure?, Firing.runTime?]
  | _ =>
    simp_all [recounted, fire, withTally, announcement, notice?, counted, Firing.isFinished,
      Firing.isIgnored, Firing.failure?, Firing.runTime?]

/-- An operation on a notifier that is as it ought to be leaves it so, and tells whom it ought to tell. -/
theorem operate_recounted (failFast : Bool) (ops : List (Operation ι)) (op : Operation ι) :
    let e := (recounted failFast ops).operate op
    e.notifier = recounted failFast (ops ++ [op]) ∧
      Happening.heard e.trace = announcement failFast ops op := by
  cases op with
  | register l => simp [operate, Effect.idle, recounted, addListener, announcement]
  | fire f =>
    obtain ⟨hn, hh⟩ := fire_recounted failFast ops f
    exact ⟨hn, hh⟩

/-- Operations on a notifier that is as it ought to be. -/
theorem operateAll_recounted (failFast : Bool) (before ops : List (Operation ι)) :
    let x := (recounted failFast before).operateAll ops
    x.1 = recounted failFast (before ++ ops) ∧
      Happening.heard x.2 = announced failFast before ops := by
  induction ops generalizing before with
  | nil => simp [operateAll, announced]
  | cons op ops ih =>
    obtain ⟨hn, hh⟩ := operate_recounted failFast before op
    obtain ⟨hn', hh'⟩ := ih (before ++ [op])
    simp only [operateAll, announced, Happening.heard_append, hn, hh, hn', hh', List.append_assoc,
      List.cons_append, List.nil_append, and_self]

/-! ## One listener -/

/-- What one listener is told. -/
def toldOnly [DecidableEq ι] (l : ι) (told : List (ι × Callback)) : List Callback :=
  told.filterMap fun x => if x.1 = l then some x.2 else none

section OneListener
variable [DecidableEq ι]

@[simp] theorem toldOnly_nil (l : ι) : toldOnly l [] = [] := rfl

@[simp] theorem toldOnly_append (l : ι) (a b : List (ι × Callback)) :
    toldOnly l (a ++ b) = toldOnly l a ++ toldOnly l b := List.filterMap_append

theorem toldOnly_map (l : ι) (c : Callback) (listeners : List ι) :
    toldOnly l (listeners.map (·, c)) = List.replicate (listeners.count l) c := by
  induction listeners with
  | nil => rfl
  | cons l' ls ih =>
    rw [List.count_cons, List.map_cons, toldOnly, List.filterMap_cons, ← toldOnly, ih]
    by_cases h : l' = l <;> simp [h, List.replicate_succ]

/-- A listener that is not registered again is told of everything as often as it was registered. -/
theorem toldOnly_announced (failFast : Bool) (before : List (Operation ι)) {l : ι}
    {ops : List (Operation ι)} (unregistered : l ∉ audience ops) :
    toldOnly l (announced failFast before ops) =
      (notices failFast (firings before) (firings ops)).flatMap
        fun c => List.replicate ((audience before).count l) c := by
  induction ops generalizing before with
  | nil => rfl
  | cons op ops ih =>
    cases op with
    | register l' =>
      rw [audience_register, List.mem_cons, not_or] at unregistered
      obtain ⟨hne, hrest⟩ := unregistered
      have rest := ih (before ++ [.register l']) hrest
      have once : List.count l [l'] = 0 := List.count_eq_zero.2 (by simpa using hne)
      simpa [announced, announcement, List.count_append, once] using rest
    | fire f =>
      have rest := ih (before ++ [.fire f]) unregistered
      cases hc : notice? failFast (firings before) f <;>
        simp_all [announced, announcement, notices, toldOnly_map]

end OneListener

/-! ## The history decides -/

/-- Once a stop is requested, it stays so, and nobody is told that a test starts. -/
theorem operate_of_stopped {n : Notifier ι} (h : n.stopRequested) (op : Operation ι) :
    (n.operate op).notifier.stopRequested ∧
      ∀ x ∈ Happening.heard (n.operate op).trace, ∀ d, x.2 ≠ .started d := by
  cases op with
  | register l => exact ⟨h, fun x hx => absurd hx List.not_mem_nil⟩
  | fire f => cases f <;> simp [operate, fire, withTally, h]

theorem not_started_of_stopped {n : Notifier ι} (h : n.stopRequested) (ops : List (Operation ι)) :
    ∀ x ∈ Happening.heard (n.operateAll ops).2, ∀ d, x.2 ≠ .started d := by
  induction ops generalizing n with
  | nil => exact fun x hx => absurd hx List.not_mem_nil
  | cons op ops ih =>
    obtain ⟨still, silent⟩ := operate_of_stopped h op
    intro x hx
    rw [operateAll, Happening.heard_append] at hx
    exact (List.mem_append.1 hx).elim (silent x) (ih still x)

/-- What a notifier, and what was told to its listeners, have to do with the operations on it. -/
structure TrueTo [DecidableEq ι] (failFast : Bool) (ops : List (Operation ι)) (n : Notifier ι)
    (told : List (ι × Callback)) : Prop where
  stop : n.stopRequested ↔ .stop ∈ firings ops ∨ failFast ∧ ∃ f, .failure f ∈ firings ops
  refusal (d : Description) : (n.fire (.started d)).outcome =
    if n.stopRequested then .error .stoppedByUser else .ok ()
  untouched (d : Description) : n.stopRequested →
    (n.fire (.started d)).notifier = n ∧ Happening.heard (n.fire (.started d)).trace = []
  silence : n.stopRequested → ∀ later d,
    ∀ x ∈ Happening.heard (n.operateAll later).2, x.2 ≠ .started d
  runCount : n.tally.runCount = (firings ops).countP Firing.isFinished
  ignoreCount : n.tally.ignoreCount = (firings ops).countP Firing.isIgnored
  failures : n.tally.failures = (firings ops).filterMap Firing.failure?
  runTime : n.tally.runTime = ((firings ops).filterMap Firing.runTime?).getLastD 0
  everyone : told = announced failFast [] ops
  one (before : List (Operation ι)) (l : ι) (after : List (Operation ι)) :
    ops = before ++ .register l :: after → l ∉ audience before → l ∉ audience after →
      toldOnly l told = notices failFast (firings before) (firings after)

/-- Whatever operations are made on a fresh notifier, in whatever order. -/
theorem trueTo_operateAll [DecidableEq ι] (failFast : Bool) (ops : List (Operation ι)) :
    let x := (fresh failFast).operateAll ops
    TrueTo failFast ops x.1 (Happening.heard x.2) := by
  intro x
  obtain ⟨hn, hh⟩ := operateAll_recounted failFast ([] : List (Operation ι)) ops
  rw [recounted_nil] at hn hh
  rw [hn, hh, List.nil_append]
  constructor
  case stop => exact stopped_iff
  case refusal =>
    intro d
    rw [fire]
    split <;> rfl
  case untouched =>
    intro d h
    rw [fire, if_pos h]
    exact ⟨rfl, rfl⟩
  case silence => exact fun h later d x hx => not_started_of_stopped h later x hx d
  case runCount => rfl
  case ignoreCount => rfl
  case failures => rfl
  case runTime => rfl
  case everyone => rfl
  case one =>
    rintro before l after rfl hbefore hafter
    -- The listener is told nothing of what came before it, and of what comes after it once each.
    have earlier : toldOnly l (announced failFast [] before) = [] := by
      rw [toldOnly_announced failFast [] hbefore]
      exact List.flatMap_eq_nil_iff.2 fun _ _ => rfl
    have later := toldOnly_announced failFast (before ++ [.register l]) hafter
    have once : (audience (before ++ [.register l])).count l = 1 := by
      simp [List.count_eq_zero.2 hbefore]
    rw [once] at later
    rw [announced_append, announced, toldOnly_append, List.nil_append, earlier]
    simpa [announcement] using later

/-- The second listener comes after the failure that stops the run, and never hears of a start. -/
example :
    let d : Description := .test "A" "x" []
    let ops : List (Operation Nat) := [.register 0, .fire (.started d), .fire (.failure ⟨d, "no"⟩),
      .register 1, .fire (.started d), .fire (.finished d), .fire (.ignored d)]
    toldOnly 1 (Happening.heard ((fresh true).operateAll ops).2) = [.finished d, .ignored d] := by
  decide

end Notifier
end Testbench
