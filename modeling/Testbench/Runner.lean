import Testbench.Filter
import Testbench.Notifier
import Testbench.TestClass
/-!
# Runners

A runner is a tree: the runner of a test class, a suite that runs its children in order, a runner that
reports the start and the end of the runner inside it, or a runner of some other kind `β`. A kind says
how such a runner is described and filtered, and what it does when it runs, as a script that fires
events and may look at the answers.

Main definitions: `Runner.describe`, `Runner.filter`, `Runner.run`.
-/
namespace Testbench

/-- What a script sees after it fired: whether that was refused, the tally and the stop flag. -/
structure Answer where
  refused : Bool
  tally : Tally
  stopRequested : Bool
  deriving DecidableEq, Repr

/-- What a runner of some kind does when it runs, and what it is afterwards. -/
inductive Script (β : Type) where
  | done (outcome : Except Error Unit) (after : β)
  | fire (firing : Firing) (next : Answer → Script β)
  | wait (time : Duration) (next : Script β)

class RunnerKind (β : Type) where
  describe : β → Description
  /-- How it is filtered, if it can be. -/
  filter? : β → Option (Filter → Except Error Unit × β)
  script : β → Script β

inductive Runner (β : Type) where
  | ofClass (c : TestClass)
  | suite (name : String) (children : List (Runner β))
  | logged (inner : Runner β)
  | other (b : β)

namespace Runner
variable {β ι : Type}

/-- What holds of a suite may be concluded from its children. -/
@[elab_as_elim, induction_eliminator]
theorem induct {motive : Runner β → Prop} (ofClass : ∀ c, motive (ofClass c))
    (suite : ∀ name children, (∀ r ∈ children, motive r) → motive (suite name children))
    (logged : ∀ inner, motive inner → motive (logged inner)) (other : ∀ b, motive (other b)) :
    ∀ r, motive r
  | .ofClass c => ofClass c
  | .suite name children => suite name children fun r _ => induct ofClass suite logged other r
  | .logged inner => logged inner (induct ofClass suite logged other inner)
  | .other b => other b

/-- The runner of a class, which must have a case. -/
def forClass (c : TestClass) : Except Error (Runner β) :=
  if c.cases.isEmpty then .error (.initialization c.name "no runnable methods")
  else .ok (.ofClass c)

/-- The number of children of a suite. -/
def size? : Runner β → Option Nat
  | suite _ children => some children.length
  | _ => none

/-! ## Descriptions -/

mutual

def describe [RunnerKind β] : Runner β → Description
  | ofClass c => c.describe
  | suite name children => .suite name (describeAll children)
  | logged inner => describe inner
  | other b => RunnerKind.describe b

def describeAll [RunnerKind β] : List (Runner β) → List Description
  | [] => []
  | r :: rs => describe r :: describeAll rs

end

theorem describeAll_eq_map [RunnerKind β] (rs : List (Runner β)) :
    describeAll rs = rs.map describe := by
  induction rs with
  | nil => rfl
  | cons r rs ih => simp [describeAll, ih]

def testCount [RunnerKind β] (r : Runner β) : Nat := r.describe.testCount

/-! ## Filtering -/

def isFilterable [RunnerKind β] : Runner β → Bool
  | other b => (RunnerKind.filter? b).isSome
  | _ => true

/-- How filtering ended, what the runner became, and the events of suites on the way. -/
structure Filtered (β : Type) where
  outcome : Except Error Unit
  runner : Runner β
  log : List Log.Event

/-- The children that stay, and the error that cut the filtering short. -/
structure Sifted (β : Type) where
  kept : List (Runner β)
  aborted : Option Error
  log : List Log.Event

/-- The event that reports how many children of a suite stay. -/
def sifting (name : String) (kept : Nat) (f : Filter) : Log.Event :=
  ⟨.debug, "suitelog::suite", some "suite_filtered",
    [("suite", name), ("kept", toString kept), ("filter", f.describe)]⟩

/-- The outcome of a filter that leaves `remaining`. -/
def remains {α : Type} (f : Filter) (remaining : List α) : Except Error Unit :=
  if remaining.isEmpty then .error (.noTestsRemain f.describe) else .ok ()

/-- The cases of a class that a filter keeps. -/
def keptCases (f : Filter) (c : TestClass) : List TestCase :=
  c.cases.filter fun t => f.shouldRun (c.describeCase t)

mutual

/-- A class keeps its selected cases, a suite its selected children; both fail if nothing remains.
A runner that cannot be filtered stays as it is. -/
def filter [RunnerKind β] (f : Filter) : Runner β → Filtered β
  | ofClass c =>
    let cases := keptCases f c
    ⟨remains f cases, ofClass { c with cases }, []⟩
  | suite name children =>
    let s := sift f children
    match s.aborted with
    | some e => ⟨.error e, suite name s.kept, s.log⟩
    | none => ⟨remains f s.kept, suite name s.kept, s.log ++ [sifting name s.kept.length f]⟩
  | logged inner =>
    let x := filter f inner
    ⟨x.outcome, logged x.runner, x.log⟩
  | other b =>
    match RunnerKind.filter? b with
    | none => ⟨.ok (), other b, []⟩
    | some apply =>
      let (outcome, after) := apply f
      ⟨outcome, other after, []⟩

/-- Children are filtered in order. One that is rejected outright or has no tests left is dropped;
any other error keeps the failing child and all after it, and ends the filtering. -/
def sift [RunnerKind β] (f : Filter) : List (Runner β) → Sifted β
  | [] => ⟨[], none, []⟩
  | r :: rs =>
    if f.shouldRun (describe r) then
      let x := filter f r
      match x.outcome with
      | .ok () =>
        let s := sift f rs
        ⟨x.runner :: s.kept, s.aborted, x.log ++ s.log⟩
      | .error (.noTestsRemain _) =>
        let s := sift f rs
        ⟨s.kept, s.aborted, x.log ++ s.log⟩
      | .error e => ⟨x.runner :: rs, some e, x.log⟩
    else sift f rs

end

/-! ## Running -/

/-- The event that reports how the body of a case ended. -/
def caseDone (d : Description) (body : Body) : Log.Event :=
  ⟨.trace, "suitelog::class_runner", some "case_done",
    [("test", d.displayName), ("ok", toString body.ending.failure?.isNone),
      ("elapsed_ms", toString body.takes.millis)]⟩

/-- The body of a case runs: time passes and the end is logged. -/
def runBody (d : Description) (body : Body) (n : Notifier ι) : Effect ι :=
  ⟨.ok (), n, [.passed body.takes, .logged (caseDone d body)]⟩

/-- A failure is fired if the body of a case did not pass. -/
def reportFailure (d : Description) (body : Body) (n : Notifier ι) : Effect ι :=
  match body.ending.failure? with
  | none => .idle n
  | some message => n.fire (.failure ⟨d, message⟩)

/-- An ignored case is reported; any other is started, run, judged and finished. -/
def runCase (c : TestClass) (t : TestCase) (n : Notifier ι) : Effect ι :=
  let d := c.describeCase t
  if t.ignored then n.fire (.ignored d)
  else
    (n.fire (.started d)).andThen fun n =>
    (runBody d t.body n).andThen fun n =>
    (reportFailure d t.body n).andThen fun n =>
    n.fire (.finished d)

/-- Cases run in order until a start is refused. -/
def runCases (c : TestClass) : List TestCase → Notifier ι → Effect ι
  | [], n => .idle n
  | t :: ts, n => (runCase c t n).andThen (runCases c ts)

/-- The answer that a script gets for an effect. -/
def answer (e : Effect ι) : Answer :=
  ⟨!e.outcome.isOk, e.notifier.tally, e.notifier.stopRequested⟩

/-- A script runs against a notifier; only the script itself decides what a refusal means to it. -/
def play : Script β → Notifier ι → β × Effect ι
  | .done outcome after, n => (after, ⟨outcome, n, []⟩)
  | .fire firing next, n =>
    let e := n.fire firing
    let (after, e') := play (next (answer e)) e.notifier
    (after, ⟨e'.outcome, e'.notifier, e.trace ++ e'.trace⟩)
  | .wait time next, n =>
    let (after, e) := play next n
    (after, { e with trace := .passed time :: e.trace })

/-- The calls around an effect: the second one only if it ends well. Both carry what was known of the
runner before it ran. -/
def bracketed (d : Description) (e : Effect ι) : List (Happening ι) :=
  let closing :=
    match e.outcome with
    | .ok () => [.suite (.finished d d.testCount (Happening.duration e.trace).millis)]
    | .error _ => []
  .suite (.started d d.testCount) :: e.trace ++ closing

theorem bracketed_of_ok (d : Description) {e : Effect ι} (h : e.outcome = .ok ()) :
    bracketed d e = .suite (.started d d.testCount) :: (e.trace ++
      [.suite (.finished d d.testCount (Happening.duration e.trace).millis)]) := by
  simp only [bracketed, h, List.cons_append]

theorem bracketed_of_error (d : Description) {e : Effect ι} {err : Error}
    (h : e.outcome = .error err) :
    bracketed d e = .suite (.started d d.testCount) :: e.trace := by
  simp only [bracketed, h, List.append_nil]

mutual

/-- A suite stops at the first child that fails; the children after it stay as they are. -/
def run [RunnerKind β] : Runner β → Notifier ι → Runner β × Effect ι
  | ofClass c, n => (ofClass c, runCases c c.cases n)
  | suite name children, n =>
    let (after, e) := runAll children n
    (suite name after, e)
  | logged inner, n =>
    let (after, e) := run inner n
    (logged after, { e with trace := bracketed (describe inner) e })
  | other b, n =>
    let (after, e) := play (RunnerKind.script b) n
    (other after, e)

def runAll [RunnerKind β] : List (Runner β) → Notifier ι → List (Runner β) × Effect ι
  | [], n => ([], .idle n)
  | r :: rs, n =>
    let (after, e) := run r n
    match e.outcome with
    | .error _ => (after :: rs, e)
    | .ok () =>
      let (others, e') := runAll rs e.notifier
      (after :: others, ⟨e'.outcome, e'.notifier, e.trace ++ e'.trace⟩)

end

theorem run_suite [RunnerKind β] (name : String) (children : List (Runner β)) (n : Notifier ι) :
    run (suite name children) n = (suite name (runAll children n).1, (runAll children n).2) := rfl

theorem run_logged [RunnerKind β] (inner : Runner β) (n : Notifier ι) :
    run (logged inner) n = (logged (run inner n).1,
      { (run inner n).2 with trace := bracketed (describe inner) (run inner n).2 }) := rfl

theorem runAll_cons_ok [RunnerKind β] {r : Runner β} {n : Notifier ι}
    (h : (run r n).2.outcome = .ok ()) (rs : List (Runner β)) :
    runAll (r :: rs) n =
      ((run r n).1 :: (runAll rs (run r n).2.notifier).1,
        (run r n).2.andThen fun n => (runAll rs n).2) := by
  rw [runAll]
  generalize run r n = x at h ⊢
  simp only [Effect.andThen, h]

theorem runAll_cons_error [RunnerKind β] {r : Runner β} {n : Notifier ι} {e : Error}
    (h : (run r n).2.outcome = .error e) (rs : List (Runner β)) :
    runAll (r :: rs) n = ((run r n).1 :: rs, (run r n).2) := by
  rw [runAll]
  generalize run r n = x at h ⊢
  simp only [h]

/-- What a list of runners does, whether the first one ends well or not. -/
theorem runAll_cons [RunnerKind β] (r : Runner β) (rs : List (Runner β)) (n : Notifier ι) :
    (runAll (r :: rs) n).2 = (run r n).2.andThen fun n => (runAll rs n).2 := by
  rcases h : (run r n).2.outcome with e | _
  · rw [runAll_cons_error h, Effect.andThen_of_error h]
  · rw [runAll_cons_ok h]

end Runner
end Testbench
