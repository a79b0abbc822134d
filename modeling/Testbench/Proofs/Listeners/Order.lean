import Testbench.Proofs.Listeners.Console
import Testbench.Proofs.Listeners.Waiting
/-!
# The order in which failures are stored

Failures that wait may be stored in any order, and in another one after every callback. All the same the end
of a run leaves the same failed tests, the same lines and the same records.

Main definitions: `Store`, `Store.Reaches`. Main statement: `orphans_in_order`.
-/
namespace Testbench

/-! ## Shuffling at any time -/

/-- Where the states of a listener store the values that wait, and the name under which each does. -/
structure Store (σ α : Type) where
  stored : σ → Pending α
  storing : Pending α → σ → σ
  name : α → String
  stored_storing : ∀ p s, stored (storing p s) = p
  storing_stored : ∀ s, storing (stored s) s = s
  storing_storing : ∀ p q s, storing p (storing q s) = storing p s

namespace Store
variable {σ α : Type} {S : Store σ α} {s s' s'' : σ}

/-- The same state with its values stored in another order. -/
def Shuffles (S : Store σ α) (s s' : σ) : Prop :=
  ∃ order, order.Perm (S.stored s) ∧ s' = S.storing order s

theorem Shuffles.refl (S : Store σ α) (s : σ) : S.Shuffles s s :=
  ⟨S.stored s, .refl _, (S.storing_stored s).symm⟩

theorem Shuffles.trans (h : S.Shuffles s s') (h' : S.Shuffles s' s'') : S.Shuffles s s'' := by
  obtain ⟨order, perm, rfl⟩ := h
  obtain ⟨order', perm', rfl⟩ := h'
  rw [stored_storing] at perm'
  exact ⟨order', perm'.trans perm, storing_storing ..⟩

/-- Callbacks, each with the time at which it is heard, may lead to a state if what is stored may be shuffled
at any time. -/
inductive Reaches (S : Store σ α) (hear : σ → Duration → Callback → σ) (start : σ) :
    List (Duration × Callback) → σ → Prop
  | start : Reaches S hear start [] start
  | shuffled {told : List (Duration × Callback)} {s s' : σ} (reached : Reaches S hear start told s)
    (shuffled : S.Shuffles s s') : Reaches S hear start told s'
  | heard {told : List (Duration × Callback)} {s : σ} (reached : Reaches S hear start told s)
    (now : Duration) (c : Callback) : Reaches S hear start (told ++ [(now, c)]) (hear s now c)

/-- Every callback keeps values under distinct names of their own, and does no more to a shuffled state than
to shuffle what it leaves. -/
structure Keeps (S : Store σ α) (hear : σ → Duration → Callback → σ) : Prop where
  orderly : ∀ {s}, (S.stored s).Orderly S.name → ∀ now c,
    (S.stored (hear s now c)).Orderly S.name
  shuffles : ∀ {s}, (S.stored s).Orderly S.name → ∀ {order}, order.Perm (S.stored s) → ∀ now c,
    S.Shuffles (hear s now c) (hear (S.storing order s) now c)

/-- What is reached with shuffling is, but for the order, what is reached without. -/
theorem Keeps.of_reaches {hear : σ → Duration → Callback → σ} (keeps : S.Keeps hear) {start : σ}
    (empty : S.stored start = []) {told : List (Duration × Callback)} {s : σ}
    (reached : S.Reaches hear start told s) :
    let plain := told.foldl (fun t x => hear t x.1 x.2) start
    (S.stored plain).Orderly S.name ∧ S.Shuffles plain s := by
  induction reached with
  | start => exact ⟨empty ▸ Pending.orderly_nil S.name, .refl S start⟩
  | shuffled _ shuffled ih => exact ⟨ih.1, ih.2.trans shuffled⟩
  | heard _ now c ih =>
    obtain ⟨orderly, order, perm, rfl⟩ := ih
    rw [List.foldl_append]
    exact ⟨keeps.orderly orderly now c, keeps.shuffles orderly perm now c⟩

end Store

/-! ## The console -/

namespace Console.Listener
variable {l : Listener} {order : Pending Description}

def store : Store Listener Description where
  stored := pending
  storing p l := { l with pending := p }
  name := Description.displayName
  stored_storing _ _ := rfl
  storing_stored _ := rfl
  storing_storing _ _ _ := rfl

/-- The end of a run takes what waits by its names, not as it is stored. -/
theorem hear_runFinished_of_perm (h : l.pending.Orderly Description.displayName)
    (perm : order.Perm l.pending) (now : Duration) (t : Tally) :
    { l with pending := order }.hear now (.runFinished t) = l.hear now (.runFinished t) := by
  simp only [hear, withOrphans, h.inOrder_perm perm]
  rfl

theorem keeps : store.Keeps fun l now c => (l.hear now c).1 where
  orderly h now c := ⟨keyed_hear h.keyed now c, distinct_hear h.distinct now c⟩
  shuffles {l} h order perm now c := by
    cases c with
    | runFinished t =>
      dsimp only [store]
      rw [hear_runFinished_of_perm h perm]
      exact .refl store _
    | failure f => exact ⟨_, Pending.put_perm perm _ _, rfl⟩
    | finished d =>
      refine ⟨_, Pending.erase_perm perm d.displayName, ?_⟩
      simp only [hear, store, h.lookup_perm perm]
    | _ => exact ⟨order, perm, rfl⟩

/-- The states of a console after callbacks, in whatever order failures are stored. -/
abbrev Reached : List (Duration × Callback) → Listener → Prop :=
  store.Reaches (fun l now c => (l.hear now c).1) fresh

end Console.Listener

/-! ## Results -/

namespace Results.Listener
variable {l : Listener} {order : Pending Failure}

def store : Store Listener Failure where
  stored := failures
  storing p l := { l with failures := p }
  name f := f.description.displayName
  stored_storing _ _ := rfl
  storing_stored _ := rfl
  storing_storing _ _ _ := rfl

/-- The end of a run takes what waits by its names, not as it is stored. -/
theorem collect_runFinished_of_perm (h : l.failures.Orderly fun f => f.description.displayName)
    (perm : order.Perm l.failures) (now : Duration) (t : Tally) :
    { l with failures := order }.collect now (.runFinished t) = l.collect now (.runFinished t) := by
  simp only [collect, withOrphans, h.inOrder_perm perm]

theorem hear_runFinished_of_perm (h : l.failures.Orderly fun f => f.description.displayName)
    (perm : order.Perm l.failures) (now : Duration) (fs : Files) (t : Tally) :
    { l with failures := order }.hear now fs (.runFinished t) = l.hear now fs (.runFinished t) := by
  simp only [hear, collect_runFinished_of_perm h perm]

theorem keeps : store.Keeps collect where
  orderly h now c := ⟨keyed_collect h.keyed now c, distinct_collect h.distinct now c⟩
  shuffles {l} h order perm now c := by
    cases c with
    | runFinished t =>
      dsimp only [store]
      rw [collect_runFinished_of_perm h perm]
      exact .refl store _
    | failure f => exact ⟨_, Pending.put_perm perm _ _, rfl⟩
    | finished d =>
      refine ⟨_, Pending.erase_perm perm d.displayName, ?_⟩
      simp only [collect, store, resultsAfter, sinceStart, h.lookup_perm perm]
    | _ => exact ⟨order, perm, rfl⟩

/-- The states of a results listener after callbacks, in whatever order failures are stored. -/
abbrev Reached (path : Path) : List (Duration × Callback) → Listener → Prop :=
  store.Reaches collect (fresh path)

end Results.Listener

/-- After any callbacks failures wait under distinct names, each under its own. In whatever order they are
stored, then and before, the end of a run leaves the same failed tests, writes the same lines and saves the
same records. -/
theorem orphans_in_order :
    (∀ told l, Console.Listener.Reached told l →
      l.pending.Keyed Description.displayName ∧ l.pending.Distinct ∧
        ∀ order, order.Perm l.pending → ∀ now t,
          { l with pending := order }.hear now (.runFinished t) =
            (Console.Listener.fresh.hearAll told).hear now (.runFinished t)) ∧
    ∀ path told l, Results.Listener.Reached path told l →
      l.failures.Keyed (fun f => f.description.displayName) ∧ l.failures.Distinct ∧
        ∀ order, order.Perm l.failures → ∀ now fs t,
          { l with failures := order }.hear now fs (.runFinished t) =
            ((Results.Listener.fresh path).collectAll told).hear now fs (.runFinished t) := by
  constructor
  · intro told l reached
    obtain ⟨orderly, stored, perm, rfl⟩ := Console.Listener.keeps.of_reaches rfl reached
    have h := orderly.of_perm perm
    refine ⟨h.keyed, h.distinct, fun order hperm now t => ?_⟩
    exact Console.Listener.hear_runFinished_of_perm orderly (hperm.trans perm) now t
  · intro path told l reached
    obtain ⟨orderly, stored, perm, rfl⟩ := Results.Listener.keeps.of_reaches rfl reached
    have h := orderly.of_perm perm
    refine ⟨h.keyed, h.distinct, fun order hperm now fs t => ?_⟩
    exact Results.Listener.hear_runFinished_of_perm orderly (hperm.trans perm) now fs t

/-- Of two suites, the one that comes last by name fails first and is stored first. It is listed and recorded
last, as it would be if it were stored last. -/
theorem orphans_in_order_reversed :
    let a : Failure := ⟨.ofClass "A" [], "no disk"⟩
    let b : Failure := ⟨.ofClass "B" [], "no connection"⟩
    let told : List (Duration × Callback) := [(0, .failure b), (1, .failure a)]
    let l := Console.Listener.fresh.hearAll told
    let r := (Results.Listener.fresh (.ofString "out")).collectAll told
    let t : Tally := ⟨0, 0, [], 5⟩
    Console.Listener.Reached told l ∧ Results.Listener.Reached (.ofString "out") told r ∧
      [("A", a.description), ("B", b.description)].Perm l.pending ∧
      [("A", a), ("B", b)].Perm r.failures ∧ r.failures.map Prod.fst = ["B", "A"] ∧
      (l.hear 7 (.runFinished t)).1.failedTests = [a.description, b.description] ∧
      (r.hear 7 .empty (.runFinished t)).1.results.records = [a, b].map Results.Listener.orphan := by
  intro a b told l r t
  have reached : Console.Listener.Reached told l := .heard (.heard .start _ _) _ _
  have reached' : Results.Listener.Reached (.ofString "out") told r := .heard (.heard .start _ _) _ _
  have perm : [("A", a.description), ("B", b.description)].Perm l.pending := .swap _ _ _
  have perm' : [("A", a), ("B", b)].Perm r.failures := .swap _ _ _
  obtain ⟨console, results⟩ := orphans_in_order
  have same := (console told l reached).2.2 _ perm 7 t
  have same' := (results _ told r reached').2.2 _ perm' 7 .empty t
  refine ⟨reached, reached', perm, perm', rfl, ?_, ?_⟩
  · have sorted : [a.description, b.description].mergeSort (Pending.before Description.displayName) =
        [a.description, b.description] := List.mergeSort_of_pairwise (by decide +kernel)
    rw [← same]
    exact sorted
  · have sorted : [a, b].mergeSort (Pending.before fun f => f.description.displayName) = [a, b] :=
      List.mergeSort_of_pairwise (by decide +kernel)
    rw [← same']
    exact (Results.Listener.records_withOrphans _).trans
      (congrArg (List.map Results.Listener.orphan) sorted)

end Testbench
