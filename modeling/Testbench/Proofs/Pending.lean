import Mathlib.Data.List.Nodup
import Testbench.Pending
/-!
# Names that wait

A name waits at most once. Putting and erasing keep it so, and change nothing about other names. Values
that know their names are taken in the order of these, without two of one name, so the order in which the
entries are stored does not show.

Main statements: `Distinct.countP_eq`, `Distinct.pairwise_inOrder`, `Orderly.inOrder_perm`.
-/
namespace Testbench.Pending
variable {α : Type}

@[simp] theorem inOrder_nil (name : α → String) : inOrder name ([] : Pending α) = [] := by
  simp [inOrder]

/-- No name waits twice. -/
def Distinct (p : Pending α) : Prop := (p.map Prod.fst).Nodup

theorem distinct_nil : Distinct ([] : Pending α) := List.nodup_nil

theorem Distinct.erase {p : Pending α} (h : p.Distinct) (name : String) :
    (p.erase name).Distinct :=
  h.sublist (List.filter_sublist.map Prod.fst)

theorem Distinct.put {p : Pending α} (h : p.Distinct) (name : String) (a : α) :
    (p.put name a).Distinct := by
  have hname : name ∉ (p.erase name).map Prod.fst := by
    intro hm
    obtain ⟨e, he, rfl⟩ := List.mem_map.1 hm
    exact (mem_erase_iff.1 he).2 rfl
  rw [Distinct, Pending.put, List.map_append]
  exact (h.erase name).append (List.nodup_singleton _)
    (List.disjoint_singleton.2 hname)

theorem erase_eq_self {p : Pending α} {name : String} (h : name ∉ p.map Prod.fst) :
    p.erase name = p := by
  refine List.filter_eq_self.2 fun e he => ?_
  have hne : e.1 ≠ name := fun hn => h (hn ▸ List.mem_map_of_mem he)
  simp [hne]

/-- The waiting names that satisfy a condition are those other than `name`, and `name` if it waits. -/
theorem Distinct.countP_eq {p : Pending α} (h : p.Distinct) (name : String) (q : String → Bool) :
    p.countP (q ·.1) = (p.erase name).countP (q ·.1) +
      if (p.lookup name).isSome && q name then 1 else 0 := by
  induction p with
  | nil => rfl
  | cons e p ih =>
    obtain ⟨hnot, hp⟩ := List.nodup_cons.1 h
    by_cases hn : e.1 = name
    · subst hn
      have herase : Pending.erase (e :: p) e.1 = p := by
        rw [Pending.erase, List.filter_cons_of_neg (by simp)]
        exact erase_eq_self hnot
      have hlookup : List.lookup e.1 (e :: p) = some e.2 := List.lookup_cons_self
      simp [herase, hlookup, List.countP_cons]
    · have herase : Pending.erase (e :: p) name = e :: Pending.erase p name :=
        List.filter_cons_of_pos (by simp [hn])
      have hlookup : List.lookup name (e :: p) = List.lookup name p := by
        rw [List.lookup_cons, beq_false_of_ne (Ne.symm hn)]
      rw [herase, hlookup, List.countP_cons, List.countP_cons, ih hp]
      omega

theorem Distinct.lookup_eq_some_iff {p : Pending α} (h : p.Distinct) {name : String} {a : α} :
    p.lookup name = some a ↔ (name, a) ∈ p := by
  induction p with
  | nil => simp
  | cons e p ih =>
    obtain ⟨hnot, hp⟩ := List.nodup_cons.1 h
    by_cases hn : name = e.1
    · have hne : (name, a) ∉ p := fun hm => hnot (List.mem_map.2 ⟨_, hm, hn⟩)
      have hlookup : List.lookup name (e :: p) = some e.2 := by
        rw [hn]
        exact List.lookup_cons_self
      rw [hlookup, List.mem_cons, or_iff_left hne]
      simp [hn, Prod.ext_iff, eq_comm]
    · have hne : (name, a) ≠ e := fun he => hn (congrArg Prod.fst he)
      rw [List.lookup_cons, beq_false_of_ne hn, List.mem_cons]
      simpa [hne] using ih hp

theorem mem_names_erase_iff {p : Pending α} {name other : String} :
    other ∈ (p.erase name).map Prod.fst ↔ other ∈ p.map Prod.fst ∧ other ≠ name := by
  simp only [List.mem_map, mem_erase_iff]
  constructor
  · rintro ⟨e, ⟨he, hne⟩, rfl⟩
    exact ⟨⟨e, he, rfl⟩, hne⟩
  · rintro ⟨⟨e, he, rfl⟩, hne⟩
    exact ⟨e, ⟨he, hne⟩, rfl⟩

theorem mem_names_put_iff {p : Pending α} {name other : String} {a : α} :
    other ∈ (p.put name a).map Prod.fst ↔ other ∈ p.map Prod.fst ∨ other = name := by
  rw [put, List.map_append, List.mem_append, mem_names_erase_iff, List.map_singleton,
    List.mem_singleton]
  grind

theorem isNone_lookup_iff {p : Pending α} {name : String} :
    (p.lookup name).isNone = true ↔ name ∉ p.map Prod.fst := by
  rw [Option.isNone_iff_eq_none, List.lookup_eq_none_iff]
  simp only [List.mem_map, not_exists, not_and, bne_iff_ne]
  exact forall₂_congr fun e _ => ⟨Ne.symm, Ne.symm⟩

theorem lookup_filter_ne {κ β : Type} [BEq κ] [LawfulBEq κ] {a b : κ} (h : b ≠ a)
    (entries : List (κ × β)) : (entries.filter (·.1 != a)).lookup b = entries.lookup b := by
  induction entries with
  | nil => rfl
  | cons e entries ih =>
    by_cases ha : e.1 = a
    · have hb : (b == e.1) = false := by simp [ha, h]
      rw [List.filter_cons_of_neg (by simp [ha]), ih, List.lookup_cons, hb]
    · rw [List.filter_cons_of_pos (by simp [ha]), List.lookup_cons, List.lookup_cons, ih]

theorem lookup_erase (p : Pending α) (name other : String) :
    (p.erase name).lookup other = if name = other then none else p.lookup other := by
  split_ifs with h
  · subst h
    exact lookup_erase_self p name
  · exact lookup_filter_ne (Ne.symm h) p

theorem lookup_put (p : Pending α) (name other : String) (a : α) :
    (p.put name a).lookup other = if name = other then some a else p.lookup other := by
  split_ifs with h
  · subst h
    exact lookup_put_self p name a
  · have hother : (other == name) = false := beq_false_of_ne (Ne.symm h)
    rw [put, List.lookup_append, lookup_erase, if_neg h]
    simp [List.lookup_cons, hother]

/-! ## Values that know their names -/

/-- Every value waits under its own name. -/
def Keyed (name : α → String) (p : Pending α) : Prop := ∀ e ∈ p, e.1 = name e.2

theorem Keyed.erase {name : α → String} {p : Pending α} (h : p.Keyed name) (key : String) :
    (p.erase key).Keyed name := fun e he => h e (mem_erase_iff.1 he).1

theorem Keyed.put {name : α → String} {p : Pending α} (h : p.Keyed name) (a : α) :
    (p.put (name a) a).Keyed name := by
  intro e he
  rcases mem_put_iff.1 he with ⟨hp, -⟩ | rfl
  · exact h e hp
  · rfl

theorem mem_inOrder_iff {name : α → String} {p : Pending α} {a : α} :
    a ∈ p.inOrder name ↔ ∃ e ∈ p, e.2 = a := by
  rw [(perm_inOrder name p).mem_iff, List.mem_map]

/-- What is taken in order has the names under which it waited. -/
theorem Keyed.perm_names {name : α → String} {p : Pending α} (h : p.Keyed name) :
    ((p.inOrder name).map name).Perm (p.map Prod.fst) := by
  have hkeys : p.map Prod.fst = (p.map Prod.snd).map name := by
    rw [List.map_map]
    exact List.map_congr_left h
  rw [hkeys]
  exact (perm_inOrder name p).map name

/-- Distinct names are taken in increasing order. -/
theorem Distinct.pairwise_inOrder {name : α → String} {p : Pending α} (h : p.Distinct)
    (keyed : p.Keyed name) : (p.inOrder name).Pairwise fun a b => name a < name b := by
  have hbefore (a b : α) : before name a b = true ↔ name a ≤ name b := by
    rw [before, decide_eq_true_eq, String.not_lt]
  have sorted : (p.inOrder name).Pairwise fun a b => before name a b = true := by
    refine List.pairwise_mergeSort ?_ ?_ _
    · intro a b c hab hbc
      exact (hbefore a c).2 (String.le_trans ((hbefore a b).1 hab) ((hbefore b c).1 hbc))
    · intro a b
      rw [Bool.or_eq_true, hbefore, hbefore]
      exact String.le_total (name a) (name b)
  have distinct : (p.inOrder name).Pairwise fun a b => name a ≠ name b :=
    List.pairwise_map.1 (keyed.perm_names.nodup_iff.2 h)
  refine (sorted.and distinct).imp fun {a b} ⟨hle, hne⟩ => ?_
  by_contra hlt
  exact hne (String.le_antisymm ((hbefore a b).1 hle) (String.not_lt.1 hlt))

/-! ## Another order of the entries -/

/-- Values wait under distinct names of their own. -/
structure Orderly (name : α → String) (p : Pending α) : Prop where
  keyed : p.Keyed name
  distinct : p.Distinct

theorem orderly_nil (name : α → String) : Orderly name ([] : Pending α) :=
  ⟨fun _ he => absurd he List.not_mem_nil, distinct_nil⟩

theorem Orderly.of_perm {name : α → String} {p q : Pending α} (h : p.Orderly name)
    (perm : q.Perm p) : q.Orderly name where
  keyed e he := h.keyed e (perm.subset he)
  distinct := (perm.map Prod.fst).nodup_iff.2 h.distinct

theorem erase_perm {p q : Pending α} (perm : q.Perm p) (name : String) :
    (q.erase name).Perm (p.erase name) := perm.filter _

theorem put_perm {p q : Pending α} (perm : q.Perm p) (name : String) (a : α) :
    (q.put name a).Perm (p.put name a) := (erase_perm perm name).append_right _

/-- What waits under a name is found in any order. -/
theorem Orderly.lookup_perm {name : α → String} {p q : Pending α} (h : p.Orderly name)
    (perm : q.Perm p) (key : String) : q.lookup key = p.lookup key := by
  apply Option.ext
  intro a
  rw [(h.of_perm perm).distinct.lookup_eq_some_iff, h.distinct.lookup_eq_some_iff, perm.mem_iff]

/-- All that waits is taken in one and the same order. -/
theorem Orderly.inOrder_perm {name : α → String} {p q : Pending α} (h : p.Orderly name)
    (perm : q.Perm p) : q.inOrder name = p.inOrder name := by
  have h' := h.of_perm perm
  have same : (q.inOrder name).Perm (p.inOrder name) :=
    (perm_inOrder name q).trans ((perm.map Prod.snd).trans (perm_inOrder name p).symm)
  refine same.eq_of_pairwise ?_ (h'.distinct.pairwise_inOrder h'.keyed)
    (h.distinct.pairwise_inOrder h.keyed)
  intro a b _ _ hab hba
  exact absurd hab (String.lt_asymm hba)

/-! ## Other values under the same names -/

variable {β : Type}

/-- What waits, with every value changed. -/
def mapValues (f : α → β) (p : Pending α) : Pending β := p.map fun e => (e.1, f e.2)

theorem mapValues_erase (f : α → β) (p : Pending α) (name : String) :
    (p.erase name).mapValues f = (p.mapValues f).erase name := by
  simp only [mapValues, erase, List.filter_map]
  rfl

theorem mapValues_put (f : α → β) (p : Pending α) (name : String) (a : α) :
    (p.put name a).mapValues f = (p.mapValues f).put name (f a) := by
  rw [put, put, ← mapValues_erase, mapValues, List.map_append]
  rfl

theorem lookup_mapValues (f : α → β) (p : Pending α) (name : String) :
    (p.mapValues f).lookup name = (p.lookup name).map f := by
  induction p with
  | nil => rfl
  | cons e p ih =>
    have hcons : mapValues f (e :: p) = (e.1, f e.2) :: mapValues f p := rfl
    rw [hcons, List.lookup_cons, List.lookup_cons, ih]
    cases name == e.1 <;> rfl

theorem inOrder_mapValues (f : α → β) (name : β → String) (p : Pending α) :
    (p.mapValues f).inOrder name = (p.inOrder fun a => name (f a)).map f := by
  have hvalues : (p.mapValues f).map Prod.snd = (p.map Prod.snd).map f := by
    simp [mapValues, Function.comp_def]
  rw [inOrder, hvalues, inOrder]
  refine (List.map_mergeSort fun a _ b _ => ?_).symm
  rfl

end Testbench.Pending
