/-!
# Pending entries

Values that wait under the display name of a test until its end is reported. A name holds one value at
a time, the latest. What still waits at the end of a run is taken in the order of names, so the order
in which the entries are stored does not matter.
-/
namespace Testbench

abbrev Pending (α : Type) := List (String × α)

namespace Pending
variable {α : Type}

def erase (p : Pending α) (name : String) : Pending α := p.filter fun e => e.1 != name

def put (p : Pending α) (name : String) (a : α) : Pending α := p.erase name ++ [(name, a)]

/-- Whether one value comes no later than another. -/
def before (name : α → String) (a b : α) : Bool := decide (¬ name b < name a)

/-- The values that wait, in the order of their names. -/
def inOrder (name : α → String) (p : Pending α) : List α :=
  (p.map Prod.snd).mergeSort (before name)

theorem lookup_erase_self (p : Pending α) (name : String) : (p.erase name).lookup name = none := by
  refine List.lookup_eq_none_iff.2 fun e he => ?_
  rw [bne_comm]
  exact (List.mem_filter.1 he).2

theorem lookup_put_self (p : Pending α) (name : String) (a : α) :
    (p.put name a).lookup name = some a := by
  simp [put, List.lookup_append, lookup_erase_self]

theorem mem_erase_iff {p : Pending α} {name : String} {e : String × α} :
    e ∈ p.erase name ↔ e ∈ p ∧ e.1 ≠ name := by
  simp [erase]

theorem mem_put_iff {p : Pending α} {name : String} {a : α} {e : String × α} :
    e ∈ p.put name a ↔ (e ∈ p ∧ e.1 ≠ name) ∨ e = (name, a) := by
  simp [put, mem_erase_iff]

theorem perm_inOrder (name : α → String) (p : Pending α) :
    (p.inOrder name).Perm (p.map Prod.snd) := List.mergeSort_perm _ _

end Pending
end Testbench
