import Testbench.Proofs.Filter
/-!
# The tests of a description

A description is counted, listed and searched by traversals of their own. They stop at the same nodes:
at each test that has no test above it, whatever hangs below it.

Main definition: `isTopmost`. Main statements: `filter_preorder` for the list, and `traversals_agree`.
-/
namespace Testbench.Description

/-- Whether a node, given with the nodes above it, is a test and none of those above it is one. -/
def isTopmost (entry : List Description × Description) : Bool :=
  entry.2.isTest && entry.1.all isSuite

/-! ## Nodes below a test -/

mutual

/-- Going down a tree, nodes are only added to those above. -/
theorem suffix_of_mem_preorder {above : List Description} {entry : List Description × Description} :
    ∀ {d : Description}, entry ∈ preorder above d → above <:+ entry.1
  | node l cs, h => by
    rw [preorder, List.mem_cons] at h
    rcases h with rfl | h
    · exact List.suffix_refl above
    · exact (List.suffix_cons (node l cs) above).trans (suffix_of_mem_preorderAll h)

theorem suffix_of_mem_preorderAll {above : List Description}
    {entry : List Description × Description} :
    ∀ {cs : List Description}, entry ∈ preorderAll above cs → above <:+ entry.1
  | [], h => by simp [preorderAll] at h
  | _ :: _, h => by
    rw [preorderAll, List.mem_append] at h
    exact h.elim suffix_of_mem_preorder suffix_of_mem_preorderAll

end

/-- Nothing below a test is topmost. -/
theorem filter_preorderAll_of_isTest {t : Description} (ht : t.isTest) (above cs : List Description) :
    (preorderAll (t :: above) cs).filter isTopmost = [] := by
  refine List.filter_eq_nil_iff.2 fun entry h => ?_
  have hmem : t ∈ entry.1 := (suffix_of_mem_preorderAll h).subset List.mem_cons_self
  have : entry.1.all isSuite = false :=
    List.all_eq_false.2 ⟨t, hmem, by simp [isSuite, ht]⟩
  simp [isTopmost, this]

/-! ## The list of tests -/

mutual

/-- The tests of a description are its topmost ones in pre-order, if it hangs below suites only. -/
theorem filter_preorder {above : List Description} (h : above.all isSuite) :
    ∀ d : Description, ((d.preorder above).filter isTopmost).map Prod.snd = d.tests
  | node l cs => by
    rw [preorder, tests]
    split
    · rename_i hl
      have ht : (node l cs).isTest := hl
      have htop : isTopmost (above, node l cs) := by simp [isTopmost, ht, h]
      -- The test stands for itself, and what hangs below it is passed over.
      rw [List.filter_cons_of_pos htop, filter_preorderAll_of_isTest ht, List.map_singleton]
    · rename_i hl
      have ht : (node l cs).isTest = false := by simpa [isTest, label] using hl
      have htop : ¬ isTopmost (above, node l cs) := by simp [isTopmost, ht]
      -- One more suite is above the children.
      rw [List.filter_cons_of_neg htop]
      exact filter_preorderAll (by simp [isSuite, ht, h]) cs

theorem filter_preorderAll {above : List Description} (h : above.all isSuite) :
    ∀ cs : List Description, ((preorderAll above cs).filter isTopmost).map Prod.snd = testsAll cs
  | [] => rfl
  | c :: cs => by
    rw [preorderAll, testsAll, List.filter_append, List.map_append, filter_preorder h c,
      filter_preorderAll h cs]

end

/-- The tests of a description are counted, listed and searched alike: there are as many as are counted,
they are the topmost ones in pre-order, and a filter selects the description if and only if it accepts
the display name of one of them. -/
theorem traversals_agree (d : Description) :
    d.testCount = d.tests.length ∧
      d.tests = ((d.preorder []).filter fun (above, n) => n.isTest && above.all isSuite).map Prod.snd ∧
      ∀ f : PatternFilter,
        f.toFilter.shouldRun d ↔ ∃ t ∈ d.tests, f.acceptsName t.displayName := by
  exact ⟨(length_tests d).symm, (filter_preorder rfl d).symm, fun f => f.shouldRun_iff d⟩

end Testbench.Description
