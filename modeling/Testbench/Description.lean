/-!
# Descriptions of tests and suites

A description is a tree. A node with a method name is a test and counts as one test, whatever hangs
below it; any other node is a suite and stands for the tests of its children, in order.

Main definitions: `Description.testCount` adds up the tests of a tree, `Description.tests` lists them,
and `Description.preorder` lists every node together with the nodes above it. Main statements:
`Description.length_tests` and `Description.anyTest_eq`, by which the list of tests tells both how many
there are and whether some test satisfies a condition.
-/
namespace Testbench

structure Label where
  displayName : String
  ownClass : Option String
  method : Option String
  deriving DecidableEq, Repr, Inhabited

/-- A label and the descriptions below it. -/
inductive Description where
  | node (label : Label) (children : List Description)
  deriving Repr, Inhabited

namespace Description

mutual

/-- Whether two trees are the same, node for node. -/
def same : Description → Description → Bool
  | node l cs, node l' cs' => decide (l = l') && sameAll cs cs'

def sameAll : List Description → List Description → Bool
  | [], [] => true
  | c :: cs, c' :: cs' => same c c' && sameAll cs cs'
  | _, _ => false

end

mutual

theorem eq_of_same : ∀ {a b : Description}, same a b = true → a = b
  | node _ _, node _ _, h => by
    simp only [same, Bool.and_eq_true, decide_eq_true_eq] at h
    rw [h.1, eq_of_sameAll h.2]

theorem eq_of_sameAll : ∀ {a b : List Description}, sameAll a b = true → a = b
  | [], [], _ => rfl
  | _ :: _, _ :: _, h => by
    simp only [sameAll, Bool.and_eq_true] at h
    rw [eq_of_same h.1, eq_of_sameAll h.2]
  | [], _ :: _, h => by simp [sameAll] at h
  | _ :: _, [], h => by simp [sameAll] at h

end

mutual

theorem same_self : ∀ a : Description, same a a = true
  | node _ cs => by simp [same, sameAll_self cs]

theorem sameAll_self : ∀ a : List Description, sameAll a a = true
  | [] => rfl
  | c :: cs => by simp [sameAll, same_self c, sameAll_self cs]

end

instance : DecidableEq Description := fun a b =>
  if h : same a b = true then isTrue (eq_of_same h)
  else isFalse fun e => h (e ▸ same_self a)

def label : Description → Label
  | node l _ => l

def children : Description → List Description
  | node _ cs => cs

/-- A suite known by its name only. -/
def suite (name : String) (children : List Description) : Description :=
  node ⟨name, none, none⟩ children

/-- The suite of one test class. -/
def ofClass (name : String) (children : List Description) : Description :=
  node ⟨name, some name, none⟩ children

/-- One test, shown as its class and method with a dot between. -/
def test (className method : String) (children : List Description) : Description :=
  node ⟨className ++ "." ++ method, some className, some method⟩ children

def displayName (d : Description) : String := d.label.displayName

/-- The class that a description belongs to; a plain suite stands for itself. -/
def className (d : Description) : String := d.label.ownClass.getD d.displayName

def method? (d : Description) : Option String := d.label.method

def isTest (d : Description) : Bool := d.label.method.isSome

def isSuite (d : Description) : Bool := !d.isTest

/-- The name of the tested method for a test, the display name for a suite. -/
def methodName (d : Description) : String := d.method?.getD d.displayName

/-- The name of a test in reports: class and method with a dot between, or the display name. -/
def reportName (d : Description) : String :=
  match d.method? with
  | some m => d.className ++ "." ++ m
  | none => d.displayName

mutual

/-- How many tests a description stands for. -/
def testCount : Description → Nat
  | node l cs => if l.method.isSome then 1 else testCountAll cs

def testCountAll : List Description → Nat
  | [] => 0
  | c :: cs => testCount c + testCountAll cs

end

mutual

/-- The tests that a description stands for, from left to right. -/
def tests : Description → List Description
  | node l cs => if l.method.isSome then [node l cs] else testsAll cs

def testsAll : List Description → List Description
  | [] => []
  | c :: cs => tests c ++ testsAll cs

end

mutual

/-- Every node in pre-order, each with the nodes above it, the nearest first. -/
def preorder (above : List Description) : Description → List (List Description × Description)
  | node l cs => (above, node l cs) :: preorderAll (node l cs :: above) cs

def preorderAll (above : List Description) :
    List Description → List (List Description × Description)
  | [] => []
  | c :: cs => preorder above c ++ preorderAll above cs

end

mutual

/-- Whether some test that a description stands for satisfies `p`. -/
def anyTest (p : Description → Bool) : Description → Bool
  | node l cs => if l.method.isSome then p (node l cs) else anyTestAll p cs

def anyTestAll (p : Description → Bool) : List Description → Bool
  | [] => false
  | c :: cs => anyTest p c || anyTestAll p cs

end

/-! ## Traversals agree -/

theorem testsAll_eq_flatMap (cs : List Description) : testsAll cs = cs.flatMap tests := by
  induction cs with
  | nil => rfl
  | cons c cs ih => simp [testsAll, ih]

mutual

theorem length_tests : ∀ d : Description, d.tests.length = d.testCount
  | node l cs => by
    rw [tests, testCount]
    split
    · rfl
    · exact length_testsAll cs

theorem length_testsAll : ∀ cs : List Description, (testsAll cs).length = testCountAll cs
  | [] => rfl
  | c :: cs => by simp [testsAll, testCountAll, length_tests c, length_testsAll cs]

end

mutual

theorem anyTest_eq (p : Description → Bool) : ∀ d : Description, d.anyTest p = d.tests.any p
  | node l cs => by
    rw [tests, anyTest]
    split
    · simp
    · exact anyTestAll_eq p cs

theorem anyTestAll_eq (p : Description → Bool) :
    ∀ cs : List Description, anyTestAll p cs = (testsAll cs).any p
  | [] => rfl
  | c :: cs => by simp [testsAll, anyTestAll, anyTest_eq p c, anyTestAll_eq p cs]

end

mutual

theorem isTest_of_mem_tests : ∀ {d t : Description}, t ∈ d.tests → t.isTest
  | node l cs, t, h => by
    rw [tests] at h
    split at h
    · rename_i hl
      rw [List.mem_singleton.1 h]
      exact hl
    · exact isTest_of_mem_testsAll h

theorem isTest_of_mem_testsAll : ∀ {cs : List Description} {t : Description},
    t ∈ testsAll cs → t.isTest
  | [], _, h => by simp [testsAll] at h
  | _ :: _, _, h => by
    rw [testsAll, List.mem_append] at h
    exact h.elim isTest_of_mem_tests isTest_of_mem_testsAll

end

end Description
end Testbench
