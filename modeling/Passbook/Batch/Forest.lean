/-!
# Ordered forests

A forest on the natural numbers in which no parent is larger than its child:
roots are their own parents, and the root of a tree is its least member. Finding
a root halves the path on the way: each index that is passed is hung onto its
grandparent.

Indices beyond the array are roots by themselves, so every operation is total.

## Main results

* `find_le` — the root of a tree is not larger than the index it was found from.
-/

namespace Passbook.Batch

/-- Parents of the first indices; none is larger than its child. -/
structure Forest where
  parents : Array Nat
  parent_le : ∀ i, parents.getD i i ≤ i

namespace Forest

/-- The parent of an index. -/
def parent (forest : Forest) (i : Nat) : Nat := forest.parents.getD i i

theorem parent_le_self (forest : Forest) (i : Nat) : forest.parent i ≤ i :=
    forest.parent_le i

/-- `n` trees of one index each. -/
def singletons (n : Nat) : Forest where
  parents := Array.range n
  parent_le i := by
    unfold Array.getD
    split <;> simp

/-- Hangs an index onto one that is not larger. -/
def hang (forest : Forest) (i p : Nat) (p_le : p ≤ i) : Forest where
  parents := forest.parents.setIfInBounds i p
  parent_le j := by
    have le := forest.parent_le j
    simp only [Array.getD_eq_getD_getElem?,
      Array.getElem?_setIfInBounds] at le ⊢
    by_cases same : i = j
    · subst same
      by_cases inside : i < forest.parents.size <;> simp [inside, p_le]
    · simpa [same] using le

theorem parent_hang (forest : Forest) {i p : Nat} (p_le : p ≤ i) (j : Nat) :
    (forest.hang i p p_le).parent j =
      if i = j ∧ i < forest.parents.size then p else forest.parent j := by
  unfold hang parent
  simp only [Array.getD_eq_getD_getElem?, Array.getElem?_setIfInBounds]
  by_cases same : i = j
  · subst same
    by_cases inside : i < forest.parents.size <;> simp [inside]
  · simp [same]

/-- The grandparent of an index. -/
def grandparent (forest : Forest) (i : Nat) : Nat :=
    forest.parent (forest.parent i)

theorem grandparent_le (forest : Forest) (i : Nat) :
    forest.grandparent i ≤ forest.parent i :=
  forest.parent_le_self (forest.parent i)

/-- The root of an index, and the forest with the path to it halved. -/
def find (forest : Forest) (i : Nat) : Nat × Forest :=
  if forest.parent i = i then (i, forest)
  else
    find
      (forest.hang i (forest.grandparent i)
        (Nat.le_trans (forest.grandparent_le i) (forest.parent_le_self i)))
      (forest.grandparent i)
termination_by i
decreasing_by
  have := forest.grandparent_le i
  have := forest.parent_le_self i
  omega

theorem find_le (forest : Forest) (i : Nat) : (forest.find i).1 ≤ i := by
  fun_induction find forest i with
  | case1 => exact Nat.le_refl _
  | case2 forest i _ ih =>
    exact Nat.le_trans ih (Nat.le_trans (forest.grandparent_le i)
      (forest.parent_le_self i))

/-- Joins the trees of two indices; the smaller root becomes the root of
both. -/
def union (forest : Forest) (i j : Nat) : Forest :=
  let (a, forest) := forest.find i
  let (b, forest) := forest.find j
  if a = b then forest else forest.hang (max a b) (min a b) (by omega)

end Forest

end Passbook.Batch
