import Passbook.Batch.Forest

/-!
# Roots of a forest

The root of an index is found by going from parent to parent. Halving paths
changes parents but no root, so whatever `find` does on the way, it answers the
root; and joining two trees gives the members of both one root and leaves every
other tree as it was.

## Main results

* `find_fst`, `root_find` — `find` answers the root and changes none.
* `root_union_self`, `root_union_of_eq` — joined indices have one root, and so
  have those that had one before.
* `root_eq_of_root_union` — and no others.
-/

namespace Passbook.Batch.Forest

/-- The root of an index. -/
def root (forest : Forest) (i : Nat) : Nat :=
  if forest.parent i = i then i else root forest (forest.parent i)
termination_by i
decreasing_by
  have := forest.parent_le_self i
  omega

theorem root_of_parent_eq {forest : Forest} {i : Nat}
    (is_root : forest.parent i = i) :
    forest.root i = i := by
  rw [root, if_pos is_root]

theorem root_parent (forest : Forest) (i : Nat) :
    forest.root (forest.parent i) = forest.root i := by
  by_cases is_root : forest.parent i = i
  · rw [is_root]
  · rw [root.eq_1 forest i, if_neg is_root]

theorem root_le (forest : Forest) (i : Nat) : forest.root i ≤ i := by
  induction i using Nat.strongRecOn with
  | ind i ih =>
    by_cases is_root : forest.parent i = i
    · exact Nat.le_of_eq (root_of_parent_eq is_root)
    · have parent_le := forest.parent_le_self i
      have climbed := ih (forest.parent i) (by omega)
      rw [root_parent] at climbed
      omega

theorem parent_root (forest : Forest) (i : Nat) :
    forest.parent (forest.root i) = forest.root i := by
  induction i using Nat.strongRecOn with
  | ind i ih =>
    by_cases is_root : forest.parent i = i
    · rw [root_of_parent_eq is_root]
      exact is_root
    · have parent_le := forest.parent_le_self i
      have climbed := ih (forest.parent i) (by omega)
      rwa [root_parent] at climbed

theorem root_root (forest : Forest) (i : Nat) :
    forest.root (forest.root i) = forest.root i :=
  root_of_parent_eq (forest.parent_root i)

/-! ## Hanging an index elsewhere -/

theorem size_hang (forest : Forest) {i p : Nat} (p_le : p ≤ i) :
    (forest.hang i p p_le).parents.size = forest.parents.size := by
  unfold hang
  rw [Array.size_setIfInBounds]

/-- Hanging an index lower in its own tree changes no root. -/
theorem root_hang_of_eq (forest : Forest) {i p : Nat} (p_lt : p < i)
    (same : forest.root p = forest.root i) (j : Nat) :
    (forest.hang i p (Nat.le_of_lt p_lt)).root j = forest.root j := by
  induction j using Nat.strongRecOn with
  | ind j ih =>
    have parent_eq := forest.parent_hang (Nat.le_of_lt p_lt) j
    by_cases moved : i = j ∧ i < forest.parents.size
    · rw [if_pos moved] at parent_eq
      obtain ⟨rfl, -⟩ := moved
      rw [← root_parent, parent_eq, ih p p_lt, same]
    · rw [if_neg moved] at parent_eq
      by_cases is_root : forest.parent j = j
      · rw [root_of_parent_eq is_root]
        exact root_of_parent_eq (parent_eq.trans is_root)
      · have parent_le := forest.parent_le_self j
        rw [← root_parent, parent_eq, ih (forest.parent j) (by omega),
          root_parent]

/-- Hanging one root onto another joins their trees. -/
theorem root_hang_root (forest : Forest) {i p : Nat} (p_lt : p < i)
    (inside : i < forest.parents.size)
    (i_root : forest.parent i = i) (p_root : forest.parent p = p) (j : Nat) :
    (forest.hang i p (Nat.le_of_lt p_lt)).root j =
      if forest.root j = i then p else forest.root j := by
  induction j using Nat.strongRecOn with
  | ind j ih =>
    have parent_eq := forest.parent_hang (Nat.le_of_lt p_lt) j
    by_cases moved : i = j
    · subst moved
      rw [if_pos ⟨rfl, inside⟩] at parent_eq
      have p_stays : forest.root p ≠ i := by
        rw [root_of_parent_eq p_root]
        omega
      rw [← root_parent, parent_eq, ih p p_lt, if_neg p_stays,
        root_of_parent_eq p_root, root_of_parent_eq i_root, if_pos rfl]
    · rw [if_neg fun both => moved both.1] at parent_eq
      by_cases is_root : forest.parent j = j
      · rw [root_of_parent_eq is_root, if_neg (Ne.symm moved)]
        exact root_of_parent_eq (parent_eq.trans is_root)
      · have parent_le := forest.parent_le_self j
        rw [← root_parent, parent_eq, ih (forest.parent j) (by omega),
          root_parent]

/-! ## Finding -/

theorem root_grandparent (forest : Forest) (i : Nat) :
    forest.root (forest.grandparent i) = forest.root i := by
  unfold grandparent
  rw [root_parent, root_parent]

theorem grandparent_lt {forest : Forest} {i : Nat}
    (not_root : forest.parent i ≠ i) :
    forest.grandparent i < i := by
  have grandparent_le := forest.grandparent_le i
  have parent_le := forest.parent_le_self i
  omega

theorem root_find (forest : Forest) (i j : Nat) :
    (forest.find i).2.root j = forest.root j := by
  fun_induction find forest i with
  | case1 => rfl
  | case2 forest i not_root ih =>
    rw [ih]
    exact forest.root_hang_of_eq (grandparent_lt not_root)
      (forest.root_grandparent i) j

theorem find_fst (forest : Forest) (i : Nat) :
    (forest.find i).1 = forest.root i := by
  fun_induction find forest i with
  | case1 forest i is_root => exact (root_of_parent_eq is_root).symm
  | case2 forest i not_root ih =>
    rw [ih,
      forest.root_hang_of_eq (grandparent_lt not_root)
        (forest.root_grandparent i),
      root_grandparent]

theorem size_find (forest : Forest) (i : Nat) :
    (forest.find i).2.parents.size = forest.parents.size := by
  fun_induction find forest i with
  | case1 => rfl
  | case2 forest i not_root ih => rw [ih, size_hang]

/-! ## Joining -/

theorem union_eq (forest : Forest) (i j : Nat) :
    forest.union i j =
      if forest.root i = forest.root j then ((forest.find i).2.find j).2
      else ((forest.find i).2.find j).2.hang
        (max (forest.root i) (forest.root j))
        (min (forest.root i) (forest.root j)) (by omega) := by
  unfold union
  simp only [find_fst, root_find]

theorem size_union (forest : Forest) (i j : Nat) :
    (forest.union i j).parents.size = forest.parents.size := by
  rw [union_eq]
  split
  · rw [size_find, size_find]
  · rw [size_hang, size_find, size_find]

/-- Joining two trees gives their members the smaller root. -/
theorem root_union (forest : Forest) {i j : Nat}
    (i_inside : i < forest.parents.size)
    (j_inside : j < forest.parents.size) (k : Nat) :
    (forest.union i j).root k =
      if forest.root k = max (forest.root i) (forest.root j) then
        min (forest.root i) (forest.root j)
      else forest.root k := by
  rw [union_eq]
  by_cases same : forest.root i = forest.root j
  · rw [if_pos same, root_find, root_find, same, Nat.max_self, Nat.min_self]
    split <;> omega
  · have i_le := forest.root_le i
    have j_le := forest.root_le j
    have found_root : ∀ m, ((forest.find i).2.find j).2.root m =
        forest.root m := by
      intro m
      rw [root_find, root_find]
    have is_root : ∀ m, forest.root m = m →
        ((forest.find i).2.find j).2.parent m = m := by
      intro m m_root
      have fixed := ((forest.find i).2.find j).2.parent_root m
      rwa [found_root, m_root] at fixed
    have max_root : forest.root (max (forest.root i) (forest.root j)) =
        max (forest.root i) (forest.root j) := by
      rcases Nat.le_total (forest.root i) (forest.root j) with le | le
      · rw [Nat.max_eq_right le, root_root]
      · rw [Nat.max_eq_left le, root_root]
    have min_root : forest.root (min (forest.root i) (forest.root j)) =
        min (forest.root i) (forest.root j) := by
      rcases Nat.le_total (forest.root i) (forest.root j) with le | le
      · rw [Nat.min_eq_left le, root_root]
      · rw [Nat.min_eq_right le, root_root]
    rw [if_neg same,
      root_hang_root
        _ (by
          omega)
            (by
              rw [size_find, size_find]; omega) (is_root _ max_root)
                (is_root _ min_root),
      found_root]

theorem root_union_self (forest : Forest) {i j : Nat}
    (i_inside : i < forest.parents.size) (j_inside : j < forest.parents.size) :
    (forest.union i j).root i = (forest.union i j).root j := by
  rw [root_union forest i_inside j_inside, root_union forest i_inside j_inside]
  split <;> split <;> omega

theorem root_union_of_eq (forest : Forest) {i j k m : Nat}
    (i_inside : i < forest.parents.size) (j_inside : j < forest.parents.size)
    (same : forest.root k = forest.root m) :
    (forest.union i j).root k = (forest.union i j).root m := by
  rw [root_union forest i_inside j_inside, root_union forest i_inside j_inside,
    same]

/-- Joining two trees gives one root to nothing but their members. -/
theorem root_eq_of_root_union (forest : Forest) {i j k m : Nat}
    (i_inside : i < forest.parents.size) (j_inside : j < forest.parents.size)
    (same : (forest.union i j).root k = (forest.union i j).root m) :
    forest.root k = forest.root m ∨
      (forest.root k = forest.root i ∧ forest.root m = forest.root j) ∨
        (forest.root k = forest.root j ∧ forest.root m = forest.root i) := by
  rw [root_union forest i_inside j_inside,
    root_union forest i_inside j_inside] at same
  split at same <;> split at same <;> omega

theorem size_singletons (n : Nat) : (singletons n).parents.size = n := by
  unfold singletons
  rw [Array.size_range]

theorem root_singletons (n i : Nat) : (singletons n).root i = i := by
  apply root_of_parent_eq
  unfold parent singletons Array.getD
  split <;> simp

end Passbook.Batch.Forest
