import Mathlib.Logic.Relation
import Mathlib.Order.Bounds.Defs
import Mathlib.Order.MinMax
import Passbook.Proofs.Batch.Groups

/-!
# Searching a forest access by access

The search for a root changes the forest it walks through. Here it is taken
apart into its turns over the bare array of parents: a turn reads the parent of
an index and, if that is not the index itself, the parent of the parent, hangs
the index onto it and goes on from there. No turn can be made outside the array,
so a search that is put together from turns has stayed inside and has ended.

Trees are told by the array alone as well: two indices are in one tree if
parents lead from one to the other, up or down. Where no parent is larger than
its child every index climbs to one root, the least index of its tree, and the
root that `find` answers is that one.

## Main results

* `climbs_find` — the search is made of turns inside the array, and of no more
  than the index it starts from has indices below.
* `Forest.rootOf_iff`, `Forest.sameTree_iff` — roots and trees of the array are
  those of the forest.
* `searched_find` — what a search finds, and what it leaves.
* `joined_hang`, `joined_union` — what hanging one root onto another leaves, and
  that this is how trees are joined.
* `Links.within_after` — at every stage of a partition all indices are inside.
-/

namespace Passbook.Batch

/-! ## Arrays of parents -/

/-- Whether no parent is larger than its child. -/
def Ordered (parents : Array Nat) : Prop :=
  ∀ i (inside : i < parents.size), parents[i] ≤ i

instance (parents : Array Nat) : Decidable (Ordered parents) :=
  Nat.decidableBallLT parents.size fun i inside => parents[i] ≤ i

/-- Whether an index of the array hangs onto a parent. -/
def Hangs (parents : Array Nat) (i p : Nat) : Prop := parents[i]? = some p

/-- Whether an index climbs from parent to parent to a root. -/
def RootOf (parents : Array Nat) (i root : Nat) : Prop :=
  Relation.ReflTransGen (Hangs parents) i root ∧ Hangs parents root root

/-- Whether parents lead from one index to another, up or down. -/
def SameTree (parents : Array Nat) : Nat → Nat → Prop :=
  Relation.EqvGen (Hangs parents)

/--
A search for a root, turn by turn: from an index, in a number of turns, to a
root, with the array it leaves. All that is read and written is in the array.
-/
inductive Climbs : Array Nat → Nat → Nat → Nat → Array Nat → Prop
  | arrived {parents : Array Nat} {i : Nat} (root : parents[i]? = some i) :
      Climbs parents i 0 i parents
  | halved {parents left : Array Nat} {i p g turns root : Nat}
      (parent : parents[i]? = some p) (not_root : p ≠ i)
      (grandparent : parents[p]? = some g)
      (rest : Climbs (parents.setIfInBounds i g) g turns root left) :
      Climbs parents i (turns + 1) root left

/-- There is one way to search. -/
theorem Climbs.unique {parents left left' : Array Nat}
    {i turns turns' root root' : Nat}
    (climbs : Climbs parents i turns root left)
    (climbs' : Climbs parents i turns' root' left') :
    turns = turns' ∧ root = root' ∧ left = left' := by
  induction climbs generalizing turns' with
  | arrived is_root =>
    cases climbs' with
    | arrived => exact ⟨rfl, rfl, rfl⟩
    | halved parent not_root =>
      rw [is_root] at parent
      exact absurd (Option.some.inj parent).symm not_root
  | halved parent not_root grandparent _ ih =>
    cases climbs' with
    | arrived is_root =>
      rw [is_root] at parent
      exact absurd (Option.some.inj parent).symm not_root
    | halved parent' _ grandparent' rest' =>
      obtain rfl := Option.some.inj (parent.symm.trans parent')
      obtain rfl := Option.some.inj (grandparent.symm.trans grandparent')
      obtain ⟨rfl, rfl, rfl⟩ := ih rest'
      exact ⟨rfl, rfl, rfl⟩

namespace Forest

/-- The forest with given parents. -/
def ofOrdered (parents : Array Nat) (ordered : Ordered parents) : Forest where
  parents := parents
  parent_le i := by
    unfold Array.getD
    split
    · exact ordered i _
    · exact Nat.le_refl i

variable (forest : Forest) {i j p r : Nat}

theorem getElem?_parents (inside : i < forest.parents.size) :
    forest.parents[i]? = some (forest.parent i) := by
  simp [parent, inside]

theorem ordered_parents : Ordered forest.parents := by
  intro i inside
  have le := forest.parent_le_self i
  simpa [parent, inside] using le

theorem hangs_iff :
    Hangs forest.parents i p ↔
      i < forest.parents.size ∧ forest.parent i = p := by
  constructor
  · intro hangs
    obtain ⟨inside, -⟩ := Array.getElem?_eq_some_iff.1 hangs
    have parent_eq := (forest.getElem?_parents inside).symm.trans hangs
    exact ⟨inside, Option.some.inj parent_eq⟩
  · rintro ⟨inside, rfl⟩
    exact forest.getElem?_parents inside

/-- The search is made of turns inside the array. -/
theorem climbs_find (inside : i < forest.parents.size) :
    ∃ turns ≤ i, Climbs forest.parents i turns (forest.find i).1
      (forest.find i).2.parents := by
  fun_induction find forest i with
  | case1 forest i is_root =>
    have root := forest.getElem?_parents inside
    rw [is_root] at root
    exact ⟨0, Nat.zero_le i, .arrived root⟩
  | case2 forest i not_root ih =>
    have below := grandparent_lt not_root
    have parent_le := forest.parent_le_self i
    obtain ⟨turns, turns_le, rest⟩ := ih (by rw [size_hang]; omega)
    exact ⟨turns + 1, by omega,
      .halved (forest.getElem?_parents inside) not_root
        (forest.getElem?_parents (by omega)) rest⟩

/-! ## Roots and trees -/

theorem root_eq_of_hangs (hangs : Hangs forest.parents i p) :
    forest.root i = forest.root p := by
  obtain ⟨-, rfl⟩ := forest.hangs_iff.1 hangs
  exact (forest.root_parent i).symm

theorem root_eq_of_climb
    (climb : Relation.ReflTransGen (Hangs forest.parents) i j) :
    forest.root i = forest.root j := by
  induction climb with
  | refl => rfl
  | tail _ hangs same => exact same.trans (forest.root_eq_of_hangs hangs)

/-- Every index climbs to its root. -/
theorem climb_root (inside : i < forest.parents.size) :
    Relation.ReflTransGen (Hangs forest.parents) i (forest.root i) := by
  induction i using Nat.strongRecOn with
  | ind i ih =>
    by_cases is_root : forest.parent i = i
    · rw [root_of_parent_eq is_root]
    · have parent_le := forest.parent_le_self i
      have rest := ih (forest.parent i) (by omega) (by omega)
      rw [root_parent] at rest
      exact .head (forest.hangs_iff.2 ⟨inside, rfl⟩) rest

theorem rootOf_iff :
    RootOf forest.parents i r ↔
      i < forest.parents.size ∧ forest.root i = r := by
  constructor
  · rintro ⟨climb, is_root⟩
    obtain ⟨-, parent_eq⟩ := forest.hangs_iff.1 is_root
    have inside : i < forest.parents.size := by
      rcases climb.cases_head with rfl | ⟨p, hangs, -⟩
      · exact (forest.hangs_iff.1 is_root).1
      · exact (forest.hangs_iff.1 hangs).1
    rw [forest.root_eq_of_climb climb, root_of_parent_eq parent_eq]
    exact ⟨inside, rfl⟩
  · rintro ⟨inside, rfl⟩
    have root_le := forest.root_le i
    exact ⟨forest.climb_root inside,
      forest.hangs_iff.2 ⟨by omega, forest.parent_root i⟩⟩

theorem sameTree_root : SameTree forest.parents i (forest.root i) := by
  by_cases inside : i < forest.parents.size
  · exact Relation.EqvGen.reflTransGen_le_eqvGen _ _ _
      (forest.climb_root inside)
  · have alone : forest.parent i = i := by simp [parent, inside]
    rw [root_of_parent_eq alone]
    exact .refl i

theorem sameTree_iff :
    SameTree forest.parents i j ↔ forest.root i = forest.root j := by
  constructor
  · intro same
    induction same with
    | rel i j hangs => exact forest.root_eq_of_hangs hangs
    | refl i => rfl
    | symm i j _ ih => exact ih.symm
    | trans i j k _ _ first second => exact first.trans second
  · intro same
    have down : SameTree forest.parents (forest.root j) j :=
      .symm _ _ forest.sameTree_root
    exact .trans _ _ _ (same ▸ forest.sameTree_root) down

/-! ## Searching and joining -/

/-- The root of an index is the least index of its tree. -/
theorem isLeast_root : IsLeast {j | SameTree forest.parents i j}
    (forest.root i) := by
  refine ⟨forest.sameTree_root, fun j same => ?_⟩
  rw [forest.sameTree_iff.1 same]
  exact forest.root_le j

/-- An index that is hung onto its parent stays where it is. -/
theorem hang_parent (forest : Forest) (i : Nat) :
    forest.hang i (forest.parent i) (forest.parent_le_self i) = forest := by
  have parents_eq : forest.parents.setIfInBounds i (forest.parent i) =
      forest.parents := by
    apply Array.ext_getElem?
    intro j
    rw [Array.getElem?_setIfInBounds]
    split
    case isTrue same =>
      subst same
      split
      case isTrue inside => exact (forest.getElem?_parents inside).symm
      case isFalse outside => exact (Array.getElem?_eq_none (by omega)).symm
    case isFalse => rfl
  cases forest
  unfold hang
  simp only [parents_eq]

/-- Hanging the larger of two roots onto the smaller gives the members of its
tree the other root. -/
theorem root_hang_max_min {a b : Nat} (a_root : Hangs forest.parents a a)
    (b_root : Hangs forest.parents b b) (j : Nat) :
    (forest.hang (max a b) (min a b) min_le_max).root j =
      if forest.root j = max a b then min a b else forest.root j := by
  obtain ⟨a_inside, a_self⟩ := forest.hangs_iff.1 a_root
  obtain ⟨b_inside, b_self⟩ := forest.hangs_iff.1 b_root
  rcases Nat.lt_trichotomy a b with less | rfl | more
  · simp only [Nat.max_eq_right (Nat.le_of_lt less),
      Nat.min_eq_left (Nat.le_of_lt less)]
    exact forest.root_hang_root less b_inside b_self a_self j
  · have stays := forest.hang_parent a
    simp only [a_self] at stays
    simp only [Nat.max_self, Nat.min_self, stays]
    split
    case isTrue here => exact here
    case isFalse => rfl
  · simp only [Nat.max_eq_left (Nat.le_of_lt more),
      Nat.min_eq_right (Nat.le_of_lt more)]
    exact forest.root_hang_root more a_inside a_self b_self j

end Forest

/-- What the search for the root of an index finds, and what it leaves. -/
structure Searched (parents : Array Nat) (i root : Nat) (left : Array Nat) :
    Prop where
  /-- It ends, and stays inside the array. -/
  climbs : ∃ turns ≤ i, Climbs parents i turns root left
  root_le : root ≤ i
  rootOf : RootOf parents i root
  /-- The root is the least index of the tree. -/
  least : IsLeast {j | SameTree parents i j} root
  /-- All indices have the roots that they had. -/
  roots : ∀ j r, RootOf left j r ↔ RootOf parents j r
  ordered : Ordered left
  size : left.size = parents.size

/-- What is left when the larger of two roots is hung onto the smaller. -/
structure Joined (parents : Array Nat) (a b : Nat) (left : Array Nat) :
    Prop where
  inside : max a b < parents.size
  hung : left = parents.setIfInBounds (max a b) (min a b)
  /-- The members of the two trees are in one tree, and all others are where
  they were. -/
  merged : ∀ i j, SameTree left i j ↔ SameTree parents i j ∨
    (SameTree parents i a ∧ SameTree parents j b) ∨
      (SameTree parents i b ∧ SameTree parents j a)
  ordered : Ordered left

theorem Forest.searched_find (forest : Forest) {i : Nat}
    (inside : i < forest.parents.size) :
    Searched forest.parents i (forest.find i).1
      (forest.find i).2.parents where
  climbs := forest.climbs_find inside
  root_le := forest.find_le i
  rootOf := by
    rw [find_fst]
    exact forest.rootOf_iff.2 ⟨inside, rfl⟩
  least := by
    rw [find_fst]
    exact forest.isLeast_root
  roots j r := by
    rw [rootOf_iff, rootOf_iff, size_find, root_find]
  ordered := (forest.find i).2.ordered_parents
  size := forest.size_find i

theorem Forest.joined_hang (forest : Forest) {a b : Nat}
    (a_root : Hangs forest.parents a a) (b_root : Hangs forest.parents b b) :
    Joined forest.parents a b
      (forest.hang (max a b) (min a b) min_le_max).parents where
  inside := by
    have a_inside := (forest.hangs_iff.1 a_root).1
    have b_inside := (forest.hangs_iff.1 b_root).1
    omega
  hung := rfl
  merged i j := by
    have a_self := root_of_parent_eq (forest.hangs_iff.1 a_root).2
    have b_self := root_of_parent_eq (forest.hangs_iff.1 b_root).2
    simp only [sameTree_iff, forest.root_hang_max_min a_root b_root,
      a_self, b_self]
    split <;> split <;> omega
  ordered := Forest.ordered_parents _

/-- After two searches both roots are still roots, and joining the trees hangs
one onto the other. -/
theorem Forest.joined_union (forest : Forest) {i j : Nat}
    (i_inside : i < forest.parents.size) (j_inside : j < forest.parents.size)
    (apart : forest.root i ≠ forest.root j) :
    Joined ((forest.find i).2.find j).2.parents (forest.root i)
      (forest.root j) (forest.union i j).parents := by
  have still_root : ∀ k < forest.parents.size,
      Hangs ((forest.find i).2.find j).2.parents (forest.root k)
        (forest.root k) := by
    intro k inside
    have rootOf : RootOf ((forest.find i).2.find j).2.parents k
        (forest.root k) := by
      rw [rootOf_iff, size_find, size_find, root_find, root_find]
      exact ⟨inside, rfl⟩
    exact rootOf.2
  rw [union_eq, if_neg apart]
  exact joined_hang _ (still_root i i_inside) (still_root j j_inside)

/-! ## Stages of a partition -/

namespace Links

/-- The links after the first `n` of some commands. -/
def after (commands : List Command) (n : Nat) : Links :=
  (commands.zipIdx.take n).foldl seeCommand ⟨.singletons commands.length, []⟩

theorem within_seeCommand {links : Links} {n : Nat} (within : links.Within n)
    {item : Command × Nat} (inside : item.2 < n) :
    (seeCommand links item).Within n :=
  List.foldlRecOn (motive := (Within · n)) _ _ within
    fun _ kept account _ => within_see kept inside account

/-- At every stage the indices that are looked at are inside the array. -/
theorem within_after (commands : List Command) (n : Nat) :
    (after commands n).Within commands.length := by
  refine List.foldlRecOn (motive := (Within · commands.length)) _ _
    ⟨Forest.size_singletons _, nofun⟩ ?_
  intro links within item mem
  have bound := List.snd_lt_of_mem_zipIdx (List.mem_of_mem_take mem)
  exact within_seeCommand within (by omega)

end Links

/--
A search in an array in which no parent is larger than its child ends at the
least index of the tree, and hanging one root onto another joins their trees.
Both leave such an array. A partition does nothing else with the arrays it works
on, and no parent is larger than its child from start to end.
-/
theorem searched_and_joined (parents : Array Nat) (ordered : Ordered parents) :
    let forest := Forest.ofOrdered parents ordered
    (∀ i < parents.size,
      Searched parents i (forest.find i).1 (forest.find i).2.parents) ∧
    (∀ a b, Hangs parents a a → Hangs parents b b →
      Joined parents a b
        (forest.hang (max a b) (min a b) min_le_max).parents) ∧
    (∀ i < parents.size, ∀ j < parents.size,
      let first := forest.find i
      let second := first.2.find j
      if first.1 = second.1 then forest.union i j = second.2
      else Joined second.2.parents first.1 second.1
        (forest.union i j).parents) ∧
    ∀ commands n, Ordered (Links.after commands n).forest.parents ∧
      (Links.after commands n).Within commands.length := by
  intro forest
  refine ⟨fun i inside => forest.searched_find inside, ?_, ?_, ?_⟩
  · intro a b a_root b_root
    exact forest.joined_hang a_root b_root
  · intro i i_inside j j_inside first second
    have first_eq : first.1 = forest.root i := forest.find_fst i
    have second_eq : second.1 = forest.root j :=
      (first.2.find_fst j).trans (forest.root_find i j)
    rw [first_eq, second_eq]
    split
    case isTrue same =>
      rw [Forest.union_eq, if_pos same]
    case isFalse apart => exact forest.joined_union i_inside j_inside apart
  · intro commands n
    exact ⟨Forest.ordered_parents _, Links.within_after commands n⟩

/-- From the end of a path of five the search takes two turns, and the path is
half as long then; a second tree is hung onto the root. -/
theorem searched_and_joined_path :
    Ordered #[0, 0, 1, 2, 4, 3] ∧
      Searched #[0, 0, 1, 2, 4, 3] 5 0 #[0, 0, 0, 2, 4, 2] ∧
      Joined #[0, 0, 1, 2, 4, 3] 4 0 #[0, 0, 1, 2, 0, 3] := by
  have ordered : Ordered #[0, 0, 1, 2, 4, 3] := by decide
  obtain ⟨search, join, -⟩ := searched_and_joined _ ordered
  have climbs : Climbs #[0, 0, 1, 2, 4, 3] 5 2 0 #[0, 0, 0, 2, 4, 2] :=
    .halved rfl (by decide) rfl (.halved rfl (by decide) rfl (.arrived rfl))
  have searched := search 5 (by decide)
  obtain ⟨turns, -, climbs'⟩ := searched.climbs
  obtain ⟨-, root_eq, left_eq⟩ := climbs.unique climbs'
  rw [← root_eq, ← left_eq] at searched
  exact ⟨ordered, searched, join 4 0 rfl rfl⟩

end Passbook.Batch
