import Passbook.Batch.Partition
import Passbook.Proofs.Batch.Roots
import Passbook.Proofs.Interleaving

/-!
# Groups are independent of each other

Commands that share an account are linked, directly or through the first command
that named it, so they have one root and end up in one group. Commands of
different groups therefore share no account.

The groups of a list are cut out of it by roots alone, so they can be cut out of
any list that goes along with the commands, such as the commands with their
positions.

## Main results

* `root_eq_of_shared` — commands that share an account have one root.
* `groupsOf_independent` — commands of different groups share no account.
* `interleaves_groupsOf` — the list itself is an interleaving of its groups.
-/

namespace Passbook.Batch

namespace Links

/-- Whether every position that has named an account has the root of the first
one that did. -/
def Traces (links : Links) (named : AccountId → Nat → Prop) : Prop :=
  ∀ account index, named account index → ∃ first,
    links.firstSeen.lookup account = some first ∧ links.forest.root index =
      links.forest.root first

/-- Whether the links are among the first `n` positions. -/
def Within (links : Links) (n : Nat) : Prop :=
  links.forest.parents.size = n ∧
    ∀ account first, links.firstSeen.lookup account = some first → first < n

variable {links : Links} {named : AccountId → Nat → Prop} {n index : Nat}

theorem within_see (within : links.Within n) (inside : index < n)
    (account : AccountId) :
    (see index links account).Within n := by
  unfold see
  split
  · exact ⟨(links.forest.size_union _ _).trans within.1, within.2⟩
  · refine ⟨within.1, ?_⟩
    intro other first found
    rw [List.lookup_cons] at found
    by_cases same : other = account
    · rw [same, beq_self_eq_true] at found
      cases found
      exact inside
    · rw [beq_false_of_ne same] at found
      exact within.2 other first found

/-- Linking a position through an account keeps the roots of those before and
adds its own. -/
theorem traces_see (traces : links.Traces named) (within : links.Within n)
    (inside : index < n) (account : AccountId) :
    (see index links account).Traces fun other k => named other k ∨
      (other = account ∧ k = index) := by
  intro other k either
  cases known : links.firstSeen.lookup account with
  | some first =>
    have index_inside : index < links.forest.parents.size := within.1 ▸ inside
    have first_inside : first < links.forest.parents.size :=
      within.1 ▸ within.2 _ _ known
    have see_eq : see index links account =
        { links with forest := links.forest.union index first } := by
      unfold see
      rw [known]
    rw [see_eq]
    rcases either with old | ⟨rfl, rfl⟩
    · obtain ⟨found, found_eq, same⟩ := traces other k old
      exact ⟨found, found_eq, links.forest.root_union_of_eq index_inside
        first_inside same⟩
    · exact ⟨first, known, links.forest.root_union_self
        index_inside first_inside⟩
  | none =>
    have see_eq : see index links account =
        { links with firstSeen := (account, index) :: links.firstSeen } := by
      unfold see
      rw [known]
    rw [see_eq]
    rcases either with old | ⟨rfl, rfl⟩
    · obtain ⟨found, found_eq, same⟩ := traces other k old
      have ne : other ≠ account := by
        intro eq
        rw [eq, known] at found_eq
        cases found_eq
      refine ⟨found, ?_, same⟩
      rw [List.lookup_cons, beq_false_of_ne ne]
      exact found_eq
    · exact ⟨_, List.lookup_cons_self, rfl⟩

theorem Traces.imp {named' : AccountId → Nat → Prop}
    (traces : links.Traces named)
    (fewer : ∀ account k, named' account k → named account k) :
    links.Traces named' :=
  fun account k mem => traces account k (fewer account k mem)

/-- Linking a position through several accounts. -/
theorem traces_foldl_see (accounts : List AccountId)
    (traces : links.Traces named)
    (within : links.Within n) (inside : index < n) :
    (accounts.foldl (see index) links).Within n ∧
      (accounts.foldl (see index) links).Traces fun other k =>
        named other k ∨ (other ∈ accounts ∧ k = index) := by
  induction accounts generalizing links named with
  | nil =>
    refine ⟨within, traces.imp ?_⟩
    rintro other k (old | ⟨mem, -⟩)
    · exact old
    · cases mem
  | cons account rest ih =>
    obtain ⟨rest_within, rest_traces⟩ :=
      ih (traces_see traces within inside account)
      (within_see within inside account)
    refine ⟨rest_within, rest_traces.imp ?_⟩
    rintro other k (old | ⟨mem, rfl⟩)
    · exact Or.inl (Or.inl old)
    · rcases List.mem_cons.1 mem with rfl | mem
      · exact Or.inl (Or.inr ⟨rfl, rfl⟩)
      · exact Or.inr ⟨mem, rfl⟩

/-- Linking several commands. -/
theorem traces_foldl_seeCommand (numbered : List (Command × Nat))
    (traces : links.Traces named)
    (within : links.Within n) (inside : ∀ item ∈ numbered, item.2 < n) :
    (numbered.foldl seeCommand links).Traces fun account k =>
      named account k ∨ ∃ command, (command, k) ∈ numbered ∧
        account ∈ command.operation.accounts := by
  induction numbered generalizing links named with
  | nil =>
    apply traces.imp
    rintro account k (old | ⟨command, mem, -⟩)
    · exact old
    · cases mem
  | cons item rest ih =>
    obtain ⟨item_within, item_traces⟩ :=
      traces_foldl_see item.1.operation.accounts traces within
      (inside item List.mem_cons_self)
    have rest_traces := ih item_traces item_within fun other mem =>
      inside other (List.mem_cons_of_mem item mem)
    apply rest_traces.imp
    rintro account k (old | ⟨command, mem, names⟩)
    · exact Or.inl (Or.inl old)
    · rcases List.mem_cons.1 mem with rfl | mem
      · exact Or.inl (Or.inr ⟨names, rfl⟩)
      · exact Or.inr ⟨command, mem, names⟩

/-- Commands that share an account have one root. -/
theorem root_eq_of_shared {commands : List Command} {i j : Nat} {a b : Command}
    (a_at : commands[i]? = some a) (b_at : commands[j]? = some b)
    {account : AccountId} (a_names : account ∈ a.operation.accounts)
    (b_names : account ∈ b.operation.accounts) :
    (ofCommands commands).forest.root i =
      (ofCommands commands).forest.root j := by
  have nothing_named : Links.Traces ⟨.singletons commands.length, []⟩ fun _ _ =>
      False :=
    fun _ _ named => named.elim
  have within : Links.Within ⟨.singletons commands.length, []⟩
      commands.length :=
    ⟨Forest.size_singletons _, fun _ _ found => by cases found⟩
  have inside : ∀ item ∈ commands.zipIdx, item.2 < commands.length := by
    intro item mem
    have bound := List.snd_lt_of_mem_zipIdx mem
    omega
  have traces := traces_foldl_seeCommand commands.zipIdx
    nothing_named within inside
  obtain ⟨first, first_eq, a_root⟩ := traces account i
    (Or.inr ⟨a, List.mem_zipIdx_iff_getElem?.2 a_at, a_names⟩)
  obtain ⟨second, second_eq, b_root⟩ := traces account j
    (Or.inr ⟨b, List.mem_zipIdx_iff_getElem?.2 b_at, b_names⟩)
  rw [first_eq] at second_eq
  cases second_eq
  exact a_root.trans b_root.symm

end Links

/-! ## Cutting groups out of a list -/

theorem roots_eq (forest : Forest) (n : Nat) :
    (roots forest n).toList = (List.range n).map forest.root := by
  have fold : ∀ (indices : List Nat) (found : Array Nat) (current : Forest),
      (∀ i, current.root i = forest.root i) →
      ((indices.foldl (fun state i =>
        (state.1.push (state.2.find i).1, (state.2.find i).2))
          (found, current)).1).toList =
          found.toList ++ indices.map forest.root := by
    intro indices
    induction indices with
    | nil =>
      intro found current _
      simp
    | cons i rest ih =>
      intro found current same
      rw [List.foldl_cons]
      refine (ih _ _ ?_).trans ?_
      · intro j
        rw [Forest.root_find, same]
      · rw [Array.toList_push, Forest.find_fst, same, List.map_cons,
          List.append_assoc, List.singleton_append]
  exact fold (List.range n) #[] forest fun _ => rfl

/-- The items that go along with some commands, in the groups of these. -/
def groupsOf {α : Type} (commands : List Command) (items : List α) :
    List (List α) :=
  let roots := roots (Links.ofCommands commands).forest commands.length
  groupBy ((List.range commands.length).filter fun i => roots[i]? == some i)
    (items.zip roots.toList)

theorem partition_eq_groupsOf (commands : List Command) :
    partition commands = groupsOf commands commands := rfl

section

variable {α γ : Type}

theorem groupBy_append (keys keys' : List Nat) (keyed : List (α × Nat)) :
    groupBy (keys ++ keys') keyed = groupBy keys keyed ++ groupBy keys' keyed :=
  List.map_append

/-- An item whose key is not asked for is in no group. -/
theorem groupBy_cons_of_not_mem {keys : List Nat} {key : Nat}
    (other : key ∉ keys) (a : α) (keyed : List (α × Nat)) :
    groupBy keys ((a, key) :: keyed) = groupBy keys keyed := by
  apply List.map_congr_left
  intro k mem
  have ne : key ≠ k := fun eq => other (eq ▸ mem)
  rw [List.filter_cons_of_neg (by simp [ne])]

/-- A list is an interleaving of its groups, as long as all keys are asked for,
and each once. -/
theorem interleaves_groupBy {keys : List Nat} (nodup : keys.Nodup)
    (keyed : List (α × Nat)) (known : ∀ item ∈ keyed, item.2 ∈ keys) :
    Interleaves (groupBy keys keyed) (keyed.map (·.1)) := by
  induction keyed with
  | nil =>
    apply Interleaves.done
    intro group mem
    obtain ⟨key, -, rfl⟩ := List.mem_map.1 mem
    rfl
  | cons item rest ih =>
    obtain ⟨a, key⟩ := item
    have rest_interleaves :=
      ih fun other mem => known other (List.mem_cons_of_mem _ mem)
    obtain ⟨before, behind, rfl⟩ :=
      List.append_of_mem (known (a, key) List.mem_cons_self)
    rw [List.nodup_append, List.nodup_cons] at nodup
    obtain ⟨-, ⟨not_behind, -⟩, apart⟩ := nodup
    have not_before : key ∉ before :=
      fun mem => apart key mem key List.mem_cons_self rfl
    have first_group : groupBy [key] ((a, key) :: rest) =
        [a :: ((rest.filter (·.2 == key)).map (·.1))] := by
      unfold groupBy
      rw [List.map_singleton, List.filter_cons_of_pos (by simp), List.map_cons]
    rw [← List.singleton_append, groupBy_append,
      groupBy_append] at rest_interleaves ⊢
    rw [groupBy_cons_of_not_mem not_before, groupBy_cons_of_not_mem not_behind,
      first_group]
    exact .step rest_interleaves

theorem groupsOf_eq (commands : List Command) (items : List α) :
    groupsOf commands items =
      groupBy ((List.range commands.length).filter fun i =>
          (Links.ofCommands commands).forest.root i == i)
        (items.zip ((List.range commands.length).map
          (Links.ofCommands commands).forest.root)) := by
  unfold groupsOf
  dsimp only
  rw [roots_eq]
  congr 1
  apply List.filter_congr
  intro i mem
  have inside : i < commands.length := List.mem_range.1 mem
  rw [← Array.getElem?_toList, roots_eq, List.getElem?_map,
    List.getElem?_range inside]
  rfl

/-- A list is an interleaving of its groups. -/
theorem interleaves_groupsOf {commands : List Command} {items : List α}
    (along : items.length = commands.length) :
    Interleaves (groupsOf commands items) items := by
  have firsts : (items.zip ((List.range commands.length).map
      (Links.ofCommands commands).forest.root)).map (·.1) = items := by
    apply List.map_fst_zip
    rw [List.length_map, List.length_range]
    exact Nat.le_of_eq along
  have interleaves := interleaves_groupBy
    ((List.nodup_range (n := commands.length)).filter fun i =>
      (Links.ofCommands commands).forest.root i == i)
    (items.zip ((List.range commands.length).map
      (Links.ofCommands commands).forest.root)) (by
      intro item mem
      obtain ⟨i, i_mem, root_eq⟩ := List.mem_map.1 (List.of_mem_zip mem).2
      have inside : i < commands.length := List.mem_range.1 i_mem
      have root_le := (Links.ofCommands commands).forest.root_le i
      rw [← root_eq, List.mem_filter, List.mem_range, Forest.root_root]
      exact ⟨by omega, beq_self_eq_true _⟩)
  rw [firsts] at interleaves
  rw [groupsOf_eq]
  exact interleaves

/-- The items of a group stand where the root is the group's key. -/
theorem exists_position_of_mem_group {forest : Forest} {items : List α}
    {n key : Nat} {a : α}
    (mem : a ∈ ((items.zip ((List.range n).map forest.root)).filter
      (·.2 == key)).map (·.1)) :
    ∃ i : Nat, items[i]? = some a ∧ forest.root i = key := by
  obtain ⟨⟨b, k⟩, kept, rfl⟩ := List.mem_map.1 mem
  obtain ⟨zipped, key_eq⟩ := List.mem_filter.1 kept
  have key_eq : k = key := eq_of_beq key_eq
  obtain ⟨i, at_i⟩ := List.mem_iff_getElem?.1 zipped
  obtain ⟨item_at, root_at⟩ := List.getElem?_zip_eq_some.1 at_i
  rw [List.getElem?_map, Option.map_eq_some_iff] at root_at
  obtain ⟨j, j_at, root_eq⟩ := root_at
  have same : j = i := by
    obtain ⟨inside, eq⟩ := List.getElem?_eq_some_iff.1 j_at
    rw [List.getElem_range] at eq
    exact eq.symm
  exact ⟨i, item_at, by rw [← same, root_eq, key_eq]⟩

/-- Items of different groups share no account. -/
theorem groupsOf_independent {commands : List Command} {items : List α}
    (command : α → Command) (along : items.map command = commands) :
    (groupsOf commands items).Pairwise fun g h => ∀ a ∈ g, ∀ b ∈ h,
      ∀ account ∈ (command a).operation.accounts,
        account ∉ (command b).operation.accounts := by
  rw [groupsOf_eq, groupBy, List.pairwise_map]
  apply (List.nodup_range.filter _).imp
  intro key key' different a a_mem b b_mem account a_names b_names
  obtain ⟨i, a_at, a_root⟩ := exists_position_of_mem_group a_mem
  obtain ⟨j, b_at, b_root⟩ := exists_position_of_mem_group b_mem
  have a_command : commands[i]? = some (command a) := by
    rw [← along, List.getElem?_map, a_at, Option.map_some]
  have b_command : commands[j]? = some (command b) := by
    rw [← along, List.getElem?_map, b_at, Option.map_some]
  have same := Links.root_eq_of_shared a_command b_command a_names b_names
  exact different (a_root.symm.trans (same.trans b_root))

end

end Passbook.Batch
