import Mathlib.Data.List.Basic
import Mathlib.Logic.Relation
import Passbook.Proofs.Batch.Orders

/-!
# Groups are the components of what commands share

Two commands are linked if a chain of commands leads from one to the other in
which neighbours share an account of their footprints. The groups of a partition
are the classes of this relation: nothing is joined but what a chain links,
since a command is joined to another only if the other has named one of its
accounts, and the two trees have nothing in them that is not linked to their
roots.

Commands are told apart by their positions, as a list may have one twice.

## Main results

* `Links.sound_ofCommands` — nothing is joined that is not linked.
* `leader_eq_iff` — two positions have one root exactly if they are linked.
* `components_groups` — the positions under the roots make up the components.
* `partition_components` — the partition has the components of a list, in the
  order of their first commands.
-/

namespace Passbook.Batch

/-- Whether the command at a position names an account in its footprint. -/
def Names (commands : List Command) (account : AccountId) (i : Nat) : Prop :=
  ∃ command, commands[i]? = some command ∧
    account ∈ command.operation.footprint.getD []

/-- Whether the commands at two positions share an account. -/
def Shares (commands : List Command) (i j : Nat) : Prop :=
  ∃ account, Names commands account i ∧ Names commands account j

/-- Whether a chain of commands leads from one position to another in which
neighbours share an account. -/
def Linked (commands : List Command) : Nat → Nat → Prop :=
  Relation.ReflTransGen (Shares commands)

section

variable {commands : List Command} {i j k : Nat}

theorem Shares.symm (shares : Shares commands i j) : Shares commands j i :=
  let ⟨account, i_names, j_names⟩ := shares
  ⟨account, j_names, i_names⟩

theorem Linked.symm (linked : Linked commands i j) : Linked commands j i := by
  induction linked with
  | refl => exact .refl
  | tail _ shares back => exact .head shares.symm back

theorem Linked.trans (first : Linked commands i j)
    (second : Linked commands j k) : Linked commands i k :=
  Relation.ReflTransGen.trans first second

/-- A position that shares nothing with others is linked to itself only. -/
theorem Linked.eq_of_alone (linked : Linked commands i j)
    (alone : ∀ k, k ≠ i → ¬ Shares commands i k) : j = i := by
  induction linked with
  | refl => rfl
  | tail _ shares same =>
    rw [same] at shares
    exact Decidable.not_not.1 fun other => alone _ other shares

end

/-! ## Roots -/

namespace Links

/-- Whether only linked positions have one root, and the first position that
named an account has named it. -/
structure Sound (commands : List Command) (links : Links) : Prop where
  linked : ∀ i j, links.forest.root i = links.forest.root j →
    Linked commands i j
  named : ∀ account first, links.firstSeen.lookup account = some first →
    Names commands account first

variable {commands : List Command} {links : Links} {n index : Nat}

theorem Sound.see (sound : links.Sound commands) (within : links.Within n)
    (inside : index < n) {account : AccountId}
    (names : Names commands account index) :
    (Links.see index links account).Sound commands := by
  unfold Links.see
  split
  · rename_i first known
    have link : Linked commands index first :=
      .single ⟨account, names, sound.named account first known⟩
    refine ⟨?_, sound.named⟩
    intro i j same
    rcases links.forest.root_eq_of_root_union (within.1 ▸ inside)
        (within.1 ▸ within.2 account first known) same with
      same | ⟨i_same, j_same⟩ | ⟨i_same, j_same⟩
    · exact sound.linked i j same
    · exact (sound.linked i index i_same).trans
        (link.trans (sound.linked j first j_same).symm)
    · exact (sound.linked i first i_same).trans
        (link.symm.trans (sound.linked j index j_same).symm)
  · refine ⟨sound.linked, ?_⟩
    intro other first found
    rw [List.lookup_cons] at found
    by_cases same : other = account
    · rw [same, beq_self_eq_true] at found
      cases found
      exact same ▸ names
    · rw [beq_false_of_ne same] at found
      exact sound.named other first found

theorem Sound.foldl_see (sound : links.Sound commands)
    (within : links.Within n) (inside : index < n) {accounts : List AccountId}
    (names : ∀ account ∈ accounts, Names commands account index) :
    (accounts.foldl (Links.see index) links).Sound commands ∧
      (accounts.foldl (Links.see index) links).Within n := by
  induction accounts generalizing links with
  | nil => exact ⟨sound, within⟩
  | cons account rest ih =>
    rw [List.forall_mem_cons] at names
    exact ih (sound.see within inside names.1)
      (within_see within inside account) names.2

theorem Sound.foldl_seeCommand (sound : links.Sound commands)
    (within : links.Within commands.length) {numbered : List (Command × Nat)}
    (at_positions : ∀ item ∈ numbered, commands[item.2]? = some item.1) :
    (numbered.foldl seeCommand links).Sound commands := by
  induction numbered generalizing links with
  | nil => exact sound
  | cons item rest ih =>
    rw [List.forall_mem_cons] at at_positions
    have inside : item.2 < commands.length :=
      (List.getElem?_eq_some_iff.1 at_positions.1).1
    obtain ⟨item_sound, item_within⟩ := sound.foldl_see within inside
      fun account mem => ⟨item.1, at_positions.1, mem⟩
    exact ih item_sound item_within at_positions.2

/-- All links of commands are sound. -/
theorem sound_ofCommands (commands : List Command) :
    (ofCommands commands).Sound commands := by
  have nothing_linked : Links.Sound commands
      ⟨.singletons commands.length, []⟩ := by
    refine ⟨?_, fun _ _ found => by cases found⟩
    intro i j same
    rw [Forest.root_singletons, Forest.root_singletons] at same
    exact same ▸ .refl
  apply nothing_linked.foldl_seeCommand
  · exact ⟨Forest.size_singletons _, fun _ _ found => by cases found⟩
  · intro item mem
    exact List.mem_zipIdx_iff_getElem?.1 mem

end Links

section

variable {commands : List Command} {i j root : Nat}

/-- The root of a position. -/
def leader (commands : List Command) (i : Nat) : Nat :=
  (Links.ofCommands commands).forest.root i

theorem leader_le : leader commands i ≤ i :=
  Forest.root_le _ i

theorem leader_leader : leader commands (leader commands i) =
    leader commands i :=
  Forest.root_root _ i

/-- Two positions have one root exactly if they are linked. -/
theorem leader_eq_iff :
    leader commands i = leader commands j ↔ Linked commands i j := by
  constructor
  · exact (Links.sound_ofCommands commands).linked i j
  · intro linked
    induction linked with
    | refl => rfl
    | tail _ shares same =>
      obtain ⟨account, ⟨a, a_at, a_names⟩, b, b_at, b_names⟩ := shares
      exact same.trans (Links.root_eq_of_shared a_at b_at a_names b_names)

/-! ## Groups of positions -/

/-- The positions that are their own roots. -/
def leaders (commands : List Command) : List Nat :=
  (List.range commands.length).filter fun i => leader commands i == i

/-- The positions under a root. -/
def led (commands : List Command) (root : Nat) : List Nat :=
  (List.range commands.length).filter fun i => leader commands i == root

theorem mem_leaders :
    root ∈ leaders commands ↔
      root < commands.length ∧ leader commands root = root := by
  unfold leaders
  rw [List.mem_filter, List.mem_range, beq_iff_eq]

theorem mem_led :
    i ∈ led commands root ↔ i < commands.length ∧ leader commands i = root := by
  unfold led
  rw [List.mem_filter, List.mem_range, beq_iff_eq]

theorem mem_led_self (leads : root ∈ leaders commands) :
    root ∈ led commands root :=
  mem_led.2 (mem_leaders.1 leads)

theorem ascending_leaders : (leaders commands).Pairwise (· < ·) :=
  List.pairwise_lt_range.filter _

theorem ascending_led : (led commands root).Pairwise (· < ·) :=
  List.pairwise_lt_range.filter _

/-- A root is the first of the positions under it. -/
theorem head?_led (leads : root ∈ leaders commands) :
    (led commands root).head? = some root := by
  have root_mem := mem_led_self leads
  have ascending : (led commands root).Pairwise (· < ·) := ascending_led
  have above : ∀ i ∈ led commands root, root ≤ i :=
    fun i mem => (mem_led.1 mem).2 ▸ leader_le
  generalize led commands root = group at root_mem ascending above
  cases group with
  | nil => cases root_mem
  | cons first rest =>
    have root_le := above first List.mem_cons_self
    rcases List.mem_cons.1 root_mem with rfl | behind
    · rfl
    · have less := List.rel_of_pairwise_cons ascending behind
      omega

/-- A position that is linked to no other is alone under its root. -/
theorem led_of_alone (inside : i < commands.length)
    (alone : ∀ j, Linked commands i j → j = i) : led commands i = [i] := by
  have i_leads : leader commands i = i :=
    alone _ (leader_eq_iff.1 leader_leader.symm)
  have only : ∀ j ∈ led commands i, j = i := by
    intro j mem
    exact alone j (leader_eq_iff.1 (i_leads.trans (mem_led.1 mem).2.symm))
  have i_mem := mem_led.2 ⟨inside, i_leads⟩
  have ascending : (led commands i).Pairwise (· < ·) := ascending_led
  generalize led commands i = group at only i_mem ascending
  match group with
  | [] => cases i_mem
  | [j] => rw [only j List.mem_cons_self]
  | j :: k :: _ =>
    have less : j < k :=
      List.rel_of_pairwise_cons ascending List.mem_cons_self
    rw [only j List.mem_cons_self,
      only k (List.mem_cons_of_mem _ List.mem_cons_self)] at less
    omega

/-- The groups of the positions are what is under each root. -/
theorem groupsOf_range (commands : List Command) :
    groupsOf commands (List.range commands.length) =
      (leaders commands).map (led commands) := by
  rw [groupsOf_eq]
  apply List.map_congr_left
  intro root _
  rw [← List.map_prod_left_eq_zip, List.filter_map, List.map_map]
  exact List.map_id _

end

/-! ## Components -/

/-- Whether groups of positions are the components of some commands: the classes
of positions that are linked, as they stand in a partition. -/
structure Components (commands : List Command) (groups : List (List Nat)) :
    Prop where
  /-- Every position is in one group, and once. -/
  complete : groups.flatten.Perm (List.range commands.length)
  /-- A group has its positions in order. -/
  ascending : ∀ group ∈ groups, group.Pairwise (· < ·)
  nonempty : ∀ group ∈ groups, group ≠ []
  /-- Groups come in the order of their first positions. -/
  ordered : groups.Pairwise fun g h =>
    ∀ i ∈ g.head?, ∀ j ∈ h.head?, i < j
  /-- Positions are in one group exactly if they are linked. -/
  connected : ∀ i < commands.length, ∀ j < commands.length,
    (∃ group ∈ groups, i ∈ group ∧ j ∈ group) ↔ Linked commands i j
  /-- A command that shares nothing with others is a group by itself. -/
  alone : ∀ i < commands.length, (∀ j, j ≠ i → ¬ Shares commands i j) →
    [i] ∈ groups
  /-- Different groups have no account in common. -/
  apart : groups.Pairwise fun g h => ∀ account, ∀ i ∈ g, ∀ j ∈ h,
    Names commands account i → ¬ Names commands account j

section

variable {commands : List Command}

theorem perm_flatten_groups (commands : List Command) :
    ((leaders commands).map (led commands)).flatten.Perm
      (List.range commands.length) := by
  rw [← groupsOf_range]
  exact (interleaves_groupsOf List.length_range).perm.symm

theorem exists_group_iff {i j : Nat} (i_inside : i < commands.length)
    (j_inside : j < commands.length) :
    (∃ group ∈ (leaders commands).map (led commands),
      i ∈ group ∧ j ∈ group) ↔ Linked commands i j := by
  rw [← leader_eq_iff]
  constructor
  · rintro ⟨group, mem, i_mem, j_mem⟩
    obtain ⟨root, -, rfl⟩ := List.mem_map.1 mem
    rw [(mem_led.1 i_mem).2, (mem_led.1 j_mem).2]
  · intro same
    have leads : leader commands i ∈ leaders commands :=
      mem_leaders.2 ⟨Nat.lt_of_le_of_lt leader_le i_inside, leader_leader⟩
    exact ⟨_, List.mem_map.2 ⟨_, leads, rfl⟩, mem_led.2 ⟨i_inside, rfl⟩,
      mem_led.2 ⟨j_inside, same.symm⟩⟩

/-- What is under each root makes up the components. -/
theorem components_groups (commands : List Command) :
    Components commands ((leaders commands).map (led commands)) where
  complete := perm_flatten_groups commands
  ascending := by
    intro group mem
    obtain ⟨root, -, rfl⟩ := List.mem_map.1 mem
    exact ascending_led
  nonempty := by
    intro group mem
    obtain ⟨root, leads, rfl⟩ := List.mem_map.1 mem
    exact List.ne_nil_of_mem (mem_led_self leads)
  ordered := by
    rw [List.pairwise_map]
    refine ascending_leaders.imp_of_mem ?_
    intro root root' leads leads' less i i_first j j_first
    rw [head?_led leads] at i_first
    rw [head?_led leads'] at j_first
    cases i_first
    cases j_first
    exact less
  connected := fun i i_inside j j_inside => exists_group_iff i_inside j_inside
  alone := by
    intro i inside alone
    have eq := led_of_alone inside fun j linked => linked.eq_of_alone alone
    have leads : i ∈ leaders commands := by
      have mem : i ∈ led commands i := eq ▸ List.mem_singleton_self i
      exact mem_leaders.2 (mem_led.1 mem)
    exact List.mem_map.2 ⟨i, leads, eq⟩
  apart := by
    rw [List.pairwise_map]
    refine ascending_leaders.imp ?_
    intro root root' less account i i_mem j j_mem i_names j_names
    have same := leader_eq_iff.2 (.single ⟨account, i_names, j_names⟩)
    rw [(mem_led.1 i_mem).2, (mem_led.1 j_mem).2] at same
    omega

end

/-- Commands can be had back from their positions. -/
theorem filterMap_map_snd {commands : List Command}
    {numbered : List (Command × Nat)}
    (at_positions : ∀ item ∈ numbered, commands[item.2]? = some item.1) :
    (numbered.map Prod.snd).filterMap (fun i => commands[i]?) =
      numbered.map Prod.fst := by
  rw [List.filterMap_map, ← List.filterMap_eq_map]
  exact List.filterMap_congr at_positions

/-- A partition has the components of the commands, and of each component its
commands. -/
theorem partition_components (commands : List Command) :
    ∃ groups, Components commands groups ∧
      partition commands =
        groups.map (List.filterMap fun i => commands[i]?) := by
  refine ⟨_, components_groups commands, ?_⟩
  have snd : (groupsOf commands commands.zipIdx).map (List.map Prod.snd) =
      (leaders commands).map (led commands) := by
    rw [map_groupsOf, List.zipIdx_map_snd, ← groupsOf_range,
      List.range_eq_range']
  rw [← map_fst_groupsOf 0, ← snd, List.map_map]
  apply List.map_congr_left
  intro group mem
  refine (filterMap_map_snd ?_).symm
  intro item item_mem
  have items : commands.zipIdx.Perm
      (groupsOf commands commands.zipIdx).flatten :=
    (interleaves_groupsOf List.length_zipIdx).perm
  exact List.mem_zipIdx_iff_getElem?.1
    (items.mem_iff.2 (List.mem_flatten.2 ⟨group, mem, item_mem⟩))

end Passbook.Batch
