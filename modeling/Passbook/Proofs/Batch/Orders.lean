import Passbook.Batch
import Passbook.Proofs.Batch.Groups

/-!
# The orders in which a batch may be worked off

The workers of a stage take its groups side by side, so its commands are
executed in some interleaving of the groups. A stage ends before the next one
starts. `Worked` has every order that can come of this; each command stands
there with its position in the batch, so that equal commands are told apart.

## Main results

* `exists_worked_schedule` — the order in which `process` goes is one of them.
* `Worked.perm` — each has every command of the batch exactly once.
-/

namespace Passbook.Batch

namespace Stage

/-- The commands of a stage as the batch has them. -/
def commands : Stage → List Command
  | shared commands => commands
  | alone command => [command]

/-- Whether all commands that may be worked off together have footprints. -/
def Confined : Stage → Prop
  | shared commands =>
    ∀ command ∈ commands, command.operation.footprint.isSome = true
  | alone _ => True

end Stage

/-- The orders in which stages may be worked off, with positions from `start`
on. -/
inductive Worked : Nat → List Stage → List (Command × Nat) → Prop
  | done {start : Nat} : Worked start [] []
  | shared {start : Nat} {commands : List Command} {stages : List Stage}
      {order rest : List (Command × Nat)}
      (interleaves : Interleaves (groupsOf commands (commands.zipIdx start))
        order)
      (later : Worked (start + commands.length) stages rest) :
      Worked start (.shared commands :: stages) (order ++ rest)
  | alone {start : Nat} {command : Command} {stages : List Stage}
    {rest : List (Command × Nat)}
      (later : Worked (start + 1) stages rest) :
      Worked start (.alone command :: stages) ((command, start) :: rest)

/-! ## Stages -/

theorem commands_closeStage (pending : List Command) :
    (closeStage pending).flatMap Stage.commands = pending.reverse := by
  unfold closeStage
  cases pending with
  | nil => rfl
  | cons command pending => exact List.append_nil _

theorem commands_stagesFrom (pending batch : List Command) :
    (stagesFrom pending batch).flatMap Stage.commands =
      pending.reverse ++ batch := by
  induction batch generalizing pending with
  | nil => rw [stagesFrom, commands_closeStage, List.append_nil]
  | cons command rest ih =>
    rw [stagesFrom]
    split
    · rw [ih, List.reverse_cons, List.append_assoc, List.singleton_append]
    · rw [List.flatMap_append, commands_closeStage, List.flatMap_cons, ih]
      rfl

/-- The stages have the commands of the batch in order. -/
theorem commands_stages (batch : List Command) :
    (stages batch).flatMap Stage.commands = batch :=
  commands_stagesFrom [] batch

theorem confined_closeStage {pending : List Command}
    (confined : ∀ command ∈ pending,
      command.operation.footprint.isSome = true) :
    ∀ stage ∈ closeStage pending, stage.Confined := by
  intro stage mem
  unfold closeStage at mem
  split at mem
  · cases mem
  · rw [List.mem_singleton.1 mem]
    intro command command_mem
    exact confined command (List.mem_reverse.1 command_mem)

theorem confined_stagesFrom {pending : List Command} (batch : List Command)
    (confined : ∀ command ∈ pending,
      command.operation.footprint.isSome = true) :
    ∀ stage ∈ stagesFrom pending batch, stage.Confined := by
  induction batch generalizing pending with
  | nil => exact confined_closeStage confined
  | cons command rest ih =>
    rw [stagesFrom]
    split
    · rename_i has_footprint
      apply ih
      intro other mem
      rcases List.mem_cons.1 mem with rfl | mem
      · exact has_footprint
      · exact confined other mem
    · intro stage mem
      rcases List.mem_append.1 mem with before | behind
      · exact confined_closeStage confined stage before
      · rcases List.mem_cons.1 behind with rfl | behind
        · exact trivial
        · exact ih (List.forall_mem_nil _) stage behind

/-- Commands that may be worked off together have footprints. -/
theorem confined_stages (batch : List Command) :
    ∀ stage ∈ stages batch, stage.Confined :=
  confined_stagesFrom batch (List.forall_mem_nil _)

/-! ## Orders -/

theorem zipIdx_cons_stage (start : Nat) (stage : Stage) (stages : List Stage) :
    ((stage :: stages).flatMap Stage.commands).zipIdx start =
      stage.commands.zipIdx start ++
        (stages.flatMap Stage.commands).zipIdx
          (start + stage.commands.length) := by
  rw [List.flatMap_cons, List.zipIdx_append]

/-- The groups of commands are the groups of what goes along with them. -/
theorem map_groupsOf {α β : Type} (f : α → β) (commands : List Command)
    (items : List α) :
    (groupsOf commands items).map (List.map f) =
      groupsOf commands (items.map f) := by
  unfold groupsOf groupBy
  dsimp only
  rw [List.map_map]
  apply List.map_congr_left
  intro key _
  rw [List.zip_map_left, List.filter_map, Function.comp_apply, List.map_map,
    List.map_map]
  rfl

/-- The groups with their positions are the groups of the partition. -/
theorem map_fst_groupsOf (start : Nat) (commands : List Command) :
    (groupsOf commands (commands.zipIdx start)).map (List.map Prod.fst) =
      partition commands := by
  rw [map_groupsOf, List.zipIdx_map_fst, partition_eq_groupsOf]

/-- The schedule of some stages is one of the orders in which they may be worked
off. -/
theorem exists_worked_schedule (start : Nat) (stages : List Stage) :
    ∃ order, Worked start stages order ∧ order.map Prod.fst =
      stages.flatMap Stage.schedule := by
  induction stages generalizing start with
  | nil => exact ⟨[], .done, rfl⟩
  | cons stage rest ih =>
    cases stage with
    | shared commands =>
      obtain ⟨order, worked, order_eq⟩ := ih (start + commands.length)
      refine ⟨_, .shared (interleaves_flatten _) worked, ?_⟩
      rw [List.map_append, List.map_flatten, map_fst_groupsOf, order_eq]
      rfl
    | alone command =>
      obtain ⟨order, worked, order_eq⟩ := ih (start + 1)
      exact ⟨_, .alone worked, congrArg _ order_eq⟩

/-- An order has every command exactly once. -/
theorem Worked.perm {start : Nat} {stages : List Stage}
    {order : List (Command × Nat)} (worked : Worked start stages order) :
    order.Perm ((stages.flatMap Stage.commands).zipIdx start) := by
  induction worked with
  | done => exact .refl _
  | @shared start commands stages order rest interleaves _ ih =>
    rw [zipIdx_cons_stage]
    have items : (groupsOf commands (commands.zipIdx start)).flatten.Perm
        (commands.zipIdx start) :=
      (interleaves_groupsOf List.length_zipIdx).perm.symm
    exact (interleaves.perm.trans items).append ih
  | @alone start command stages rest _ ih =>
    rw [zipIdx_cons_stage]
    exact ih.cons _

end Passbook.Batch
