import Passbook.Proofs.Batch.Sequential
import Passbook.Proofs.Trail
import Passbook.Proofs.Workers

/-!
# Every schedule of the workers

Workers share the desk. Each has a group of a stage and executes its commands in
their order, step by step; nothing is said about whose step comes next. A stage
ends before the next one starts, and a command without a footprint is executed
while all workers rest.

An operation on a shared ledger is one step: it is carried out while the
accounts are held, and enters the journal at one point. Asking the gate and
noting an entry are steps of their own, before the accounts are held and after
they have been let go.

Whatever the schedule, what the desk looks like in the end is what it looks like
when all commands are executed in their order.

## Main results

* `Conducts.scene_eq` — stages worked off by any schedule, and in order.
* `conducts_schedule` — the order in which `process` goes is a schedule.
-/

namespace Passbook

open Bookkeeping Transact

/-- With which verdict the gate turns a command away, if it does. -/
def Desk.refusal : Except Fault Unit → Option Verdict
  | .ok _ => none
  | .error fault => some (verdict (.error fault))

/-! ## The steps on what a desk looks like -/

namespace Scene

/-- What the gate says on what a desk looks like. -/
def gate (scene : Scene) (command : Command) : Except Fault Unit :=
  Access.authorize (fun id => (scene.books.find? id).map (·.owner))
    command.principal command.operation

/-- What the steps of a worker do to what a desk looks like. -/
def workplace : Workplace Scene where
  gate scene command := Desk.refusal (scene.gate command)
  perform scene command :=
    let (answer, books) :=
      scene.books.carryOut (scene.books.decide command.operation)
    (Seen.verdict answer, { scene with books })
  note scene command verdict :=
    { scene with
      trail := {⟨command.principal.text, command.operation.action,
        command.operation.text, verdict⟩} + scene.trail }

theorem gate_congr {scene scene' : Scene} {command : Command}
    (same : ∀ id ∈ command.operation.accounts,
      scene.books.accounts id = scene'.books.accounts id) :
    scene.gate command = scene'.gate command := by
  apply Picture.authorize_congr
  intro id mem
  unfold Picture.find?
  rw [same id mem]

/-- A command with a footprint touches none but its accounts. -/
theorem touched_of_decide (picture : Picture) {command : Command}
    {posting : Posting} (confined : command.operation.footprint.isSome = true)
    (decided : picture.decide command.operation = .ok posting) :
    ∀ id ∈ posting.touched, id ∈ command.operation.accounts := by
  obtain ⟨footprint, footprint_eq⟩ := Option.isSome_iff_exists.1 confined
  have touched := Picture.touched_of_decide footprint_eq decided
  unfold Operation.accounts
  rw [footprint_eq]
  exact touched

theorem spares_decide (picture : Picture) {a b : Command}
    (a_confined : a.operation.footprint.isSome = true)
    (apart : ∀ id ∈ a.operation.accounts, id ∉ b.operation.accounts) :
    Picture.Spares (picture.decide a.operation) b.operation.accounts :=
  fun _ decided id mem touched =>
    apart id (touched_of_decide picture a_confined decided id touched) mem

variable {a b : Command}

/-- An operation leaves the accounts of another footprint. -/
theorem accounts_perform (scene : Scene)
    (b_confined : b.operation.footprint.isSome = true)
    (apart : ∀ id ∈ b.operation.accounts, id ∉ a.operation.accounts) :
    ∀ id ∈ a.operation.accounts,
      (workplace.perform scene b).2.books.accounts id =
        scene.books.accounts id :=
  fun _ mem => Picture.accounts_carryOut
    (spares_decide scene.books b_confined apart) mem

theorem decide_perform (scene : Scene)
    (b_confined : b.operation.footprint.isSome = true)
    (apart : ∀ id ∈ b.operation.accounts, id ∉ a.operation.accounts) :
    (workplace.perform scene b).2.books.decide a.operation =
      scene.books.decide a.operation :=
  Picture.decide_congr (scene.accounts_perform b_confined apart)

/-- Operations with disjoint footprints end alike, whichever goes first, and
leave the same. -/
theorem perform_comm (scene : Scene)
    (a_confined : a.operation.footprint.isSome = true)
    (b_confined : b.operation.footprint.isSome = true)
    (apart : ∀ id ∈ a.operation.accounts, id ∉ b.operation.accounts) :
    (workplace.perform (workplace.perform scene b).2 a).1 =
        (workplace.perform scene a).1 ∧
      (workplace.perform (workplace.perform scene b).2 a).2 =
        (workplace.perform (workplace.perform scene a).2 b).2 := by
  have apart' : ∀ id ∈ b.operation.accounts, id ∉ a.operation.accounts :=
    fun id b_mem a_mem => apart id a_mem b_mem
  have a_decided := scene.decide_perform b_confined apart'
  have b_decided := scene.decide_perform a_confined apart
  have ends_same : (Picture.carryOut (workplace.perform scene b).2.books
      (scene.books.decide a.operation)).1 =
        (scene.books.carryOut (scene.books.decide a.operation)).1 := by
    apply Picture.carryOut_fst_congr
    intro posting decided id mem
    exact scene.accounts_perform b_confined apart' id
      (touched_of_decide scene.books a_confined decided id mem)
  have books_same : (Picture.carryOut (workplace.perform scene b).2.books
      (scene.books.decide a.operation)).2 =
        (Picture.carryOut (workplace.perform scene a).2.books
          (scene.books.decide b.operation)).2 := by
    apply Picture.carryOut_comm
    intro posting posting' decided decided' id mem mem'
    exact apart id (touched_of_decide scene.books a_confined decided' id mem')
      (touched_of_decide scene.books b_confined decided id mem)
  constructor
  · show Seen.verdict (Picture.carryOut _ (Picture.decide _ _)).1 = _
    rw [a_decided, ends_same]
    rfl
  · show Scene.mk (Picture.carryOut _ (Picture.decide _ _)).2 scene.trail =
      Scene.mk (Picture.carryOut _ (Picture.decide _ _)).2 scene.trail
    rw [a_decided, b_decided, books_same]

/-- A command does not depend on commands with a disjoint footprint. -/
theorem independent (a_confined : a.operation.footprint.isSome = true)
    (b_confined : b.operation.footprint.isSome = true)
    (apart : ∀ id ∈ a.operation.accounts, id ∉ b.operation.accounts) :
    workplace.Independent a b where
  gate_perform scene :=
    congrArg Desk.refusal (gate_congr (scene.accounts_perform b_confined
      fun id b_mem a_mem => apart id a_mem b_mem))
  gate_note _ _ := rfl
  perform_fst scene := (scene.perform_comm a_confined b_confined apart).1
  perform_snd scene := (scene.perform_comm a_confined b_confined apart).2
  perform_note _ _ := rfl
  note_note scene verdict verdict' := by
    show Scene.mk scene.books ({_} + ({_} + scene.trail)) =
      Scene.mk scene.books ({_} + ({_} + scene.trail))
    rw [← Multiset.add_assoc, ← Multiset.add_assoc, Multiset.add_comm {_}]

end Scene

/-! ## The steps at a desk -/

namespace Desk

/-- What the steps of a worker do at a desk with a shared ledger. -/
def workplace (clock : Clock) : Workplace (Desk SharedLedger) where
  gate desk command := refusal (desk.gate command)
  perform desk command :=
    let result := (Bookkeeping.perform clock command.operation).run desk.books
    (verdict (answer result), { desk with books := state result })
  note desk command verdict :=
    { desk with
      trail := desk.trail.note
        { time := clock.audit desk.trail.size
          principal := command.principal.text
          action := command.operation.action
          details := command.operation.text
          verdict } }

/-- The steps of a command, one after the other, are its execution. -/
theorem execute_workplace (clock : Clock) (desk : Desk SharedLedger)
    (command : Command) :
    (workplace clock).execute desk command =
      (desk.execute clock command).2 := by
  have executed : (desk.execute clock command).2 =
      (workplace clock).note
        { desk with books := state ((attempt clock command).run desk.books) }
        command (verdict (answer ((attempt clock command).run desk.books))) :=
    rfl
  have gate_eq : (workplace clock).gate desk command =
    refusal (desk.gate command) := rfl
  have run := run_attempt clock command desk.books
  rw [executed]
  unfold Workplace.execute
  cases allowed : desk.gate command with
  | error fault =>
    unfold gate at allowed
    rw [allowed] at run
    rw [gate_eq, gate, allowed, run]
    rfl
  | ok _ =>
    unfold gate at allowed
    rw [allowed] at run
    rw [gate_eq, gate, allowed, run]
    rfl

theorem foldl_execute_workplace (clock : Clock) (desk : Desk SharedLedger)
    (commands : List Command) :
    commands.foldl (workplace clock).execute desk =
      (desk.executeAll clock commands).2 := by
  rw [executeAll_snd]
  congr 1
  funext desk command
  exact execute_workplace clock desk command

/-- Whether the histories at a desk point into its journal. -/
def Numbered (desk : Desk SharedLedger) : Prop :=
  (Bookkeeping.books desk.books).Numbered

/-- The steps of a command with a footprint, at a desk and on what the desk
looks like. -/
theorem mirrors_scene (clock : Clock) {command : Command}
    (confined : command.operation.footprint.isSome = true) :
    Workplace.Mirrors (workplace clock) Scene.workplace scene Numbered
      command where
  gate desk := by
    have gate_eq : desk.gate command = desk.scene.gate command := by
      unfold Scene.gate gate
      rw [← ownerOf?_picture]
      rfl
    exact congrArg refusal gate_eq
  perform desk numbered := by
    have drawn := SharedLedger.picture_perform clock numbered confined
    obtain ⟨answer_eq, picture_eq⟩ := Prod.mk.inj drawn
    have verdict_eq := verdict_seen
      (state ((Bookkeeping.perform clock command.operation).run
        desk.books)).journal
      (answer ((Bookkeeping.perform clock command.operation).run desk.books))
    rw [answer_eq] at verdict_eq
    exact Prod.ext verdict_eq.symm
      (congrArg (fun books => Scene.mk books desk.scene.trail) picture_eq)
  note desk _ :=
    congrArg (Scene.mk desk.scene.books) (coe_lines_note desk.trail _)

theorem numbered_step (clock : Clock) {shop : Workshop (Desk SharedLedger)}
    (numbered : Numbered shop.state) (item : Command × Nat) :
    Numbered ((workplace clock).step shop item).2.state := by
  have advanced : ∀ standing,
      Numbered ((workplace clock).advance shop.state item.1 standing).1 := by
    intro standing
    rcases standing with _ | (_ | verdict) | verdict
    · exact numbered
    · exact SharedLedger.numbered_next clock item.1.operation numbered
    · exact numbered
    · exact numbered
  exact advanced (shop.standing item.2)

end Desk

/-! ## A stage -/

namespace Batch

variable {desk desk' last : Desk SharedLedger} {clock : Clock}
  {commands : List Command} {stages : List Stage} {order : List (Command × Nat)}

/-- Different groups of a stage have different positions. -/
theorem groupsOf_apart (commands : List Command) :
    (groupsOf commands commands.zipIdx).Pairwise fun g h =>
      ∀ a ∈ g, ∀ b ∈ h, a.2 ≠ b.2 := by
  have positions : ((groupsOf commands commands.zipIdx).flatten.map
      Prod.snd).Nodup := by
    have perm : (groupsOf commands commands.zipIdx).flatten.Perm
        commands.zipIdx :=
      (interleaves_groupsOf List.length_zipIdx).perm.symm
    rw [(perm.map Prod.snd).nodup_iff, List.zipIdx_map_snd]
    exact List.nodup_range'
  rw [List.map_flatten, List.nodup_flatten, List.pairwise_map] at positions
  apply positions.2.imp
  intro g h disjoint a a_mem b b_mem same
  exact disjoint (List.mem_map_of_mem a_mem) (same ▸ List.mem_map_of_mem b_mem)

/-- Steps of different groups commute on what the desk looks like. -/
theorem groupsOf_steps_commute
    (confined : ∀ command ∈ commands,
      command.operation.footprint.isSome = true) :
    ((groupsOf commands commands.zipIdx).map (List.flatMap steps)).Pairwise
      fun g h => ∀ a ∈ g, ∀ b ∈ h, Commutes Scene.workplace.step a b := by
  have group_confined : ∀ group ∈ groupsOf commands commands.zipIdx,
      ∀ item ∈ group, item.1.operation.footprint.isSome = true := by
    intro group group_mem item mem
    have item_mem : item ∈ commands.zipIdx :=
      (interleaves_groupsOf List.length_zipIdx).perm.mem_iff.2
        (List.mem_flatten.2 ⟨group, group_mem, mem⟩)
    exact confined item.1 (List.fst_mem_of_mem_zipIdx item_mem)
  have disjoint :=
    groupsOf_independent Prod.fst (List.zipIdx_map_fst 0 commands)
  rw [List.pairwise_map]
  apply (disjoint.and (groupsOf_apart commands)).imp_of_mem
  rintro g h g_mem h_mem ⟨footprints, positions⟩ a a_mem b b_mem
  have a_mem := mem_of_mem_steps a_mem
  have b_mem := mem_of_mem_steps b_mem
  have a_confined := group_confined g g_mem a a_mem
  have b_confined := group_confined h h_mem b b_mem
  have apart := footprints a a_mem b b_mem
  exact Workplace.step_commutes (Scene.independent a_confined b_confined apart)
    (Scene.independent b_confined a_confined fun id b_names a_names =>
      apart id a_names b_names) (positions a a_mem b b_mem)

/-- Steps at commands with footprints look as they do on what the desk looks
like. -/
theorem map_scene_runItems (clock : Clock) {desk : Desk SharedLedger}
    (confined : ∀ item ∈ order, item.1.operation.footprint.isSome = true)
    (numbered : desk.Numbered) :
    Workshop.map Desk.scene
        (runItems (Desk.workplace clock).step (.idle desk) order).2 =
      (runItems Scene.workplace.step (.idle desk.scene) order).2 := by
  have simulates : ∀ shop : Workshop (Desk SharedLedger),
      shop.state.Numbered → ∀ item ∈ order,
        ((Desk.workplace clock).step shop item).1 =
            (Scene.workplace.step (shop.map Desk.scene) item).1 ∧
          Workshop.map Desk.scene ((Desk.workplace clock).step shop item).2 =
            (Scene.workplace.step (shop.map Desk.scene) item).2 := by
    intro shop good item mem
    exact ⟨rfl, (Desk.mirrors_scene clock (confined item mem)).map_step good⟩
  have start : (Workshop.idle desk).state.Numbered := numbered
  exact (runItems_view _ simulates
    (fun _ good item => Desk.numbered_step clock good item) start).2

/-- A stage by any schedule, and its commands in order. -/
theorem scene_shared (clock clock' : Clock)
    (confined : ∀ command ∈ commands,
      command.operation.footprint.isSome = true)
    (interleaves : Interleaves
      ((groupsOf commands commands.zipIdx).map (List.flatMap steps)) order)
    (same : desk.scene = desk'.scene) (numbered : desk.Numbered)
    (numbered' : desk'.Numbered) :
    (runItems (Desk.workplace clock).step (.idle desk) order).2.state.scene =
      (desk'.executeAll clock' commands).2.scene := by
  have groups : Interleaves (groupsOf commands commands.zipIdx)
    commands.zipIdx := interleaves_groupsOf List.length_zipIdx
  -- Command after command is one of the orders of the groups' steps, so both
  -- runs do the same to what the desk looks like.
  have in_order := groups.flatMap steps
  have same_run := interleaves.sameRun_of_interleaves in_order
    (groupsOf_steps_commute confined)
  have in_order_confined : ∀ item ∈ commands.zipIdx.flatMap steps,
      item.1.operation.footprint.isSome = true := by
    intro item mem
    exact confined item.1 (List.fst_mem_of_mem_zipIdx (mem_of_mem_steps mem))
  have order_confined : ∀ item ∈ order,
      item.1.operation.footprint.isSome = true := by
    intro item mem
    exact in_order_confined item
      ((interleaves.perm.trans in_order.perm.symm).mem_iff.1 mem)
  have executed : (runItems (Desk.workplace clock').step (.idle desk')
      (commands.zipIdx.flatMap steps)).2 =
        .idle (desk'.executeAll clock' commands).2 := by
    rw [Workplace.runItems_steps, List.zipIdx_map_fst,
      Desk.foldl_execute_workplace]
  have drawn := map_scene_runItems clock order_confined numbered
  have drawn' := map_scene_runItems clock' in_order_confined numbered'
  rw [executed, ← same, ← (same_run _).1, ← drawn] at drawn'
  exact (congrArg Workshop.state drawn').symm

/-! ## Stages -/

/-- What workers can make of a desk when they work off some stages. -/
inductive Conducts (clock : Clock) :
    List Stage → Desk SharedLedger → Desk SharedLedger → Prop
  | done {desk : Desk SharedLedger} : Conducts clock [] desk desk
  /-- The steps of the groups are taken in some order. -/
  | shared {commands : List Command} {stages : List Stage}
      {desk last : Desk SharedLedger} {order : List (Command × Nat)}
      (interleaves : Interleaves
        ((groupsOf commands commands.zipIdx).map (List.flatMap steps)) order)
      (later : Conducts clock stages
        (runItems (Desk.workplace clock).step (.idle desk) order).2.state
        last) :
      Conducts clock (.shared commands :: stages) desk last
  /-- A command without a footprint is executed with nothing beside it. -/
  | alone {command : Command} {stages : List Stage}
      {desk last : Desk SharedLedger}
      (later : Conducts clock stages (desk.execute clock command).2 last) :
      Conducts clock (.alone command :: stages) desk last

theorem numbered_runItems (clock : Clock) (order : List (Command × Nat))
    (numbered : desk.Numbered) :
    (runItems (Desk.workplace clock).step (.idle desk)
      order).2.state.Numbered := by
  have stays : ∀ shop : Workshop (Desk SharedLedger), shop.state.Numbered →
      ∀ item, ((Desk.workplace clock).step shop item).2.state.Numbered :=
    fun _ good item => Desk.numbered_step clock good item
  have start : (Workshop.idle desk).state.Numbered := numbered
  exact runItems_stays stays order start

theorem Conducts.numbered (conducts : Conducts clock stages desk last)
    (numbered : desk.Numbered) : last.Numbered := by
  induction conducts with
  | done => exact numbered
  | shared _ _ ih => exact ih (numbered_runItems clock _ numbered)
  | alone _ ih => exact ih (Desk.numbered_execute clock _ numbered)

/-- Stages worked off by any schedule leave a desk that looks like the one that
their commands leave in order. -/
theorem Conducts.scene_eq (conducts : Conducts clock stages desk last)
    (clock' : Clock) (confined : ∀ stage ∈ stages, stage.Confined)
    (same : desk.scene = desk'.scene) (numbered : desk.Numbered)
    (numbered' : desk'.Numbered) :
    last.scene =
      (desk'.executeAll clock' (stages.flatMap Stage.commands)).2.scene := by
  induction conducts generalizing desk' with
  | done => exact same
  | @shared commands stages desk last order interleaves _ ih =>
    rw [List.forall_mem_cons] at confined
    have stage_same := scene_shared clock clock' confined.1 interleaves same
      numbered numbered'
    have stage_numbered := numbered_runItems clock order numbered
    rw [List.flatMap_cons, Desk.executeAll_append]
    exact ih confined.2 stage_same stage_numbered
      (Desk.numbered_executeAll clock' commands numbered')
  | @alone command stages desk last _ ih =>
    rw [List.forall_mem_cons] at confined
    have command_same :=
      (Desk.execute_congr clock clock' command same numbered numbered').2
    exact ih confined.2 command_same
      (Desk.numbered_execute clock command numbered)
      (Desk.numbered_execute clock' command numbered')

/-- The order in which `process` goes is a schedule. -/
theorem conducts_schedule (clock : Clock) (stages : List Stage)
    (desk : Desk SharedLedger) :
    Conducts clock stages desk
      (desk.executeAll clock (stages.flatMap Stage.schedule)).2 := by
  induction stages generalizing desk with
  | nil => exact .done
  | cons stage rest ih =>
    rw [List.flatMap_cons, Desk.executeAll_append]
    cases stage with
    | alone command => exact .alone (ih _)
    | shared commands =>
      have in_turn := (interleaves_flatten
        (groupsOf commands commands.zipIdx)).flatMap steps
      have schedule_eq : (groupsOf commands commands.zipIdx).flatten.map
          Prod.fst = Stage.schedule (.shared commands) := by
        rw [List.map_flatten, map_fst_groupsOf]
        rfl
      have executed : (runItems (Desk.workplace clock).step (.idle desk)
          ((groupsOf commands commands.zipIdx).flatten.flatMap steps)).2 =
          .idle (desk.executeAll clock (Stage.schedule (.shared commands))).2 :=
        by rw [Workplace.runItems_steps, schedule_eq,
          Desk.foldl_execute_workplace]
      have later := ih (desk.executeAll clock
        (Stage.schedule (.shared commands))).2
      refine .shared in_turn ?_
      rw [executed]
      exact later

end Batch

end Passbook
