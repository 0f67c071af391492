import Passbook.Proofs.Barrier
import Passbook.Proofs.Batch.Orders

/-!
# Working off a batch is executing it in order

Commands of different groups commute on what the desk looks like, so a stage
ends the same in every order in which it may be worked off. A command without a
footprint finds desks that look alike, and leaves desks that do. Stage after
stage, a batch comes to what it comes to in its own order.

Answers are compared as they look in the end; the journal only grows, so this is
how they looked when they were given.

## Main results

* `Worked.alike` — stages in one of their orders and in the order of the batch.
* `Worked.comesTo` — a batch in one of its orders and in its own.
* `process_comesTo` — the same for `process`, and for all orders of the groups
  that the partition makes.
-/

namespace Passbook

open Bookkeeping Transact

/-- An outcome looks the same later if the history it hands out points into the
journal. -/
theorem Outcome.seen_keeps {journal later : Journal}
    (keeps : journal.Keeps later) {outcome : Outcome}
    (holds : ∀ account, outcome = .closed account →
      journal.Holds account.history) :
    outcome.seen later = outcome.seen journal := by
  cases outcome with
  | closed account =>
    show Seen.closed (account.portrait later) =
      Seen.closed (account.portrait journal)
    unfold Account.portrait
    rw [keeps.select (holds account rfl)]
  | opened | recorded | credited | limited => rfl

namespace Desk

variable {desk desk' : Desk SharedLedger}

/-! ## Answers as they look in the end -/

/-- What is seen of the answers in the end, each with its item. -/
def seenAlong (items : List (Command × Nat))
    (result : List Answered × Desk SharedLedger) :
    List ((Command × Nat) × Except Fault Seen) :=
  items.zip (result.1.map fun answered =>
    answered.2.map (Outcome.seen result.2.books.journal))

/-- Executes a command, and answers what is seen of the answer right then. -/
def executeSeen (clock : Clock) (desk : Desk SharedLedger)
    (item : Command × Nat) :
    Except Fault Seen × Desk SharedLedger :=
  let result := desk.execute clock item.1
  (result.1.map (Outcome.seen result.2.books.journal), result.2)

theorem executeAll_cons {β : Type} [Bookkeeping β] (clock : Clock)
    (desk : Desk β) (command : Command) (rest : List Command) :
    desk.executeAll clock (command :: rest) =
      ((command, (desk.execute clock command).1) ::
          ((desk.execute clock command).2.executeAll clock rest).1,
        ((desk.execute clock command).2.executeAll clock rest).2) := rfl

/-- Every command is answered, in order. -/
theorem commands_executeAll {β : Type} [Bookkeeping β] (clock : Clock)
    (desk : Desk β) (commands : List Command) :
    (desk.executeAll clock commands).1.map Prod.fst = commands := by
  induction commands generalizing desk with
  | nil => rfl
  | cons command rest ih => rw [executeAll_cons, List.map_cons, ih]

theorem keeps_executeAll (clock : Clock) (desk : Desk SharedLedger)
    (commands : List Command) :
    desk.books.journal.Keeps
      (desk.executeAll clock commands).2.books.journal := by
  induction commands generalizing desk with
  | nil => exact .refl _
  | cons command rest ih =>
    have first : desk.books.journal.Keeps
        (desk.execute clock command).2.books.journal :=
      (performs_execute clock desk command).keeps
    exact first.trans (ih _)

/-- Answers look in the end as they did when they were given. -/
theorem runItems_executeSeen (clock : Clock) (items : List (Command × Nat))
    (numbered : (Bookkeeping.books desk.books).Numbered) :
    runItems (executeSeen clock) desk items =
      (seenAlong items (desk.executeAll clock (items.map Prod.fst)),
        (desk.executeAll clock (items.map Prod.fst)).2) := by
  induction items generalizing desk with
  | nil => rfl
  | cons item rest ih =>
    have performs := performs_execute clock desk item.1
    have kept : desk.books.journal.Keeps
        (desk.execute clock item.1).2.books.journal :=
      performs.keeps
    have kept_later := keeps_executeAll clock (desk.execute clock item.1).2
      (rest.map Prod.fst)
    have answer_same : (desk.execute clock item.1).1.map
        (Outcome.seen (desk.execute clock item.1).2.books.journal) =
          (desk.execute clock item.1).1.map (Outcome.seen
            ((desk.execute clock item.1).2.executeAll clock
              (rest.map Prod.fst)).2.books.journal) := by
      cases answered : (desk.execute clock item.1).1 with
      | error fault => rfl
      | ok outcome =>
        have holds : ∀ account, outcome = .closed account →
            desk.books.journal.Holds account.history := by
          rintro account rfl
          exact performs.holds_of_closed numbered answered
        refine congrArg Except.ok ?_
        rw [Outcome.seen_keeps kept holds,
          Outcome.seen_keeps (kept.trans kept_later) holds]
    rw [runItems_cons]
    show (((item, (desk.execute clock item.1).1.map _) ::
        (runItems (executeSeen clock) (desk.execute clock item.1).2 rest).1),
      (runItems (executeSeen clock) (desk.execute clock item.1).2 rest).2) = _
    rw [ih (numbered_execute clock item.1 numbered), answer_same]
    rfl

theorem numbered_executeSeen (clock : Clock) (item : Command × Nat)
    (numbered : (Bookkeeping.books desk.books).Numbered) :
    (Bookkeeping.books (desk.executeSeen clock item).2.books).Numbered :=
  numbered_execute clock item.1 numbered

end Desk

/-! ## A stage -/

/-- A command of a batch executed on what a desk looks like. -/
def Scene.executeItem (scene : Scene) (item : Command × Nat) :
    Except Fault Seen × Scene :=
  scene.execute item.1

namespace Batch

variable {desk desk' : Desk SharedLedger} {start : Nat}
  {commands : List Command}
  {stages : List Stage} {order : List (Command × Nat)}

/-- Whether two runs gave the same answers, in whatever order, and left desks
that look alike. -/
structure Alike (run run' : List ((Command × Nat) × Except Fault Seen) ×
    Desk SharedLedger) :
    Prop where
  answers : run.1.Perm run'.1
  scene : run.2.scene = run'.2.scene

/-- Commands with footprints are executed at a desk as on what the desk looks
like. -/
theorem runItems_scene (clock : Clock) {items : List (Command × Nat)}
    (confined : ∀ item ∈ items, item.1.operation.footprint.isSome = true)
    (numbered : (Bookkeeping.books desk.books).Numbered) :
    (runItems (Desk.executeSeen clock) desk items).1 =
      (runItems Scene.executeItem desk.scene items).1 ∧
      (runItems (Desk.executeSeen clock) desk items).2.scene =
        (runItems Scene.executeItem desk.scene items).2 := by
  apply runItems_view (fun desk => (Bookkeeping.books desk.books).Numbered)
    _ _ numbered
  · intro desk numbered item mem
    exact Prod.mk.inj (desk.scene_execute clock numbered (confined item mem))
  · intro desk numbered item
    exact Desk.numbered_executeSeen clock item numbered

/-- Items of different groups commute. -/
theorem groupsOf_commute {items : List (Command × Nat)}
    (along : items.map Prod.fst = commands) (confined : ∀ command ∈ commands,
      command.operation.footprint.isSome = true) :
    (groupsOf commands items).Pairwise fun g h =>
      ∀ a ∈ g, ∀ b ∈ h, Commutes Scene.executeItem a b := by
  have long : items.length = commands.length := by rw [← along, List.length_map]
  have item_confined : ∀ group ∈ groupsOf commands items, ∀ item ∈ group,
      item.1.operation.footprint.isSome = true := by
    intro group group_mem item mem
    have flat : item ∈ (groupsOf commands items).flatten :=
      List.mem_flatten.2 ⟨group, group_mem, mem⟩
    have item_mem : item ∈ items :=
      (interleaves_groupsOf long).perm.mem_iff.2 flat
    apply confined
    rw [← along]
    exact List.mem_map_of_mem item_mem
  apply (groupsOf_independent Prod.fst along).imp_of_mem
  intro g h g_mem h_mem apart a a_mem b b_mem
  exact Scene.execute_commutes (item_confined g g_mem a a_mem)
    (item_confined h h_mem b b_mem)
    (apart a a_mem b b_mem)

/-- A stage of commands with footprints, in an order of its groups and in its
own order. -/
theorem shared_alike (clock clock' : Clock)
    (confined : ∀ command ∈ commands, command.operation.footprint.isSome = true)
    (interleaves : Interleaves (groupsOf commands (commands.zipIdx start))
      order)
    (same : desk.scene = desk'.scene)
    (numbered : (Bookkeeping.books desk.books).Numbered)
    (numbered' : (Bookkeeping.books desk'.books).Numbered) :
    Alike (runItems (Desk.executeSeen clock) desk order)
      (runItems (Desk.executeSeen clock') desk' (commands.zipIdx start)) := by
  have in_order : Interleaves (groupsOf commands (commands.zipIdx start))
      (commands.zipIdx start) :=
    interleaves_groupsOf List.length_zipIdx
  have items_confined : ∀ item ∈ commands.zipIdx start,
      item.1.operation.footprint.isSome = true := by
    intro item mem
    exact confined item.1 (List.fst_mem_of_mem_zipIdx mem)
  have order_confined : ∀ item ∈ order,
      item.1.operation.footprint.isSome = true := by
    intro item mem
    exact items_confined item
      ((interleaves.perm.trans in_order.perm.symm).mem_iff.1 mem)
  have along : (commands.zipIdx start).map Prod.fst = commands :=
    List.zipIdx_map_fst _ _
  have same_run := interleaves.sameRun_of_interleaves in_order
    (groupsOf_commute along confined)
  obtain ⟨state_same, answers_same⟩ := same_run desk.scene
  obtain ⟨answers, drawn⟩ := runItems_scene clock order_confined numbered
  obtain ⟨answers', drawn'⟩ := runItems_scene clock' items_confined numbered'
  constructor
  · rw [answers, answers', ← same]
    exact answers_same
  · rw [drawn, drawn', ← same]
    exact state_same

/-! ## A batch -/

/-- Stages worked off in some order, and in their own order. -/
theorem Worked.alike (clock clock' : Clock) (worked : Worked start stages order)
    (confined : ∀ stage ∈ stages, stage.Confined) :
    ∀ {desk desk' : Desk SharedLedger}, desk.scene = desk'.scene →
      (Bookkeeping.books desk.books).Numbered →
        (Bookkeeping.books desk'.books).Numbered →
        Alike (runItems (Desk.executeSeen clock) desk order)
          (runItems (Desk.executeSeen clock') desk'
            ((stages.flatMap Stage.commands).zipIdx start)) := by
  induction worked with
  | done =>
    intro desk desk' same _ _
    exact ⟨List.Perm.nil, same⟩
  | @shared start commands stages order rest interleaves _ ih =>
    intro desk desk' same numbered numbered'
    rw [List.forall_mem_cons] at confined
    have stage := shared_alike clock clock' confined.1 interleaves same
      numbered numbered'
    have stays : ∀ (clock : Clock) (desk : Desk SharedLedger),
        (Bookkeeping.books desk.books).Numbered → ∀ item,
          (Bookkeeping.books (desk.executeSeen clock item).2.books).Numbered :=
      fun clock _ numbered item => Desk.numbered_executeSeen clock item numbered
    have later :=
      ih confined.2 stage.scene (runItems_stays (stays clock) order numbered)
      (runItems_stays (stays clock') (commands.zipIdx start) numbered')
    rw [zipIdx_cons_stage]
    show Alike _ (runItems _ desk' (commands.zipIdx start ++ _))
    rw [runItems_append, runItems_append]
    exact ⟨stage.answers.append later.answers, later.scene⟩
  | @alone start command stages rest _ ih =>
    intro desk desk' same numbered numbered'
    rw [List.forall_mem_cons] at confined
    obtain ⟨answer_same, scene_same⟩ :=
      Desk.execute_congr clock clock' command same numbered numbered'
    have later :=
      ih confined.2 scene_same (Desk.numbered_execute clock command numbered)
      (Desk.numbered_execute clock' command numbered')
    rw [zipIdx_cons_stage]
    show Alike _ (runItems _ desk' ((command, start) :: _))
    rw [runItems_cons, runItems_cons]
    refine ⟨?_, later.scene⟩
    show List.Perm ((_, (desk.execute clock command).1.map _) :: _)
      ((_, (desk'.execute clock' command).1.map _) :: _)
    rw [answer_same]
    exact later.answers.cons _

/-- A batch worked off in some order, and executed in its own order. -/
theorem Worked.alike_executeAll (desk : Desk SharedLedger)
    (clock clock' : Clock) {batch : List Command}
    (worked : Worked 0 (Batch.stages batch) order)
    (numbered : (Bookkeeping.books desk.books).Numbered) :
    let result := desk.executeAll clock (order.map Prod.fst)
    let sequential := desk.executeAll clock' batch
    Alike (Desk.seenAlong order result, result.2)
      (Desk.seenAlong batch.zipIdx sequential, sequential.2) := by
  have alike := worked.alike clock clock' (confined_stages batch) rfl
    numbered numbered
  have seen := Desk.runItems_executeSeen clock order numbered
  have seen' := Desk.runItems_executeSeen clock' batch.zipIdx numbered
  rw [List.zipIdx_map_fst] at seen'
  rw [commands_stages, seen, seen'] at alike
  exact alike

end Batch

/--
Whether two desks have the same open accounts with the same histories, the same
id to come, and, in whatever order, the same records and entries. Numbers and
times do not count.
-/
structure Desk.Matches (desk desk' : Desk SharedLedger) : Prop where
  accounts : ∀ id, (desk.books.accounts.find? id).map
    (Account.portrait desk.books.journal) =
    (desk'.books.accounts.find? id).map (Account.portrait desk'.books.journal)
  nextId : desk.books.nextId = desk'.books.nextId
  records : (desk.books.journal.records.toList.map Record.content).Perm
    (desk'.books.journal.records.toList.map Record.content)
  entries : (desk.trail.entries.toList.map AuditEntry.line).Perm
    (desk'.trail.entries.toList.map AuditEntry.line)

/-- Desks that look alike match. -/
theorem Desk.matches_of_scene_eq {desk desk' : Desk SharedLedger}
    (same : desk.scene = desk'.scene) :
    desk.Matches desk' where
  accounts id := congrArg (fun scene : Scene => scene.books.accounts id) same
  nextId := congrArg (fun scene : Scene =>
    AccountId.issue (scene.books.counter + 1).toNat) same
  records := Multiset.coe_eq_coe.1
    (congrArg (fun scene : Scene => scene.books.records) same)
  entries := Multiset.coe_eq_coe.1 (congrArg Scene.trail same)

namespace Batch

/--
Whether commands executed in some order come to what they come to in the order
of the batch: the desks match, and every command has one answer, the one it has
there.
-/
structure ComesTo (batch : List Command) (order : List (Command × Nat))
    (result sequential : List Desk.Answered × Desk SharedLedger) : Prop where
  desk : result.2.Matches sequential.2
  /-- The order has every command of the batch once. -/
  complete : order.Perm batch.zipIdx
  /-- The answers are to the commands in that order. -/
  answered : result.1.map Prod.fst = order.map Prod.fst
  /-- Each is what the command is answered in the order of the batch. -/
  answers : (Desk.seenAlong order result).Perm
    (Desk.seenAlong batch.zipIdx sequential)

/-- In whatever order a batch is worked off, it comes to what executing its
commands in order comes to. -/
theorem Worked.comesTo {books : SharedLedger} (reached : Reachable books)
    (trail : AuditTrail) (clock clock' : Clock) {batch : List Command}
    (worked : Worked 0 (stages batch) order) :
    ComesTo batch order
      (Desk.executeAll clock ⟨books, trail⟩ (order.map Prod.fst))
      (Desk.executeAll clock' ⟨books, trail⟩ batch) := by
  have alike := worked.alike_executeAll ⟨books, trail⟩ clock clock'
    reached.numbered
  have complete := worked.perm
  rw [commands_stages] at complete
  exact ⟨Desk.matches_of_scene_eq alike.scene, complete,
    Desk.commands_executeAll clock _ _, alike.answers⟩

/-- Processing a batch is executing its commands in one of the orders in which
it may be worked off. -/
theorem exists_worked_process (clock : Clock) (desk : Desk SharedLedger)
    (batch : List Command) :
    ∃ order, Worked 0 (stages batch) order ∧
      process clock desk batch =
        desk.executeAll clock (order.map Prod.fst) := by
  obtain ⟨order, worked, order_eq⟩ := exists_worked_schedule 0 (stages batch)
  refine ⟨order, worked, ?_⟩
  rw [process_eq_executeAll, order_eq]
  rfl

/--
Processing a batch comes to what executing its commands in order comes to, and
so does every order in which the groups of its stages may be worked off. The
groups are those of the partition.
-/
theorem process_comesTo {books : SharedLedger} (reached : Reachable books)
    (trail : AuditTrail) (clock clock' : Clock) (batch : List Command) :
    let desk : Desk SharedLedger := ⟨books, trail⟩
    let sequential := desk.executeAll clock' batch
    (∃ order, Worked 0 (stages batch) order ∧
      process clock desk batch = desk.executeAll clock (order.map Prod.fst) ∧
      ComesTo batch order (process clock desk batch) sequential) ∧
    (∀ order, Worked 0 (stages batch) order →
      ComesTo batch order (desk.executeAll clock (order.map Prod.fst))
        sequential) ∧
    ∀ start commands,
      (groupsOf commands (commands.zipIdx start)).map (List.map Prod.fst) =
        partition commands := by
  intro desk sequential
  refine ⟨?_, ?_, map_fst_groupsOf⟩
  · obtain ⟨order, worked, process_eq⟩ :=
      exists_worked_process clock desk batch
    refine ⟨order, worked, process_eq, ?_⟩
    rw [process_eq]
    exact worked.comesTo reached trail clock clock'
  · intro order worked
    exact worked.comesTo reached trail clock clock'

/-- A checking account to be opened by an administrator. -/
def openingOf (id : AccountId) (owner : OwnerId) : Command :=
  ⟨.administrator, .openAccount (some id) owner (.checking .zero)⟩

/-- Money to be paid in by an administrator. -/
def payingIn (id : AccountId) (amount : Decimal) : Command :=
  ⟨.administrator, .deposit id amount⟩

/-- Two accounts are opened, and money is paid into the first. `process` has
that done before it opens the second; the second may as well be opened before
all else. -/
theorem process_comesTo_openings :
    let first := openingOf ⟨1, by decide⟩ ⟨1, by decide⟩
    let second := openingOf ⟨2, by decide⟩ ⟨1, by decide⟩
    let paid := payingIn ⟨1, by decide⟩ .one
    let desk : Desk SharedLedger := ⟨.empty, .empty⟩
    let clock : Clock := .still default
    let batch := [first, second, paid]
    let order := [(second, 1), (first, 0), (paid, 2)]
    Reachable desk.books ∧
      partition batch = [[first, paid], [second]] ∧
      (process clock desk batch).1.map Prod.fst = [first, paid, second] ∧
      (process clock desk batch).2.Matches (desk.executeAll clock batch).2 ∧
      Worked 0 (stages batch) order ∧
      ComesTo batch order (desk.executeAll clock [second, first, paid])
        (desk.executeAll clock batch) := by
  intro first second paid desk clock batch order
  have groups_eq : groupsOf batch [(first, 0), (second, 1), (paid, 2)] =
      [[(first, 0), (paid, 2)], [(second, 1)]] := by
    unfold batch first second paid
    decide +kernel
  have exhausted : Interleaves ([] ++ ([] : List (Command × Nat)) :: [[]]) [] :=
    .done (by simp)
  have paid_last : Interleaves ([] ++ [(paid, 2)] :: [[]]) [(paid, 2)] :=
    .step exhausted
  have then_first :
      Interleaves ([[(first, 0), (paid, 2)]] ++ [] :: [])
        [(first, 0), (paid, 2)] :=
    .step paid_last
  have interleaves : Interleaves
      (groupsOf batch [(first, 0), (second, 1), (paid, 2)]) order := by
    rw [groups_eq]
    exact .step then_first
  have worked : Worked 0 (stages batch) order := .shared interleaves .done
  have reached : Reachable desk.books := .empty
  obtain ⟨⟨_, -, -, comes⟩, every, groups⟩ :=
    process_comesTo reached .empty clock clock batch
  have partition_eq : List.map (List.map Prod.fst)
      (groupsOf batch [(first, 0), (second, 1), (paid, 2)]) =
        partition batch := groups 0 batch
  rw [groups_eq] at partition_eq
  have schedule_eq : schedule batch = [first, paid, second] := by
    show (partition batch).flatten ++ [] = _
    rw [← partition_eq]
    rfl
  refine ⟨reached, partition_eq.symm, ?_, comes.desk, worked,
    every order worked⟩
  rw [process_eq_executeAll, schedule_eq]
  exact Desk.commands_executeAll clock desk _

end Batch

end Passbook
