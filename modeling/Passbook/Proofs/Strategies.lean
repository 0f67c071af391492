import Passbook.Proofs.Agreement
import Passbook.Proofs.Batch.Schedules
import Passbook.Proofs.Script
import Passbook.Proofs.Statement

/-!
# Row by row or in batches

A script can be run row by row on a ledger of one owner, or in batches on a
ledger that workers share. The two come to the same: the same table of accounts,
or the same reason why it could not be written, and statements that agree.

Three differences have to be bridged. The batches of a script have its commands
in order; the workers may be scheduled in any way; and the two ledgers are not
in the same state, though nothing can be seen of that as long as the counter of
the shared one does not run over.

## Main results

* `Desk.InStep.execute` — one command at desks with the two ledgers.
* `Batch.Conducts.agrees` — the statements at the end.
* `strategies_agree` — the two ways to run a script.
-/

namespace Passbook

open Bookkeeping Transact

/-- Whether a command takes a number for an account from the ledger. -/
def Command.takesNumber (command : Command) : Bool :=
  command.principal.isAdministrator && command.operation.opensNext

/-! ## Desks with the two ledgers -/

/-- What the trail says of an outcome does not depend on the times of its
records. -/
theorem Desk.verdict_undated (answer : Except Fault Outcome) :
    verdict (answer.map Outcome.undated) = verdict answer := by
  cases answer with
  | error fault => rfl
  | ok outcome => cases outcome <;> rfl

namespace Desk

/-- Whether desks with the two ledgers have gone the same way from the start,
with `tries` accounts that were to be opened under the next free id. -/
structure InStep (tries : Nat) (desk : Desk Ledger)
    (desk' : Desk SharedLedger) : Prop where
  books : Passbook.InStep tries desk.books desk'.books
  lines : desk.trail.entries.toList.map AuditEntry.line =
    desk'.trail.entries.toList.map AuditEntry.line

theorem inStep_empty : InStep 0 .empty .empty where
  books := Passbook.inStep_empty
  lines := rfl

/-- A command that the gate lets pass takes a number if its operation does. -/
theorem takesNumber_of_authorize {ownerOf? : AccountId → Option OwnerId}
    {command : Command}
    (allowed : Access.authorize ownerOf? command.principal command.operation =
      .ok ()) :
    command.takesNumber = command.operation.opensNext := by
  unfold Command.takesNumber
  cases opens : command.operation.opensNext with
  | false => exact Bool.and_false _
  | true =>
    cases operation_eq : command.operation with
    | openAccount given owner kind =>
      rw [operation_eq] at allowed
      rw [Bool.and_true]
      unfold Access.authorize Access.checkAdministrator at allowed
      dsimp only at allowed
      split at allowed
      · assumption
      · cases allowed
    | closeAccount | deposit | withdraw | transfer | creditInterest
    | setLimit =>
      rw [operation_eq] at opens
      cases opens

/-- The trail has one more line. -/
theorem lines_execute {β : Type} [Bookkeeping β] (clock : Clock)
    (desk : Desk β) (command : Command) :
    (desk.execute clock command).2.trail.entries.toList.map AuditEntry.line =
      desk.trail.entries.toList.map AuditEntry.line ++
        [⟨command.principal.text, command.operation.action,
          command.operation.text,
          verdict (desk.execute clock command).1⟩] :=
  lines_note desk.trail _

namespace InStep

variable {tries : Nat} {desk : Desk Ledger} {desk' : Desk SharedLedger}

theorem gate_eq (inStep : InStep tries desk desk') (command : Command) :
    desk.gate command = desk'.gate command := by
  have owners : ownerOf? desk.books = ownerOf? desk'.books :=
    funext fun id =>
      congrArg (Register.ownerOf? · id) inStep.books.books.accounts
  unfold gate
  rw [owners]

/-- Commands that end with the same verdict keep the trails in step. -/
theorem lines_execute_eq (inStep : InStep tries desk desk')
    {clock clock' : Clock} {command : Command}
    (same : (desk.execute clock command).1.map Outcome.undated =
      (desk'.execute clock' command).1.map Outcome.undated) :
    (desk.execute clock command).2.trail.entries.toList.map AuditEntry.line =
      (desk'.execute clock' command).2.trail.entries.toList.map
        AuditEntry.line := by
  have verdicts := congrArg verdict same
  rw [verdict_undated, verdict_undated] at verdicts
  rw [lines_execute, lines_execute, inStep.lines, verdicts]

/-- One command keeps desks in step. -/
theorem execute (clock clock' : Clock) (inStep : InStep tries desk desk')
    {command : Command} (made : command.operation.KindMade)
    (few : tries < enoughTries) :
    InStep (tries + command.takesNumber.toNat)
      (desk.execute clock command).2 (desk'.execute clock' command).2 := by
  have answers := answer_execute clock desk command
  have answers' := answer_execute clock' desk' command
  cases allowed : desk.gate command with
  | error fault =>
    have allowed' : desk'.gate command = .error fault :=
      inStep.gate_eq command ▸ allowed
    rw [allowed] at answers
    rw [allowed'] at answers'
    constructor
    · rw [books_execute_of_error allowed, books_execute_of_error allowed']
      exact inStep.books.mono (Nat.le_add_right _ _)
    · apply inStep.lines_execute_eq
      rw [answers, answers']
  | ok _ =>
    have allowed' : desk'.gate command = .ok () :=
      inStep.gate_eq command ▸ allowed
    have together := inStep.books.perform clock clock' made few
    rw [allowed] at answers
    rw [allowed'] at answers'
    rw [takesNumber_of_authorize allowed]
    constructor
    · rw [books_execute_of_ok allowed, books_execute_of_ok allowed']
      exact together.state
    · apply inStep.lines_execute_eq
      rw [answers, answers']
      exact together.answer

/-- Any number of commands keeps desks in step. -/
theorem executeAll (clock clock' : Clock) {commands : List Command}
    (inStep : InStep tries desk desk')
    (made : ∀ command ∈ commands, command.operation.KindMade)
    (few : tries + commands.countP Command.takesNumber < enoughTries) :
    InStep (tries + commands.countP Command.takesNumber)
      (desk.executeAll clock commands).2
      (desk'.executeAll clock' commands).2 := by
  induction commands generalizing desk desk' tries with
  | nil => exact inStep
  | cons command rest ih =>
    rw [List.forall_mem_cons] at made
    have count_eq : tries + (command :: rest).countP Command.takesNumber =
        tries + command.takesNumber.toNat +
          rest.countP Command.takesNumber := by
      rw [List.countP_cons]
      cases command.takesNumber with
      | false => rfl
      | true =>
        show tries + (_ + 1) = tries + 1 + _
        omega
    rw [count_eq] at few ⊢
    exact ih (inStep.execute clock clock' made.1 (by omega)) made.2 few

end InStep

end Desk

/-! ## Desks whose statements agree -/

/-- Journals with the same records but for their times say the same under all
numbers. -/
theorem Journal.contents_congr {journal journal' : Journal}
    (same : journal.records.map Record.undated =
      journal'.records.map Record.undated) (numbers : Array Nat) :
    (journal.select numbers).map Record.content =
      (journal'.select numbers).map Record.content := by
  have found_same : ∀ n, (journal.get? n).map Record.content =
      (journal'.get? n).map Record.content := by
    intro n
    cases n with
    | zero => rfl
    | succ n =>
      have found := congrArg (fun records : Array Record =>
        records[n]?.map Record.content) same
      rw [Array.getElem?_map, Array.getElem?_map, Option.map_map,
        Option.map_map] at found
      exact found
  unfold select
  rw [List.map_filterMap, List.map_filterMap]
  exact List.filterMap_congr fun n _ => found_same n

namespace Desk

/-- Desks that have gone the same way have statements that agree. -/
theorem InStep.agrees {tries : Nat} {desk : Desk Ledger}
    {desk' : Desk SharedLedger} (inStep : InStep tries desk desk')
    (numbered : (Bookkeeping.books desk.books).Numbered)
    (numbered' : (Bookkeeping.books desk'.books).Numbered) :
    (Run.Statement.ofDesk desk).Agrees (Run.Statement.ofDesk desk') := by
  have records_same := inStep.books.books.records
  apply Run.Statement.agrees_ofDesk numbered numbered'
  · unfold portraits
    have accounts_same : Bookkeeping.accounts desk.books =
        Bookkeeping.accounts desk'.books := inStep.books.books.accounts
    rw [accounts_same]
    apply List.map_congr_left
    intro account _
    unfold Account.portrait
    congr 1
    exact Journal.contents_congr records_same account.history
  · have contents : ∀ records : Array Record,
        records.toList.map Record.content =
          (records.map Record.undated).toList.map Record.content := by
      intro records
      rw [Array.toList_map, List.map_map]
      rfl
    have listed := congrArg (fun records : Array Record =>
      records.toList.map Record.content) records_same
    rw [← contents, ← contents] at listed
    exact .of_eq listed
  · exact .of_eq inStep.lines

/-- Desks that look alike have statements that agree. -/
theorem agrees_of_scene_eq {desk desk' : Desk SharedLedger}
    (same : desk.scene = desk'.scene)
    (numbered : (Bookkeeping.books desk.books).Numbered)
    (numbered' : (Bookkeeping.books desk'.books).Numbered) :
    (Run.Statement.ofDesk desk).Agrees (Run.Statement.ofDesk desk') := by
  have alike := matches_of_scene_eq same
  exact Run.Statement.agrees_ofDesk numbered numbered'
    (Register.map_toList_eq alike.accounts) alike.records alike.entries

end Desk

/-! ## Runs -/

namespace Run

/-- The batches of a script, once the workers are there and it is open. -/
def prepare (memory : Nat) (config : BatchConfig)
    (script : Except Fault Script.Content) :
    Except Halt (List (List Command)) := do
  (Strategy.batched config).start memory
  let script ← script.mapError .refused
  (Script.readBatches memory config.size script.results).mapError .noRoom

/-- Delivers the table of accounts of a desk, and its statement. -/
def conclude {β : Type} [Bookkeeping β] (limit : Option Nat) (desk : Desk β) :
    Except Halt (String × Statement) := do
  let text ← Report.deliver limit
    (Report.accounts (Statement.ofDesk desk).accounts)
  return (text, .ofDesk desk)

/-- What a run in batches may come to, however the workers are scheduled. -/
inductive Possible (clock : Clock) (memory : Nat) (config : BatchConfig)
    (limit : Option Nat) (script : Except Fault Script.Content) :
    Except Halt (String × Statement) → Prop
  | unprepared {halt : Halt}
      (stopped : prepare memory config script = .error halt) :
      Possible clock memory config limit script (.error halt)
  | conducted {batches : List (List Command)} {last : Desk SharedLedger}
      (prepared : prepare memory config script = .ok batches)
      (conducts :
        Batch.Conducts clock (batches.flatMap Batch.stages) .empty last) :
      Possible clock memory config limit script (conclude limit last)

/-- Whether two runs both end while the table of accounts is written, or both
write the same table and have statements that agree. -/
inductive Agree :
    Except Halt (String × Statement) → Except Halt (String × Statement) → Prop
  | broken {halt : Halt}
      (writing : halt = .refused Report.pipeClosed ∨ halt = .tooWide) :
      Agree (.error halt) (.error halt)
  | delivered {text : String} {statement statement' : Statement}
      (agrees : statement.Agrees statement') :
      Agree (.ok (text, statement)) (.ok (text, statement'))

theorem process_batched (clock : Clock) (memory : Nat) (config : BatchConfig)
    (limit : Option Nat) (script : Except Fault Script.Content) :
    process clock memory (.batched config) limit script =
      prepare memory config script >>= fun batches =>
        conclude limit (batched clock batches) := by
  unfold process prepare
  cases (Strategy.batched config).start memory with
  | error halt => rfl
  | ok _ =>
    cases script with
    | error fault => rfl
    | ok content =>
      show (statement clock memory (.batched config) content >>= _) =
        (Script.readBatches memory config.size content.results).mapError
          Halt.noRoom >>= _
      unfold statement
      dsimp only
      cases Script.readBatches memory config.size content.results <;> rfl

/-- What `process` comes to is possible. -/
theorem possible_process (clock : Clock) (memory : Nat) (config : BatchConfig)
    (limit : Option Nat) (script : Except Fault Script.Content) :
    Possible clock memory config limit script
      (process clock memory (.batched config) limit script) := by
  rw [process_batched]
  cases prepared : prepare memory config script with
  | error halt => exact .unprepared prepared
  | ok batches =>
    have schedule_eq : batches.flatMap Batch.schedule =
        (batches.flatMap Batch.stages).flatMap Batch.Stage.schedule := by
      rw [List.flatMap_assoc]
      rfl
    have conducts := Batch.conducts_schedule clock
      (batches.flatMap Batch.stages) .empty
    rw [← schedule_eq, ← batched_eq_executeAll] at conducts
    exact .conducted prepared conducts

/-- A script that can be opened is read in batches if there is room for the
workers and for a batch. -/
theorem prepare_eq_ok {memory : Nat} {config : BatchConfig}
    (workers_fit : (Strategy.batched config).start memory = .ok ())
    (batch_fits :
      Room.request memory config.size Script.commandRoom = .ok ())
    (content : Script.Content) :
    prepare memory config (.ok content) =
      .ok (Script.batches config.size content.results) := by
  have read := Script.readBatches_eq_ok_iff.2
    ⟨batch_fits, Eq.refl (Script.batches config.size content.results)⟩
  unfold prepare
  rw [workers_fit]
  show (Script.readBatches memory config.size content.results).mapError _ = _
  rw [read]
  rfl

/-- A table that is not delivered breaks off while it is written. -/
theorem writing_of_deliver {limit : Option Nat} {sheet : Csv.Sheet}
    {halt : Halt} (broken : Report.deliver limit sheet = .error halt) :
    halt = .refused Report.pipeClosed ∨ halt = .tooWide := by
  have two_ways : ∀ (closed complete : Bool) (text : String),
      (if closed then .error (.refused Report.pipeClosed)
        else if complete then .ok text else .error .tooWide) =
          Except.error halt →
        halt = .refused Report.pipeClosed ∨ halt = .tooWide := by
    intro closed complete text broken
    cases closed with
    | true => exact .inl (Except.error.inj broken).symm
    | false =>
      cases complete with
      | true => cases broken
      | false => exact .inr (Except.error.inj broken).symm
  exact two_ways _ _ _ broken

/-- Desks whose statements agree conclude alike. -/
theorem agree_conclude {β β' : Type} [Bookkeeping β] [Bookkeeping β']
    (limit : Option Nat) {desk : Desk β} {desk' : Desk β'}
    (agrees : (Statement.ofDesk desk).Agrees (Statement.ofDesk desk')) :
    Agree (conclude limit desk) (conclude limit desk') := by
  unfold conclude
  rw [Report.accounts_congr agrees.accounts]
  cases delivered : Report.deliver limit
      (Report.accounts (Statement.ofDesk desk').accounts) with
  | error halt => exact .broken (writing_of_deliver delivered)
  | ok text => exact .delivered agrees

end Run

/-- Batches, worked off by any schedule, come to a statement that agrees with
that of the commands row by row. -/
theorem Batch.Conducts.agrees {clock clock' : Clock} {size : Nat}
    {content : Script.Content} {last : Desk SharedLedger}
    (conducts : Conducts clock'
      ((Script.batches size content.results).flatMap Batch.stages) .empty last)
    (positive : 0 < size)
    (few : (Script.commands content.results).countP Command.takesNumber <
      2147483648) :
    (Run.Statement.ofDesk (Run.sequential clock
        (Script.commands content.results))).Agrees
      (Run.Statement.ofDesk last) := by
  have enough : 0 + (Script.commands content.results).countP
      Command.takesNumber < enoughTries := by
    rw [Nat.zero_add]
    exact Nat.lt_trans few (by decide)
  have in_order : ((Script.batches size content.results).flatMap
      Batch.stages).flatMap Stage.commands =
        Script.commands content.results := by
    rw [List.flatMap_assoc]
    simp only [commands_stages]
    rw [List.flatMap_id', Script.flatten_batches positive]
  have confined : ∀ stage ∈ (Script.batches size content.results).flatMap
      Batch.stages, stage.Confined := by
    intro stage mem
    obtain ⟨batch, -, mem⟩ := List.mem_flatMap.1 mem
    exact confined_stages batch stage mem
  -- The desk that goes through the commands in order on a shared ledger stands
  -- between the two: in step with the one, and looking like the other.
  have in_step := Desk.inStep_empty.executeAll clock clock'
    (Script.kindMade_commands content) enough
  have founded :
      (Bookkeeping.books (Desk.empty : Desk Ledger).books).Numbered :=
    Reachable.empty.numbered
  have founded' : (Desk.empty : Desk SharedLedger).Numbered :=
    Reachable.empty.numbered
  have numbered := Desk.numbered_executeAll clock
    (Script.commands content.results) founded
  have numbered' := Desk.numbered_executeAll clock'
    (Script.commands content.results) founded'
  have scene_same := conducts.scene_eq clock' confined rfl founded' founded'
  rw [in_order] at scene_same
  rw [Run.sequential_eq_executeAll]
  exact (in_step.agrees numbered numbered').trans
    (Desk.agrees_of_scene_eq scene_same.symm numbered'
      (conducts.numbered founded'))

/--
Whatever a script holds, however large the batches are, and however the workers
are scheduled: the script row by row and the script in batches come to the same,
as long as there is room for the workers and a batch, and fewer than half of the
numbers that the counter has are taken. What a run in batches comes to is one of
the possible results.
-/
theorem strategies_agree (clock clock' : Clock) {memory : Nat}
    {config : Run.BatchConfig} (limit : Option Nat) (content : Script.Content)
    (positive : 0 < config.size)
    (workers_fit : (Run.Strategy.batched config).start memory = .ok ())
    (batch_fits :
      Room.request memory config.size Script.commandRoom = .ok ())
    (few : (Script.commands content.results).countP Command.takesNumber <
      2147483648) :
    Run.Possible clock' memory config limit (.ok content)
        (Run.process clock' memory (.batched config) limit (.ok content)) ∧
      ∀ result, Run.Possible clock' memory config limit (.ok content) result →
        Run.Agree (Run.process clock memory .sequential limit (.ok content))
          result := by
  refine ⟨Run.possible_process clock' memory config limit (.ok content), ?_⟩
  intro result possible
  have prepared := Run.prepare_eq_ok workers_fit batch_fits content
  cases possible with
  | unprepared stopped =>
    rw [prepared] at stopped
    cases stopped
  | @conducted batches last read conducts =>
    rw [prepared] at read
    cases read
    exact Run.agree_conclude limit (conducts.agrees positive few)

/-- A script in which an account is opened and money paid into it, with a row
that is out of order. -/
def foundation : List UInt8 :=
  ("type,principal,account,to,owner,kind,amount\n" ++
    "open,admin,,,C001,savings,\n" ++
    "deposit,admin,ACC001,,,,many\n" ++
    "deposit,holder:C001,ACC001,,,,100\n").toUTF8.toList

theorem strategies_agree_foundation :
    let clock : Clock := .still default
    let config : Run.BatchConfig := ⟨2, .count 2⟩
    let content : Script.Content := .read foundation
    let result := Run.process clock 8192 (.batched config) none (.ok content)
    0 < config.size ∧
      (Run.Strategy.batched config).start 8192 = .ok () ∧
      Room.request 8192 config.size Script.commandRoom = .ok () ∧
      (Script.commands content.results).countP Command.takesNumber <
        2147483648 ∧
      Run.Possible clock 8192 config none (.ok content) result ∧
      Run.Agree (Run.process clock 8192 .sequential none (.ok content))
        result := by
  intro clock config content result
  have few : (Script.commands content.results).countP Command.takesNumber <
      2147483648 := by
    unfold content foundation
    decide +kernel
  have positive : 0 < config.size := by decide
  have workers_fit : (Run.Strategy.batched config).start 8192 = .ok () := rfl
  have batch_fits :
      Room.request 8192 config.size Script.commandRoom = .ok () := rfl
  obtain ⟨possible, agree⟩ := strategies_agree clock clock none content
    positive workers_fit batch_fits few
  exact ⟨positive, workers_fit, batch_fits, few, possible,
    agree result possible⟩

end Passbook
