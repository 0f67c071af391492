import Passbook.Batch
import Passbook.Report
import Passbook.Script

/-!
# Running a script

A script is run against a bank that has just been founded: row by row, or in
batches. Rows that are out of order are passed over. At the end there are the
accounts, the journal and the audit trail.

Batches have workers, who are there before the script is opened. A run ends at
once if there is no room for them, and as soon as the script is open if there is
no room for a batch.

## Main results

* `sequential_eq_executeAll` — one by one, the commands are executed in their
  order.
* `batched_eq_executeAll` — in batches, they are executed in the order of their
  schedules.
-/

namespace Passbook.Run

/-- How many commands a batch has unless told otherwise. -/
def defaultBatchSize : Nat := 1000

/-- How many workers there are. -/
inductive Workers where
  /-- One for each processor. -/
  | processors
  | count (n : Nat)
deriving DecidableEq

/-- How batches are worked off. -/
structure BatchConfig where
  size : Nat
  workers : Workers
deriving DecidableEq

/-- A configuration with these numbers, where zero asks for the default. -/
def BatchConfig.of (size workers : Nat) : BatchConfig where
  size := if size = 0 then defaultBatchSize else size
  workers := if workers = 0 then .processors else .count workers

/-- How a script is run. -/
inductive Strategy where
  /-- Row by row. -/
  | sequential
  /-- In batches. -/
  | batched (config : BatchConfig)
deriving DecidableEq

/-- The room for a worker: one word in the list of them, and a queue of 256
words. -/
def workerRoom : Room.Item := ⟨8, 2048⟩

/-- Takes on the workers on a machine with some bytes of memory. -/
def Strategy.start (memory : Nat) : Strategy → Except Halt Unit
  | .batched ⟨_, .count n⟩ =>
    (Room.request memory n workerRoom).mapError .noRoom
  | .batched ⟨_, .processors⟩ => .ok ()
  | .sequential => .ok ()

/-- Runs commands one by one. -/
def sequential (clock : Clock) (commands : List Command) : Desk Ledger :=
  commands.foldl (fun desk command => (desk.execute clock command).2) .empty

/-- Runs commands in batches. -/
def batched (clock : Clock) (batches : List (List Command)) :
    Desk SharedLedger :=
  batches.foldl (fun desk batch => (Batch.process clock desk batch).2) .empty

theorem sequential_eq_executeAll (clock : Clock) (commands : List Command) :
    sequential clock commands = (Desk.empty.executeAll clock commands).2 :=
  (Desk.executeAll_snd clock Desk.empty commands).symm

theorem batched_eq_executeAll (clock : Clock) (batches : List (List Command)) :
    batched clock batches =
      (Desk.empty.executeAll clock (batches.flatMap Batch.schedule)).2 := by
  unfold batched
  generalize (Desk.empty : Desk SharedLedger) = desk
  induction batches generalizing desk with
  | nil => rfl
  | cons batch rest ih =>
    rw [List.foldl_cons, ih, List.flatMap_cons, Desk.executeAll_append]
    rfl

/-- What there is at the end of a run. -/
structure Statement where
  accounts : List Account
  records : List Record
  audit : List AuditEntry
deriving DecidableEq

/-- The statement of a desk. -/
def Statement.ofDesk {β : Type} [Bookkeeping β] (desk : Desk β) :
    Statement where
  accounts := (Bookkeeping.accounts desk.books).toList
  records := (Bookkeeping.journal desk.books).records.toList
  audit := desk.trail.entries.toList

/-- The statement at the end of a script. -/
def statement (clock : Clock) (memory : Nat) (strategy : Strategy)
    (script : Script.Content) :
    Except Halt Statement :=
  match strategy with
  | .sequential =>
    .ok (.ofDesk (sequential clock (Script.commands script.results)))
  | .batched config =>
    match Script.readBatches memory config.size script.results with
    | .ok batches => .ok (.ofDesk (batched clock batches))
    | .error shortage => .error (.noRoom shortage)

/--
Runs a script, or ends with the fault that it cannot be opened, and delivers the
table of its accounts.
-/
def process (clock : Clock) (memory : Nat) (strategy : Strategy)
    (limit : Option Nat) (script : Except Fault Script.Content) :
    Except Halt (String × Statement) := do
  strategy.start memory
  let script ← script.mapError .refused
  let statement ← statement clock memory strategy script
  let text ← Report.deliver limit (Report.accounts statement.accounts)
  return (text, statement)

/-- The fault that a file cannot be opened. -/
def cannotOpen (path reason : String) : Fault :=
  .inputOutput s!"Failed to open file '{path}': {reason}"

/-- The fault that a file cannot be created. -/
def cannotCreate (path reason : String) : Fault :=
  .inputOutput s!"Failed to create file '{path}': {reason}"

end Passbook.Run
