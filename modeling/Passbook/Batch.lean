import Passbook.Batch.Partition
import Passbook.Desk

/-!
# Batches

A batch is worked off in stages. Commands with a footprint that follow one
another form a stage, and its groups are independent of each other; a command
without a footprint is a stage by itself, with nothing beside it.

`process` works off the groups of a stage one after the other, in the order of
their first commands, which is one of the orders in which workers might get to
them.

## Main results

* `process_eq_executeAll` — processing a batch is executing its schedule.
-/

namespace Passbook.Batch

/-- Commands that may be worked off together. -/
inductive Stage where
  /-- Commands confined to footprints. -/
  | shared (commands : List Command)
  /-- A command that concerns the bank as a whole. -/
  | alone (command : Command)

/-- Closes a stage of commands in reverse order; no commands make no stage. -/
def closeStage (pending : List Command) : List Stage :=
  if pending.isEmpty then [] else [.shared pending.reverse]

/-- The stages of a batch that starts with the `pending` commands, last one
first. -/
def stagesFrom (pending : List Command) : List Command → List Stage
  | [] => closeStage pending
  | command :: rest =>
    if command.operation.footprint.isSome then
      stagesFrom (command :: pending) rest
    else closeStage pending ++ .alone command :: stagesFrom [] rest

/-- The stages of a batch. -/
def stages (batch : List Command) : List Stage := stagesFrom [] batch

/-- The commands of a stage in the order of its groups. -/
def Stage.schedule : Stage → List Command
  | .shared commands => (partition commands).flatten
  | .alone command => [command]

/-- The commands of a batch in the order in which they are worked off. -/
def schedule (batch : List Command) : List Command :=
    (stages batch).flatMap Stage.schedule

variable {β : Type} [Bookkeeping β]

/-- Works off a batch. -/
def process (clock : Clock) (desk : Desk β) (batch : List Command) :
    List Desk.Answered × Desk β :=
  desk.executeAll clock (schedule batch)

theorem process_eq_executeAll (clock : Clock) (desk : Desk β)
    (batch : List Command) :
    process clock desk batch = desk.executeAll clock (schedule batch) := rfl

end Passbook.Batch
