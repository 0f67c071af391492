import Passbook.Access
import Passbook.Audit
import Passbook.Bookkeeping

/-!
# The desk: commands executed one after the other

A desk has the books and the audit trail. It executes a command in three steps:
it asks whether the principal may do it, performs it, and notes in the trail how
it ended. Whatever happens, there is one more entry in the trail.

## Main results

* `trail_execute` — executing a command notes exactly one entry.
* `executeAll_append` — a sequence of commands can be executed in two parts.
* `executeAll_snd` — what a sequence leaves behind is a fold over its commands.
-/

namespace Passbook

/-- Books and audit trail. -/
structure Desk (β : Type) where
  books : β
  trail : AuditTrail

namespace Desk

variable {β : Type} [Bookkeeping β]

/-- A desk at which nothing has happened. -/
def empty : Desk β := ⟨Bookkeeping.empty, .empty⟩

/-- The owner of an open account. -/
def ownerOf? (books : β) (account : AccountId) : Option OwnerId :=
  (Bookkeeping.accounts books).ownerOf? account

/-- What the trail says about an answer. -/
def verdict : Except Fault Outcome → Verdict
  | .ok (.recorded record) => if record.isCompleted then .completed else .failed
  | .ok _ => .completed
  | .error fault =>
    if fault.category = .accessDenied then .denied else .rejected

/-- The operation of a command, if its principal may ask for it. -/
def attempt (clock : Clock) (command : Command) : Transact β Outcome := do
  Access.authorize (ownerOf? (← get)) command.principal command.operation
  Bookkeeping.perform clock command.operation

/-- Executes a command and notes how it ended. -/
def execute (clock : Clock) (desk : Desk β) (command : Command) :
    Except Fault Outcome × Desk β :=
  let result := (attempt clock command).run desk.books
  let answer := Transact.answer result
  let entry : AuditEntry :=
    { time := clock.audit desk.trail.size
      principal := command.principal.text
      action := command.operation.action
      details := command.operation.text
      verdict := verdict answer }
  (answer, { books := Transact.state result, trail := desk.trail.note entry })

/-- A command with the answer to it. -/
abbrev Answered : Type := Command × Except Fault Outcome

/-- Executes commands in order. -/
def executeAll (clock : Clock) : Desk β → List Command → List Answered × Desk β
  | desk, [] => ([], desk)
  | desk, command :: rest =>
    let (answer, desk) := execute clock desk command
    let (answers, desk) := executeAll clock desk rest
    ((command, answer) :: answers, desk)

theorem trail_execute (clock : Clock) (desk : Desk β) (command : Command) :
    (execute clock desk command).2.trail.size = desk.trail.size + 1 := by
  simp [execute]

theorem executeAll_append (clock : Clock) (desk : Desk β)
    (first second : List Command) :
    executeAll clock desk (first ++ second) =
      let (answers, desk) := executeAll clock desk first
      let (answers', desk) := executeAll clock desk second
      (answers ++ answers', desk) := by
  induction first generalizing desk with
  | nil => rfl
  | cons command rest ih => simp [executeAll, ih]

theorem executeAll_snd (clock : Clock) (desk : Desk β)
    (commands : List Command) :
    (executeAll clock desk commands).2 =
      commands.foldl (fun desk command => (execute clock desk command).2)
        desk := by
  induction commands generalizing desk with
  | nil => rfl
  | cons command rest ih => simp [executeAll, ih]

end Desk

end Passbook
