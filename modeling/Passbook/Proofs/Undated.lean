import Passbook.Proofs.Lawful

/-!
# Books but for the times of records

Two runs that are asked for the same read the clock at different times.
`undated` takes the time off a record, and off the records of an outcome. Books
agree if they have the same open accounts, the numbers in the histories
included, and the same records but for their times.

But for the time of its record, a posting does not depend on the clock: on books
that agree it answers the same and leaves books that agree, whatever the two
clocks say.

## Main results

* `Books.Agree.write` — a posting on books that agree.
* `Books.Agree.outcome_eq` — what is answered to it.
-/

namespace Passbook

/-- The record with its time taken off. -/
def Record.undated (record : Record) : Record := { record with time := default }

/-- The outcome with the times of its records taken off. -/
def Outcome.undated : Outcome → Outcome
  | recorded record => .recorded record.undated
  | credited records => .credited (records.map Record.undated)
  | outcome => outcome

/-- Whether two books have the same accounts, and the same records but for their
times. -/
structure Books.Agree (books books' : Books) : Prop where
  accounts : books.accounts = books'.accounts
  records : books.journal.records.map Record.undated =
    books'.journal.records.map Record.undated

namespace Posting

variable (clock clock' : Clock) (transaction : Transaction) (status : Status)

/-- But for its time, the next record depends on how many there are. -/
theorem undated_sealed {journal journal' : Journal}
    (size_eq : journal.size = journal'.size) :
    (sealed clock journal transaction status).undated =
      (sealed clock' journal' transaction status).undated := by
  show Record.mk transaction (journal.size + 1) status default =
    Record.mk transaction (journal'.size + 1) status default
  rw [size_eq]

/-- What a movement makes of an account does not depend on the time of the
record. -/
theorem settle_congr (balances : List (AccountId × Decimal))
    {record record' : Record} (same : record.undated = record'.undated) :
    settle balances record = settle balances record' := by
  have of_undated : ∀ record : Record,
      settle balances record.undated = settle balances record := fun _ => rfl
  rw [← of_undated, same, of_undated]

end Posting

namespace Books.Agree

open Posting

variable {books books' : Books}

theorem size_eq (agree : books.Agree books') :
    books.journal.size = books'.journal.size := by
  have sizes := congrArg Array.size agree.records
  rwa [Array.size_map, Array.size_map] at sizes

/-- A posting leaves books that agree. -/
theorem write (clock clock' : Clock) (agree : books.Agree books')
    (posting : Posting) :
    (posting.write clock books).Agree (posting.write clock' books') := by
  have accounts_eq := agree.accounts
  cases posting with
  | opened account =>
    exact ⟨congrArg (Register.insert · account) accounts_eq, agree.records⟩
  | closed id account =>
    exact ⟨congrArg (Register.erase · id) accounts_eq, agree.records⟩
  | amended id kind balance outcome =>
    refine ⟨?_, agree.records⟩
    exact congrArg (fun accounts : Register => accounts.map
      (Register.only id (amend kind balance))
      (Register.only_id id (amend_id kind balance))) accounts_eq
  | moved balances transaction status =>
    have record_eq := undated_sealed clock clock' transaction status
      agree.size_eq
    constructor
    · show books.accounts.map (settle balances _) (settle_id _ _) =
        books'.accounts.map (settle balances _) (settle_id _ _)
      rw [accounts_eq]
      apply Register.map_congr
      intro id account _
      exact congrFun (settle_congr balances record_eq) account
    · show (books.journal.records.push _).map Record.undated =
        (books'.journal.records.push _).map Record.undated
      rw [Array.map_push, Array.map_push, agree.records]
      exact congrArg _ record_eq

/-- A posting is answered the same. -/
theorem outcome_eq (clock clock' : Clock) (agree : books.Agree books')
    (posting : Posting) :
    (posting.outcome clock books).undated =
      (posting.outcome clock' books').undated := by
  cases posting with
  | moved balances transaction status =>
    have record_eq := undated_sealed clock clock' transaction status
      agree.size_eq
    obtain ⟨movement, amount⟩ := transaction
    cases movement with
    | interest id => exact congrArg (fun r => Outcome.credited [r]) record_eq
    | deposit | withdrawal | transfer =>
      exact congrArg Outcome.recorded record_eq
  | opened | closed | amended => rfl

end Books.Agree

end Passbook
