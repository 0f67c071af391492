import Passbook.Record

/-!
# The journal

Records are numbered 1, 2, 3, … in the order in which they are committed. Their
times never go back: a record takes the reading of the clock, or the time of the
record before it if that is later.

## Main results

* `records_commit`, `number_commit` — a commit appends one record, numbered by
  its position.
* `get?_eq_getElem?` — a record is looked up by its number.
-/

namespace Passbook

/-- All records of a ledger in commit order. -/
structure Journal where
  records : Array Record
  /-- The time of the last record. -/
  latest : Option Instant
deriving DecidableEq

namespace Journal

/-- The journal in which nothing has happened. -/
def empty : Journal := ⟨#[], none⟩

instance : Inhabited Journal := ⟨empty⟩

/-- How many records there are. -/
def size (journal : Journal) : Nat := journal.records.size

/-- Seals a transaction at a reading of the clock. -/
def commit (journal : Journal) (now : Instant) (transaction : Transaction)
    (status : Status) :
    Record × Journal :=
  let time := match journal.latest with
    | some latest => latest.later now
    | none => now
  let record : Record :=
    { transaction with number := journal.size + 1, status, time }
  (record, { records := journal.records.push record, latest := some time })

/-- The record with this number. -/
def get? (journal : Journal) : Nat → Option Record
  | 0 => none
  | n + 1 => journal.records[n]?

/-- The records that name an account, open or closed. -/
def involving (journal : Journal) (account : AccountId) : List Record :=
  journal.records.toList.filter (·.involves account)

/-- The records with these numbers; a number without a record is passed over. -/
def select (journal : Journal) (numbers : Array Nat) : List Record :=
  numbers.toList.filterMap journal.get?

variable (journal : Journal) (now : Instant) (transaction : Transaction)
  (status : Status)

@[simp] theorem records_commit :
    (journal.commit now transaction status).2.records =
      journal.records.push (journal.commit now transaction status).1 := rfl

@[simp] theorem number_commit :
    (journal.commit now transaction status).1.number = journal.size + 1 := rfl

@[simp] theorem size_commit :
    (journal.commit now transaction status).2.size = journal.size + 1 := by
  simp [size]

theorem get?_eq_getElem? {n : Nat} (h : 0 < n) :
    journal.get? n = journal.records[n - 1]? := by
  cases n with
  | zero => omega
  | succ n => rfl

end Journal

end Passbook
