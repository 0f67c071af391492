import Passbook.Audit
import Passbook.Csv.Sheet
import Passbook.Fault
import Passbook.Account
import Passbook.Record
import Passbook.Room

/-!
# The tables that a run writes

Accounts, journal and audit trail are written as tables. Amounts have four
decimals. A number with 28 or more digits before the point is too wide for its
column: the rows before it stand, and the run ends there.

## Main results

* `deliver_unlimited` — whoever takes everything gets every complete table.
-/

namespace Passbook

/-- Why a run ended before its end. -/
inductive Halt where
  /-- A request of the run was refused. -/
  | refused (fault : Fault)
  /-- A number did not fit its column. -/
  | tooWide
  /-- There was no room for the workers or for a batch. -/
  | noRoom (shortage : Room.Shortage)
deriving DecidableEq

namespace Report

/-- An amount as it stands in a table. -/
def amountCell (amount : Decimal) : Option String := amount.fixed? moneyPlaces

/-- The accounts in ascending order of ids. -/
def accounts (accounts : List Account) : Csv.Sheet :=
  Csv.Sheet.ofRows ["account", "owner", "kind", "balance", "transactions"] <|
    (accounts.mergeSort fun a b => a.id ≤ b.id).map fun account =>
      (amountCell account.balance).map fun balance =>
        [account.id.text, account.owner.text, account.kind.name, balance,
          toString account.history.size]

/-- The journal in commit order. -/
def journal (records : List Record) : Csv.Sheet :=
  Csv.Sheet.ofRows
    ["tx", "kind", "from", "to", "amount", "status", "timestamp"] <|
    records.map fun record =>
      (amountCell record.amount).map fun amount =>
        [record.label, record.movement.name,
          (record.movement.source?.map AccountId.text).getD "",
          (record.movement.destination?.map AccountId.text).getD "",
          amount, record.status.text, record.time.text]

/-- The audit trail in order. -/
def audit (entries : List AuditEntry) : Csv.Sheet :=
  Csv.Sheet.ofRows ["timestamp", "principal", "action", "details", "outcome"] <|
    entries.map fun entry =>
      some [entry.time.text, entry.principal, entry.action, entry.details,
        entry.verdict.text]

/-! ## Delivering a table -/

/-- Tables go out in blocks of this many bytes, and the rest at the end. -/
def blockSize : Nat := 8192

/-- How many bytes have gone out in full blocks while this many were written. -/
def sentBlocks (written : Nat) : Nat := (written - 1) / blockSize * blockSize

/-- What the receiver of a table says once it takes no more. -/
def pipeClosed : Fault := .inputOutput "pipe closed"

/--
Sends a table to a receiver that takes so many bytes and no more, if there is a
limit. The receiver may be at its limit before the table breaks off at a number
that is too wide.
-/
def deliver (limit : Option Nat) (sheet : Csv.Sheet) : Except Halt String :=
  let written := sheet.text.utf8ByteSize
  let sent := if sheet.complete then written else sentBlocks written
  if limit.any (· < sent) then .error (.refused pipeClosed)
  else if sheet.complete then .ok sheet.text
  else .error .tooWide

theorem deliver_unlimited {sheet : Csv.Sheet} (h : sheet.complete) :
    deliver none sheet = .ok sheet.text := by
  simp [deliver, h]

end Report

end Passbook
