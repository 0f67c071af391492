import Passbook.Decimal.Arithmetic
import Passbook.Identifier
import Passbook.Instant

/-!
# Movements of money and their records

A `Transaction` says what is to be moved where. Once it is over it becomes a
`Record`: numbered, with a status and a time, and never changed again. A record
concerns the account that gave the money in any case, and the one that took it
only if the movement was completed.

## Main results

* `mem_concerned_iff` — which accounts a record is attached to.
* `effect?_failed` — a failed movement is worth nothing to anyone.
-/

namespace Passbook

/-- Where money comes from and goes to. -/
inductive Movement where
  | deposit (destination : AccountId)
  | withdrawal (source : AccountId)
  | transfer (source destination : AccountId)
  | interest (destination : AccountId)
deriving DecidableEq

namespace Movement

/-- The account that gives the money. -/
def source? : Movement → Option AccountId
  | withdrawal source | transfer source _ => some source
  | deposit _ | interest _ => none

/-- The account that takes the money. -/
def destination? : Movement → Option AccountId
  | deposit destination | transfer _ destination | interest destination =>
    some destination
  | withdrawal _ => none

/-- How a movement is named. -/
def name : Movement → String
  | deposit _ => "deposit"
  | withdrawal _ => "withdraw"
  | transfer .. => "transfer"
  | interest _ => "interest"

end Movement

/-- A movement of an amount of money. -/
structure Transaction where
  movement : Movement
  amount : Decimal
deriving DecidableEq

/-- How a movement ended. -/
inductive Status where
  | completed
  | failed
deriving DecidableEq

namespace Status

/-- How a status is written. -/
def text : Status → String
  | completed => "COMPLETED"
  | failed => "FAILED"

end Status

/-- What the journal keeps of a transaction. -/
structure Record extends Transaction where
  /-- The position in the journal, counted from 1. -/
  number : Nat
  status : Status
  time : Instant
deriving DecidableEq

namespace Record

/-- `TX` and the number in three digits or more. -/
def label (record : Record) : String :=
  String.ofList ('T' :: 'X' :: Text.zeroPadded 3 record.number)

/-- Whether the movement took place. -/
def isCompleted (record : Record) : Bool := record.status == .completed

/-- Whether the record names an account, completed or not. -/
def involves (record : Record) (account : AccountId) : Bool :=
  record.movement.source? == some account ||
    record.movement.destination? == some account

/-- The accounts to whose history a record belongs. -/
def concerned (record : Record) : List AccountId :=
  record.movement.source?.toList ++
    if record.isCompleted then record.movement.destination?.toList else []

theorem mem_concerned_iff {record : Record} {account : AccountId} :
    account ∈ record.concerned ↔ record.movement.source? = some account ∨
      (record.status = .completed ∧ record.movement.destination? =
        some account) := by
  unfold concerned isCompleted
  cases h : record.status <;> simp [Option.mem_toList]

/-- What a record adds to the balance of an account, if that is within range. -/
def effect? (record : Record) (account : AccountId) : Option Decimal :=
  if record.isCompleted then do
    let credited ←
      if record.movement.destination? = some account then
        Decimal.zero.add? record.amount
      else some Decimal.zero
    if record.movement.source? = some account then
      credited.sub? record.amount else some credited
  else some Decimal.zero

theorem effect?_failed {record : Record} (h : record.status = .failed)
    (account : AccountId) :
    record.effect? account = some .zero := by
  simp [effect?, isCompleted, h]

/-- The balance that the effects of some records add up to, starting from
nothing. -/
def replay? (account : AccountId) (records : List Record) : Option Decimal :=
  records.foldlM (fun balance record =>
    (record.effect? account).bind balance.add?) Decimal.zero

end Record

end Passbook
