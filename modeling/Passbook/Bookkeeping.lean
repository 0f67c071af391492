import Passbook.Ledger.Operations
import Passbook.SharedLedger.Operations

/-!
# Bookkeeping: what a desk needs of a ledger

Both ledgers can be asked for the same operations, so whoever works on one can
work on the other. `perform` carries out any operation and answers its outcome.
What both show is their books: the open accounts and the journal.

## Main results

* The instances for `Ledger` and `SharedLedger`.
-/

namespace Passbook

/-- The open accounts and the journal, which both ledgers have. -/
structure Books where
  accounts : Register
  journal : Journal

/-- The records attached to an account of the books. -/
def Books.history (books : Books) (id : AccountId) :
    Except Fault (List Record) :=
  match books.accounts.find? id with
  | some account => .ok (books.journal.select account.history)
  | none => .error (.accountNotFound id.text)

theorem Books.history_of_find? {books : Books} {id : AccountId}
    {account : Account} (found : books.accounts.find? id = some account) :
    books.history id = .ok (books.journal.select account.history) := by
  unfold history
  rw [found]

/-- The operations of a ledger, and what can be seen of it. -/
class Bookkeeping (β : Type) where
  /-- The books of a bank that has just been founded. -/
  empty : β
  accounts : β → Register
  journal : β → Journal
  nextId : β → Except Fault AccountId
  openAccount : Option AccountId → OwnerId → AccountKind → Transact β AccountId
  close : AccountId → Transact β Account
  deposit : Clock → AccountId → Decimal → Transact β Record
  withdraw : Clock → AccountId → Decimal → Transact β Record
  transfer : Clock → AccountId → AccountId → Decimal → Transact β Record
  creditInterest : Clock → AccountId → Transact β (Option Record)
  creditAll : Clock → Transact β (List Record)
  setLimit : AccountId → Decimal → Transact β Unit

namespace Bookkeeping

instance : Bookkeeping Ledger where
  empty := .empty
  accounts := Ledger.accounts
  journal := Ledger.journal
  nextId := Ledger.nextId
  openAccount := Ledger.openAccount
  close := Ledger.close
  deposit := Ledger.deposit
  withdraw := Ledger.withdraw
  transfer := Ledger.transfer
  creditInterest := Ledger.creditInterest
  creditAll := Ledger.creditAll
  setLimit := Ledger.setLimit

instance : Bookkeeping SharedLedger where
  empty := .empty
  accounts := SharedLedger.accounts
  journal := SharedLedger.journal
  nextId := SharedLedger.nextId
  openAccount := SharedLedger.openAccount
  close := SharedLedger.close
  deposit := SharedLedger.deposit
  withdraw := SharedLedger.withdraw
  transfer := SharedLedger.transfer
  creditInterest := SharedLedger.creditInterest
  creditAll := SharedLedger.creditAll
  setLimit := SharedLedger.setLimit

variable {β : Type} [Bookkeeping β]

/-- The books of a ledger. -/
def books (ledger : β) : Books := ⟨accounts ledger, journal ledger⟩

/-- The records attached to an account. -/
def history (ledger : β) (id : AccountId) : Except Fault (List Record) :=
  (books ledger).history id

/-- Carries out an operation. -/
def perform (clock : Clock) : Operation → Transact β Outcome
  | .openAccount account owner kind =>
    .opened <$> openAccount account owner kind
  | .closeAccount account => .closed <$> close account
  | .deposit account amount => .recorded <$> deposit clock account amount
  | .withdraw account amount => .recorded <$> withdraw clock account amount
  | .transfer source destination amount =>
    .recorded <$> transfer clock source destination amount
  | .creditInterest (some account) =>
    (fun record => .credited record.toList) <$> creditInterest clock account
  | .creditInterest none => .credited <$> creditAll clock
  | .setLimit account limit =>
    (fun _ => .limited account limit) <$> setLimit account limit

end Bookkeeping

end Passbook
