import Passbook.Journal
import Passbook.Operation
import Passbook.Register
import Passbook.Settlement

/-!
# The ledger of one owner at a time

The ledger that a sequence of commands works on: the open accounts, the journal,
and the highest number of any account ever opened. The next free id is the one
after that, so an id that was closed is never handed out again.

## Main results

* `run_require_of_some`, `run_require_of_none` — looking an account up changes
  nothing.
-/

namespace Passbook

/-- Open accounts, journal, and the highest account number ever in use. -/
structure Ledger where
  accounts : Register
  journal : Journal
  highest : Option Nat
deriving DecidableEq

namespace Ledger

/-- A ledger that was never used. -/
def empty : Ledger := ⟨.empty, .empty, none⟩

instance : Inhabited Ledger := ⟨empty⟩

/-- The id that the next account gets. -/
def nextId (ledger : Ledger) : Except Fault AccountId :=
  AccountId.issue (match ledger.highest with
    | some n => n + 1
    | none => 1)

/-- The account with this id. -/
def require (id : AccountId) : Transact Ledger Account := do
  match (← get).accounts.find? id with
  | some account => return account
  | none => throw (.accountNotFound id.text)

theorem run_require_of_some {ledger : Ledger} {id : AccountId}
    {account : Account} (h : ledger.accounts.find? id = some account) :
    (require id).run ledger = .ok account ledger := by
  simp [require, h]

theorem run_require_of_none {ledger : Ledger} {id : AccountId}
    (h : ledger.accounts.find? id = none) :
    (require id).run ledger = .error (.accountNotFound id.text) ledger := by
  simp [require, h]
  rfl

/-- Puts an account back under its id. -/
def put (account : Account) : Transact Ledger Unit :=
  modify fun ledger =>
    { ledger with accounts := ledger.accounts.insert account }

/-- Opens an account under a given id. -/
def openAs (id : AccountId) (owner : OwnerId) (kind : AccountKind) :
    Transact Ledger AccountId := do
  if ((← get).accounts.find? id).isSome then throw (.duplicateAccount id.text)
  let account ← Account.new id owner kind
  modify fun ledger =>
    { ledger with highest := some ((ledger.highest.getD 0).max id.number) }
  put account
  return id

/-- Opens an account under the next free id. -/
def openNext (owner : OwnerId) (kind : AccountKind) :
    Transact Ledger AccountId := do
  let id ← (← get).nextId
  openAs id owner kind

/-- Closes an account and hands it out. -/
def close (id : AccountId) : Transact Ledger Account := do
  let account ← require id
  modify fun ledger => { ledger with accounts := ledger.accounts.erase id }
  return account

/--
Lends two different accounts to an operation and takes them back as it leaves
them, whether it was refused or not.
-/
def withPair {α : Type} (source destination : AccountId)
    (act : Transact (Account × Account) α) :
    Transact Ledger α := do
  if source = destination then throw (.sameAccount source.text)
  let a ← require source
  let b ← require destination
  let result := act.run (a, b)
  let (a, b) := Transact.state result
  put b
  put a
  Transact.answer result

/-- Attaches a record to an account if that is open. -/
def attach (accounts : Register) (record : Nat) (id : AccountId) : Register :=
  match accounts.find? id with
  | some account => accounts.insert (account.attach record)
  | none => accounts

/-- Journals a transaction and attaches the record to the open accounts that it
concerns. -/
def append (clock : Clock) (transaction : Transaction) (status : Status) :
    Transact Ledger Record :=
  modifyGet fun ledger =>
    let now := clock.journal ledger.journal.size
    let (record, journal) := ledger.journal.commit now transaction status
    let accounts := record.concerned.foldl (attach · record.number)
      ledger.accounts
    (record, { ledger with journal, accounts })

end Ledger

end Passbook
