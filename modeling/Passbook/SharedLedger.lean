import Passbook.Journal
import Passbook.Operation
import Passbook.Register
import Passbook.Settlement

/-!
# The ledger that several workers share

Workers hold the accounts they need, one or two at a time, and journal while
they hold them: a record is attached to the accounts that are held, and to no
other. Numbers for new accounts come from a 32-bit counter which is advanced
before each attempt, so two workers never get the same number; an attempt that
meets an occupied id tries the next one.

Each operation here is one atomic step of a worker.

## Main results

* `nextCounter_measure` — the search for a free id comes closer to the last id
  with each attempt.
-/

namespace Passbook

/-- Open accounts, journal, and the counter of account numbers. -/
structure SharedLedger where
  accounts : Register
  journal : Journal
  counter : UInt32
deriving DecidableEq

namespace SharedLedger

/-- A ledger that was never used. -/
def empty : SharedLedger := ⟨.empty, .empty, 0⟩

instance : Inhabited SharedLedger := ⟨empty⟩

/-- The id that the next account is tried under. -/
def nextId (ledger : SharedLedger) : Except Fault AccountId :=
  AccountId.issue (ledger.counter + 1).toNat

/-- The account with this id. -/
def hold (id : AccountId) : Transact SharedLedger Account := do
  match (← get).accounts.find? id with
  | some account => return account
  | none => throw (.accountNotFound id.text)

/-! ## Opening and closing -/

/-- Opens an account under a given id; the kind is checked before the id. -/
def openAs (id : AccountId) (owner : OwnerId) (kind : AccountKind) :
    Transact SharedLedger AccountId := do
  let account ← Account.new id owner kind
  if ((← get).accounts.find? id).isSome then throw (.duplicateAccount id.text)
  modify fun ledger => { ledger with
    accounts := ledger.accounts.insert account
    counter := max ledger.counter (UInt32.ofNat id.number) }
  return id

/-- How many ids the search may still try from a counter. -/
def attemptsLeft (counter : UInt32) : Nat := 1000 - (counter + 1).toNat

theorem nextCounter_measure {counter : UInt32}
    (h : (counter + 1).toNat < 1000) :
    attemptsLeft (counter + 1) < attemptsLeft counter := by
  have step : (counter + 1 + 1).toNat = (counter + 1).toNat + 1 := by
    rw [UInt32.toNat_add]
    have one : (1 : UInt32).toNat = 1 := rfl
    rw [one, Nat.mod_eq_of_lt (by omega)]
  unfold attemptsLeft
  omega

/--
Opens an account under the first free id behind the counter. Each attempt
advances the counter first, and the counter stays advanced if the attempt fails.
-/
def openNextFrom (owner : OwnerId) (kind : AccountKind)
    (ledger : SharedLedger) :
    EStateM.Result Fault SharedLedger AccountId :=
  let advanced := { ledger with counter := ledger.counter + 1 }
  if h : (ledger.counter + 1).toNat < 1000 then
    match (openAs ⟨(ledger.counter + 1).toNat, h⟩ owner kind).run advanced with
    | .error (.duplicateAccount _) _ => openNextFrom owner kind advanced
    | result => result
  else .error .idsExhausted advanced
termination_by attemptsLeft ledger.counter
decreasing_by exact nextCounter_measure h

/-- Opens an account under the first free id behind the counter. -/
def openNext (owner : OwnerId) (kind : AccountKind) :
    Transact SharedLedger AccountId :=
  openNextFrom owner kind

/-- Closes an account and hands it out. -/
def close (id : AccountId) : Transact SharedLedger Account := do
  let account ← hold id
  modify fun ledger => { ledger with accounts := ledger.accounts.erase id }
  return account

/-! ## Working on held accounts -/

/-- What a worker sees who holds accounts of shape `h`: them, and the
journal. -/
abbrev Held (h : Type) : Type := h × Journal

/-- Lends one account and the journal to an operation and takes both back as it
leaves them. -/
def update {α : Type} (id : AccountId) (act : Transact (Held Account) α) :
    Transact SharedLedger α := do
  let account ← hold id
  let result := act.run (account, (← get).journal)
  let (account, journal) := Transact.state result
  modify fun ledger =>
    { ledger with accounts := ledger.accounts.insert account, journal }
  Transact.answer result

/--
Lends two different accounts and the journal to an operation and takes all back
as it leaves them.
-/
def updatePair {α : Type} (source destination : AccountId)
    (act : Transact (Held (Account × Account)) α) :
    Transact SharedLedger α := do
  if source = destination then throw (.sameAccount source.text)
  let a ← hold source
  let b ← hold destination
  let result := act.run ((a, b), (← get).journal)
  let ((a, b), journal) := Transact.state result
  modify fun ledger => { ledger with
    accounts := (ledger.accounts.insert b).insert a
    journal }
  Transact.answer result

/-- Journals a transaction. -/
def commit {h : Type} (clock : Clock) (transaction : Transaction)
    (status : Status) :
    Transact (Held h) Record :=
  modifyGet fun (held, journal) =>
    let (record, journal) :=
      journal.commit (clock.journal journal.size) transaction status
    (record, held, journal)

/-- An account with a record attached, once for each time the record concerns
it. -/
def attachTo (record : Record) (account : Account) : Account :=
  record.concerned.foldl (fun a id => if a.id = id then
    a.attach record.number else a) account

/-- Journals a transaction and attaches the record to the account that is
held. -/
def append (clock : Clock) (transaction : Transaction) (status : Status) :
    Transact (Held Account) Record := do
  let record ← commit clock transaction status
  modify fun (account, journal) => (attachTo record account, journal)
  return record

/-- Journals a transaction and attaches the record to the two accounts that are
held. -/
def appendPair (clock : Clock) (transaction : Transaction) (status : Status) :
    Transact (Held (Account × Account)) Record := do
  let record ← commit clock transaction status
  modify fun ((a, b), journal) =>
    ((attachTo record a, attachTo record b), journal)
  return record

/-- Journals a transaction while no account is held. -/
def appendLoose (clock : Clock) (transaction : Transaction) (status : Status) :
    Transact SharedLedger Record :=
  modifyGet fun ledger =>
    let now := clock.journal ledger.journal.size
    let (record, journal) := ledger.journal.commit now transaction status
    (record, { ledger with journal })

end SharedLedger

end Passbook
