import Passbook.SharedLedger

/-!
# What a shared ledger can be asked to do

Each money operation checks the amount, holds the accounts, settles, and
journals before it lets the accounts go.
-/

namespace Passbook.SharedLedger

/-- Opens an account under the given id, or under the first free one behind the
counter. -/
def openAccount (id : Option AccountId) (owner : OwnerId) (kind : AccountKind) :
    Transact SharedLedger AccountId :=
  match id with
  | some id => openAs id owner kind
  | none => openNext owner kind

/-- Pays an amount in. -/
def deposit (clock : Clock) (id : AccountId) (amount : Decimal) :
    Transact SharedLedger Record := do
  checkAmount amount
  update id do
    let (account, journal) ← get
    let account ← account.deposit amount
    set (account, journal)
    append clock ⟨.deposit id, amount⟩ .completed

/-- Takes an amount out; a refusal by the account's rule is journalled as
failed. -/
def withdraw (clock : Clock) (id : AccountId) (amount : Decimal) :
    Transact SharedLedger Record := do
  checkAmount amount
  update id do
    let (account, journal) ← get
    let (status, account) ← settleWithdrawal account amount
    set (account, journal)
    append clock ⟨.withdrawal id, amount⟩ status

/-- Moves an amount; a refusal by the source's rule is journalled as failed. -/
def transfer (clock : Clock) (source destination : AccountId)
    (amount : Decimal) :
    Transact SharedLedger Record := do
  checkAmount amount
  updatePair source destination do
    let (accounts, journal) ← get
    let result := (settleTransfer amount).run accounts
    set (Transact.state result, journal)
    let status ← Transact.answer result
    appendPair clock ⟨.transfer source destination, amount⟩ status

/-- Credits interest to one account; interest of zero leaves no record. -/
def creditInterest (clock : Clock) (id : AccountId) :
    Transact SharedLedger (Option Record) :=
  update id do
    let (account, journal) ← get
    let (interest, account) ← account.creditInterest
    set (account, journal)
    if interest.mantissa = 0 then return none
    return some (← append clock ⟨.interest id, interest⟩ .completed)

/-- Credits interest to all savings accounts that are open at the start. -/
def creditAll (clock : Clock) : Transact SharedLedger (List Record) :=
  modifyGet fun ledger =>
    Transact.gather (creditInterest clock) ledger.accounts.savingsIds ledger

/-- Gives a checking account another limit. -/
def setLimit (id : AccountId) (limit : Decimal) : Transact SharedLedger Unit :=
  update id do
    let (account, journal) ← get
    let account ← account.setLimit limit
    set (account, journal)

end Passbook.SharedLedger
