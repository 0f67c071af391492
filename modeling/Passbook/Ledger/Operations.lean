import Passbook.Ledger

/-!
# What a ledger can be asked to do

Each money operation checks the amount, gets at the accounts, settles, and
journals the movement. Which of two faults is reported follows from that order:
the amount comes before the accounts, the source before the destination, and
both before any rule.
-/

namespace Passbook.Ledger

/-- Opens an account under the given id, or under the next free one. -/
def openAccount (id : Option AccountId) (owner : OwnerId) (kind : AccountKind) :
    Transact Ledger AccountId :=
  match id with
  | some id => openAs id owner kind
  | none => openNext owner kind

/-- Pays an amount in. -/
def deposit (clock : Clock) (id : AccountId) (amount : Decimal) :
    Transact Ledger Record := do
  checkAmount amount
  let account ← require id
  let account ← account.deposit amount
  put account
  append clock ⟨.deposit id, amount⟩ .completed

/-- Takes an amount out; a refusal by the account's rule is journalled as
failed. -/
def withdraw (clock : Clock) (id : AccountId) (amount : Decimal) :
    Transact Ledger Record := do
  checkAmount amount
  let account ← require id
  let (status, account) ← settleWithdrawal account amount
  put account
  append clock ⟨.withdrawal id, amount⟩ status

/-- Moves an amount; a refusal by the source's rule is journalled as failed. -/
def transfer (clock : Clock) (source destination : AccountId)
    (amount : Decimal) :
    Transact Ledger Record := do
  checkAmount amount
  let status ← withPair source destination (settleTransfer amount)
  append clock ⟨.transfer source destination, amount⟩ status

/-- Credits interest to one account; interest of zero leaves no record. -/
def creditInterest (clock : Clock) (id : AccountId) :
    Transact Ledger (Option Record) := do
  let account ← require id
  let (interest, account) ← account.creditInterest
  put account
  if interest.mantissa = 0 then return none
  return some (← append clock ⟨.interest id, interest⟩ .completed)

/-- Credits interest to all savings accounts that are open at the start. -/
def creditAll (clock : Clock) : Transact Ledger (List Record) :=
  modifyGet fun ledger =>
    Transact.gather (creditInterest clock) ledger.accounts.savingsIds ledger

/-- Gives a checking account another limit. -/
def setLimit (id : AccountId) (limit : Decimal) : Transact Ledger Unit := do
  let account ← require id
  let account ← account.setLimit limit
  put account

end Passbook.Ledger
