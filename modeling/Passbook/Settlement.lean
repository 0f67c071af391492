import Passbook.Account
import Passbook.Record
import Passbook.Transact

/-!
# Settling a movement

A withdrawal that the account's own rule refuses is not an error: it settles as
failed and is journalled. A transfer asks first whether the destination can take
the amount, then settles the withdrawal from the source, and pays in only if
that was completed.

Both ledgers settle through this module and differ in how they get at the
accounts.

## Main results

* `settleWithdrawal_completed_iff` — a withdrawal is completed exactly if the
  account lets it go.
-/

namespace Passbook

/-- Takes an amount out of an account, or leaves the account alone if its rule
refuses. -/
def settleWithdrawal (account : Account) (amount : Decimal) :
    Except Fault (Status × Account) :=
  match account.withdraw amount with
  | .ok account' => .ok (.completed, account')
  | .error fault =>
    if fault.isRefusal then .ok (.failed, account) else .error fault

theorem settleWithdrawal_completed_iff {account account' : Account}
    {amount : Decimal} :
    settleWithdrawal account amount = .ok (.completed, account') ↔
      account.withdraw amount = .ok account' := by
  unfold settleWithdrawal
  cases account.withdraw amount with
  | ok a => simp
  | error fault => by_cases h : fault.isRefusal <;> simp [h]

/-- Moves an amount between the two accounts that make up the state, source
first. -/
def settleTransfer (amount : Decimal) :
    Transact (Account × Account) Status := do
  let (source, destination) ← get
  destination.canAccept amount
  let (status, source) ← settleWithdrawal source amount
  set (source, destination)
  if status = .completed then
    let destination ← destination.deposit amount
    set (source, destination)
  return status

end Passbook
