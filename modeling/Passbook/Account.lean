import Passbook.Account.Kind
import Passbook.Identifier

/-!
# Accounts

An account has an id, an owner, a kind, a balance and the numbers of the records
that concern it. Every change of a balance is checked first and made last, so an
operation that fails has no new account to offer.

## Main results

* `deposit_eq_ok_iff`, `withdraw_eq_ok_iff` — when money can be moved, and what
  the balance is then.
-/

namespace Passbook

/-- An open account. -/
structure Account where
  id : AccountId
  owner : OwnerId
  kind : AccountKind
  balance : Decimal
  /-- Numbers of the records attached to the account, oldest first. -/
  history : Array Nat
deriving DecidableEq

namespace Account

/-- A new account with nothing in it, if its kind is valid. -/
def new (id : AccountId) (owner : OwnerId) (kind : AccountKind) :
    Except Fault Account := do
  let kind ← kind.validate
  return { id, owner, kind, balance := .zero, history := #[] }

/-- Attaches a record. -/
def attach (account : Account) (record : Nat) : Account :=
  { account with history := account.history.push record }

/-- The fault that a result has too many digits. -/
def overflow (account : Account) (operation : String) : Fault :=
  .overflow operation account.id.text

/-- The balance after paying in, if it can be represented. -/
def raised (account : Account) (amount : Decimal) : Except Fault Decimal :=
  match account.balance.add? amount with
  | some balance => .ok balance
  | none => .error (account.overflow "deposit")

/-- Refuses an amount that cannot be paid in. -/
def canAccept (account : Account) (amount : Decimal) : Except Fault Unit := do
  let _ ← account.raised amount

/-- Pays an amount in. -/
def deposit (account : Account) (amount : Decimal) : Except Fault Account := do
  checkAmount amount
  let balance ← account.raised amount
  return { account with balance }

/-- Refuses an amount that the account's kind does not let go. -/
def checkCover (account : Account) (amount : Decimal) : Except Fault Unit :=
  match account.kind with
  | .savings _ =>
    if account.balance < amount then
      .error (.insufficientFunds account.id.text account.balance amount)
    else .ok ()
  | .checking limit =>
    match account.balance.add? limit with
    | none => .error (account.overflow "withdraw")
    | some available =>
      if available < amount then
        .error (.overdraftExceeded account.id.text available amount)
      else .ok ()

/-- Takes an amount out. -/
def withdraw (account : Account) (amount : Decimal) : Except Fault Account := do
  checkAmount amount
  account.checkCover amount
  match account.balance.sub? amount with
  | some balance => return { account with balance }
  | none => throw (account.overflow "withdraw")

/-- The interest on a balance: the product with the rate, rounded to places of
money. -/
def interestOn (balance rate : Decimal) : Option Decimal :=
  (balance.mul? rate).map (·.roundTo moneyPlaces)

/-- Credits interest once, and tells how much. -/
def creditInterest (account : Account) : Except Fault (Decimal × Account) :=
  match account.kind with
  | .checking _ => .error (.noInterest account.id.text)
  | .savings rate =>
    match interestOn account.balance rate with
    | none => .error (account.overflow "interest")
    | some interest =>
      match account.balance.add? interest with
      | none => .error (account.overflow "interest")
      | some balance => .ok (interest, { account with balance })

/-- Gives a checking account another limit, one that its balance respects. -/
def setLimit (account : Account) (limit : Decimal) : Except Fault Account :=
  match account.kind with
  | .savings _ => .error (.noOverdraft account.id.text)
  | .checking _ => do
    let kind ← AccountKind.ofLimit limit
    if account.balance < kind.floor then
      throw (.limitBelowBalance account.id.text limit account.balance)
    return { account with kind }

/-! ## When an operation succeeds -/

theorem deposit_eq_ok_iff {account result : Account} {amount : Decimal} :
    account.deposit amount = .ok result ↔
      checkAmount amount = .ok () ∧
        ∃ balance, account.balance.add? amount = some balance ∧
          result = { account with balance } := by
  unfold deposit raised
  cases hc : checkAmount amount with
  | error fault => simp [bind, Except.bind]
  | ok _ =>
    cases hb : account.balance.add? amount with
    | none => simp [bind, Except.bind]
    | some balance => simp [bind, Except.bind, pure, Except.pure, eq_comm]

theorem withdraw_eq_ok_iff {account result : Account} {amount : Decimal} :
    account.withdraw amount = .ok result ↔
      checkAmount amount = .ok () ∧ account.checkCover amount = .ok () ∧
        ∃ balance, account.balance.sub? amount = some balance ∧
          result = { account with balance } := by
  unfold withdraw
  cases hc : checkAmount amount with
  | error fault => simp [bind, Except.bind]
  | ok _ =>
    cases hv : account.checkCover amount with
    | error fault => simp [bind, Except.bind]
    | ok _ =>
      cases hb : account.balance.sub? amount with
      | none => simp [bind, Except.bind, throw, throwThe, MonadExceptOf.throw]
      | some balance => simp [bind, Except.bind, pure, Except.pure, eq_comm]

end Account

end Passbook
