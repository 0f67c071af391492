import Passbook.Proofs.SharedLedgerPosting

/-!
# Histories decide nothing

What an operation posts, or why it is refused, never depends on the records
attached to an account. An account whose history is stripped off behaves like
the account, and posts the same.

## Main results

* `posting?_bared` — an operation posts the same on stripped accounts.
-/

namespace Passbook

namespace Account

/-- The account with its history stripped off. -/
def bare (account : Account) : Account := { account with history := #[] }

theorem checkCover_bare (account : Account) (amount : Decimal) :
    account.bare.checkCover amount = account.checkCover amount := rfl

theorem canAccept_bare (account : Account) (amount : Decimal) :
    account.bare.canAccept amount = account.canAccept amount := rfl

theorem deposit_bare (account : Account) (amount : Decimal) :
    account.bare.deposit amount = (account.deposit amount).map bare := by
  have raised_bare : account.bare.raised amount = account.raised amount := rfl
  unfold deposit
  cases checkAmount amount with
  | error fault => rfl
  | ok _ =>
    rw [Transact.ok_bind, Transact.ok_bind, raised_bare]
    cases account.raised amount <;> rfl

theorem withdraw_bare (account : Account) (amount : Decimal) :
    account.bare.withdraw amount = (account.withdraw amount).map bare := by
  have balance_bare : account.bare.balance = account.balance := rfl
  unfold withdraw
  rw [checkCover_bare, balance_bare]
  cases checkAmount amount with
  | error fault => rfl
  | ok _ =>
    cases account.checkCover amount with
    | error fault => rfl
    | ok _ =>
      rw [Transact.ok_bind, Transact.ok_bind, Transact.ok_bind,
        Transact.ok_bind]
      cases account.balance.sub? amount <;> rfl

theorem creditInterest_bare (account : Account) :
    account.bare.creditInterest = account.creditInterest.map fun result =>
      (result.1, result.2.bare) := by
  have balance_bare : account.bare.balance = account.balance := rfl
  have kind_bare : account.bare.kind = account.kind := rfl
  unfold creditInterest
  rw [balance_bare, kind_bare]
  cases account.kind with
  | checking limit => rfl
  | savings rate =>
    dsimp only
    cases interestOn account.balance rate with
    | none => rfl
    | some interest =>
      dsimp only
      cases account.balance.add? interest <;> rfl

theorem setLimit_bare (account : Account) (limit : Decimal) :
    account.bare.setLimit limit = (account.setLimit limit).map bare := by
  have balance_bare : account.bare.balance = account.balance := rfl
  have kind_bare : account.bare.kind = account.kind := rfl
  unfold setLimit
  rw [balance_bare, kind_bare]
  cases account.kind with
  | savings rate => rfl
  | checking old =>
    dsimp only
    cases AccountKind.ofLimit limit with
    | error fault => rfl
    | ok kind =>
      rw [Transact.ok_bind, Transact.ok_bind]
      by_cases below : account.balance < kind.floor
      · rw [if_pos below, if_pos below]
        rfl
      · rw [if_neg below, if_neg below]
        rfl

end Account

theorem settleWithdrawal_bare (account : Account) (amount : Decimal) :
    settleWithdrawal account.bare amount =
      (settleWithdrawal account amount).map fun result =>
        (result.1, result.2.bare) := by
  unfold settleWithdrawal
  rw [Account.withdraw_bare]
  cases account.withdraw amount with
  | ok result => rfl
  | error fault =>
    cases refusal : fault.isRefusal <;> simp [Except.map, refusal]

/-- The posting with the history stripped off an account that is taken out. -/
def Posting.bare : Posting → Posting
  | closed id account => .closed id account.bare
  | posting => posting

namespace Operation

theorem settlingTransfer_bare (a b : Account) (amount : Decimal) :
    settlingTransfer a.bare b.bare amount =
      (settlingTransfer a b amount).map fun result =>
        (result.1, result.2.1.bare, result.2.2.bare) := by
  unfold settlingTransfer
  rw [Account.canAccept_bare, settleWithdrawal_bare]
  cases b.canAccept amount with
  | error fault => rfl
  | ok _ =>
    cases settleWithdrawal a amount with
    | error fault => rfl
    | ok result =>
      obtain ⟨status, a'⟩ := result
      cases status with
      | failed => rfl
      | completed =>
        simp only [Transact.ok_bind, Except.map, if_true, Account.deposit_bare]
        cases b.deposit amount <;> rfl

variable (find? : AccountId → Option Account)

/-- What is found, with the histories stripped off. -/
def bared (id : AccountId) : Option Account := (find? id).map Account.bare

theorem seek_bared (id : AccountId) :
    seek (bared find?) id = (seek find? id).map Account.bare := by
  unfold seek bared
  cases find? id <;> rfl

theorem closing_bared (id : AccountId) :
    closing (bared find?) id = (closing find? id).map Posting.bare := by
  unfold closing
  rw [seek_bared]
  cases seek find? id <;> rfl

theorem depositing_bared (id : AccountId) (amount : Decimal) :
    depositing (bared find?) id amount =
      (depositing find? id amount).map Posting.bare := by
  unfold depositing
  rw [seek_bared]
  cases checkAmount amount with
  | error fault => rfl
  | ok _ =>
    cases seek find? id with
    | error fault => rfl
    | ok account =>
      simp only [Transact.ok_bind, Except.map, Account.deposit_bare]
      cases account.deposit amount <;> rfl

theorem withdrawing_bared (id : AccountId) (amount : Decimal) :
    withdrawing (bared find?) id amount =
      (withdrawing find? id amount).map Posting.bare := by
  unfold withdrawing
  rw [seek_bared]
  cases checkAmount amount with
  | error fault => rfl
  | ok _ =>
    cases seek find? id with
    | error fault => rfl
    | ok account =>
      simp only [Transact.ok_bind, Except.map, settleWithdrawal_bare]
      cases settleWithdrawal account amount <;> rfl

theorem transferring_bared (source destination : AccountId) (amount : Decimal) :
    transferring (bared find?) source destination amount =
      (transferring find? source destination amount).map Posting.bare := by
  unfold transferring
  rw [seek_bared, seek_bared]
  cases checkAmount amount with
  | error fault => rfl
  | ok _ =>
    by_cases same : source = destination
    · simp only [if_pos same]
      rfl
    · simp only [if_neg same]
      cases seek find? source with
      | error fault => rfl
      | ok a =>
        cases seek find? destination with
        | error fault => rfl
        | ok b =>
          simp only [Transact.ok_bind, Except.map, settlingTransfer_bare]
          cases settlingTransfer a b amount <;> rfl

theorem crediting_bared (id : AccountId) :
    crediting (bared find?) id = (crediting find? id).map Posting.bare := by
  unfold crediting
  rw [seek_bared]
  cases seek find? id with
  | error fault => rfl
  | ok account =>
    simp only [Transact.ok_bind, Except.map, Account.creditInterest_bare]
    cases account.creditInterest with
    | error fault => rfl
    | ok result =>
      obtain ⟨interest, result⟩ := result
      by_cases nothing : interest.mantissa = 0
      · simp only [Transact.ok_bind, if_pos nothing]
        rfl
      · simp only [Transact.ok_bind, if_neg nothing]
        rfl

theorem limiting_bared (id : AccountId) (limit : Decimal) :
    limiting (bared find?) id limit =
      (limiting find? id limit).map Posting.bare := by
  unfold limiting
  rw [seek_bared]
  cases seek find? id with
  | error fault => rfl
  | ok account =>
    simp only [Transact.ok_bind, Except.map, Account.setLimit_bare]
    cases account.setLimit limit <;> rfl

theorem opening_bared (id : AccountId) (owner : OwnerId) (kind : AccountKind) :
    SharedLedger.opening (bared find?) id owner kind =
      (SharedLedger.opening find? id owner kind).map Posting.bare := by
  have taken_bared : (bared find? id).isSome = (find? id).isSome :=
    Option.isSome_map
  unfold SharedLedger.opening
  rw [taken_bared]
  cases Account.new id owner kind with
  | error fault => rfl
  | ok account => cases (find? id).isSome <;> rfl

/-- Whatever is posted is posted on stripped accounts too. -/
theorem posting?_bared (operation : Operation) :
    operation.posting? (bared find?) (SharedLedger.opening (bared find?)) =
      (operation.posting? find? (SharedLedger.opening find?)).map
        (Except.map Posting.bare) := by
  cases operation with
  | openAccount given owner kind =>
    cases given with
    | none => rfl
    | some id => exact congrArg some (opening_bared find? id owner kind)
  | closeAccount id => exact congrArg some (closing_bared find? id)
  | deposit id amount => exact congrArg some (depositing_bared find? id amount)
  | withdraw id amount =>
    exact congrArg some (withdrawing_bared find? id amount)
  | transfer source destination amount =>
    exact congrArg some (transferring_bared find? source destination amount)
  | creditInterest given =>
    cases given with
    | none => rfl
    | some id => exact congrArg some (crediting_bared find? id)
  | setLimit id limit => exact congrArg some (limiting_bared find? id limit)

end Operation

end Passbook
