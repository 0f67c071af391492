import Passbook.Proofs.Posting

/-!
# What a successful operation does

`Change` lists, one constructor for each way an operation can succeed, what was
true of the accounts and what is posted then. Everything that was checked on the
way is in the constructor, so a proof about the books never goes back to the
operations.

## Main results

* `of_posting?` — whatever an operation posts is a change.
-/

namespace Passbook

/-- How an operation can succeed on the accounts that are found, and what it
posts then. -/
inductive Change (find? : AccountId → Option Account) :
    Operation → Posting → Prop
  | opened {given : Option AccountId} {owner : OwnerId} {kind : AccountKind}
    {id : AccountId}
      (asked : ∀ other, given = some other → other = id)
      (free : find? id = none) (valid : kind.validate = .ok kind) :
      Change find? (.openAccount given owner kind)
        (.opened ⟨id, owner, kind, .zero, #[]⟩)
  | closed {id : AccountId} {account : Account}
    (found : find? id = some account) :
      Change find? (.closeAccount id) (.closed id account)
  | deposited {id : AccountId} {amount balance : Decimal} {account : Account}
      (valid : checkAmount amount = .ok ()) (found : find? id = some account)
      (sum : account.balance.add? amount = some balance) :
      Change find? (.deposit id amount)
        (.moved [(id, balance)] ⟨.deposit id, amount⟩ .completed)
  | withdrawn {id : AccountId} {amount balance : Decimal} {account : Account}
      (valid : checkAmount amount = .ok ()) (found : find? id = some account)
      (covered : account.checkCover amount = .ok ())
      (difference : account.balance.sub? amount = some balance) :
      Change find? (.withdraw id amount)
        (.moved [(id, balance)] ⟨.withdrawal id, amount⟩ .completed)
  | notWithdrawn {id : AccountId} {amount : Decimal} {account : Account}
    {fault : Fault}
      (valid : checkAmount amount = .ok ()) (found : find? id = some account)
      (refusal : account.withdraw amount = .error fault)
        (by_rule : fault.isRefusal = true) :
      Change find? (.withdraw id amount)
        (.moved [(id, account.balance)] ⟨.withdrawal id, amount⟩ .failed)
  | transferred {source destination : AccountId} {amount x y : Decimal}
    {a b : Account}
      (valid : checkAmount amount = .ok ()) (different : source ≠ destination)
      (a_found : find? source = some a) (b_found : find? destination = some b)
      (covered : a.checkCover amount = .ok ())
      (difference : a.balance.sub? amount = some x)
        (sum : b.balance.add? amount = some y) :
      Change find? (.transfer source destination amount)
        (.moved [(source, x), (destination, y)]
          ⟨.transfer source destination, amount⟩ .completed)
  | notTransferred {source destination : AccountId} {amount : Decimal}
    {a b : Account} {fault : Fault}
      (valid : checkAmount amount = .ok ()) (different : source ≠ destination)
      (a_found : find? source = some a) (b_found : find? destination = some b)
      (refusal : a.withdraw amount = .error fault)
        (by_rule : fault.isRefusal = true) :
      Change find? (.transfer source destination amount)
        (.moved [(source, a.balance), (destination, b.balance)]
          ⟨.transfer source destination, amount⟩ .failed)
  | credited {id : AccountId} {rate interest balance : Decimal}
    {account : Account}
      (found : find? id = some account) (saves : account.kind = .savings rate)
      (earned : Account.interestOn account.balance rate = some interest)
      (something : interest.mantissa ≠ 0)
        (sum : account.balance.add? interest = some balance) :
      Change find? (.creditInterest (some id))
        (.moved [(id, balance)] ⟨.interest id, interest⟩ .completed)
  | notCredited {id : AccountId} {rate interest balance : Decimal}
    {account : Account}
      (found : find? id = some account) (saves : account.kind = .savings rate)
      (earned : Account.interestOn account.balance rate = some interest)
      (nothing : interest.mantissa = 0)
        (sum : account.balance.add? interest = some balance) :
      Change find? (.creditInterest (some id))
        (.amended id account.kind balance (.credited []))
  | limited {id : AccountId} {limit old : Decimal} {account : Account}
      (found : find? id = some account) (checks : account.kind = .checking old)
      (valid : AccountKind.ofLimit limit = .ok (.checking limit))
      (respected : ¬ account.balance < (AccountKind.checking limit).floor) :
      Change find? (.setLimit id limit)
        (.amended id (.checking limit) account.balance (.limited id limit))

/-! ## Postings are changes -/

namespace Change

open Transact Operation

variable {find? : AccountId → Option Account}

theorem of_closing {id : AccountId} {posting : Posting}
    (posts : closing find? id = .ok posting) :
    Change find? (.closeAccount id) posting := by
  obtain ⟨account, found, posts⟩ := bind_eq_ok posts
  cases posts
  exact .closed (seek_eq_ok found)

theorem of_depositing {id : AccountId} {amount : Decimal} {posting : Posting}
    (posts : depositing find? id amount = .ok posting) :
    Change find? (.deposit id amount) posting := by
  obtain ⟨_, valid, posts⟩ := bind_eq_ok posts
  obtain ⟨account, found, posts⟩ := bind_eq_ok posts
  obtain ⟨result, paid, posts⟩ := bind_eq_ok posts
  cases posts
  obtain ⟨-, balance, sum, rfl⟩ := Account.deposit_eq_ok_iff.1 paid
  exact .deposited valid (seek_eq_ok found) sum

theorem of_withdrawing {id : AccountId} {amount : Decimal} {posting : Posting}
    (posts : withdrawing find? id amount = .ok posting) :
    Change find? (.withdraw id amount) posting := by
  obtain ⟨_, valid, posts⟩ := bind_eq_ok posts
  obtain ⟨account, found, posts⟩ := bind_eq_ok posts
  obtain ⟨⟨status, result⟩, settled, posts⟩ := bind_eq_ok posts
  cases posts
  have seen := seek_eq_ok found
  rcases settleWithdrawal_eq_ok_iff.1 settled with
    ⟨rfl, taken⟩ | ⟨rfl, same, fault, refusal, by_rule⟩
  · obtain ⟨-, covered, balance, difference, rfl⟩ :=
      Account.withdraw_eq_ok_iff.1 taken
    exact .withdrawn valid seen covered difference
  · rw [same]
    exact .notWithdrawn valid seen refusal by_rule

theorem of_transferring {source destination : AccountId} {amount : Decimal}
    {posting : Posting}
    (posts : transferring find? source destination amount = .ok posting) :
    Change find? (.transfer source destination amount) posting := by
  obtain ⟨_, valid, posts⟩ := bind_eq_ok posts
  by_cases same : source = destination
  · rw [if_pos same] at posts
    cases posts
  · rw [if_neg same] at posts
    obtain ⟨a, a_found, posts⟩ := bind_eq_ok posts
    obtain ⟨b, b_found, posts⟩ := bind_eq_ok posts
    obtain ⟨⟨status, a', b'⟩, settled, posts⟩ := bind_eq_ok posts
    cases posts
    have a_seen := seek_eq_ok a_found
    have b_seen := seek_eq_ok b_found
    rcases settlingTransfer_eq_ok valid settled with
      ⟨rfl, covered, x, y, difference, sum, rfl, rfl⟩ | ⟨rfl, a_same, b_same,
        fault, refusal, by_rule⟩
    · exact .transferred valid same a_seen b_seen covered difference sum
    · rw [a_same, b_same]
      exact .notTransferred valid same a_seen b_seen refusal by_rule

theorem of_crediting {id : AccountId} {posting : Posting}
    (posts : crediting find? id = .ok posting) :
    Change find? (.creditInterest (some id)) posting := by
  obtain ⟨account, found, posts⟩ := bind_eq_ok posts
  obtain ⟨⟨interest, result⟩, credited, posts⟩ := bind_eq_ok posts
  have seen := seek_eq_ok found
  obtain ⟨rate, balance, saves, earned, sum, rfl⟩ :=
    Account.creditInterest_eq_ok credited
  by_cases nothing : interest.mantissa = 0
  · simp only [if_pos nothing] at posts
    cases posts
    exact .notCredited seen saves earned nothing sum
  · simp only [if_neg nothing] at posts
    cases posts
    exact .credited seen saves earned nothing sum

theorem of_limiting {id : AccountId} {limit : Decimal} {posting : Posting}
    (posts : limiting find? id limit = .ok posting) :
    Change find? (.setLimit id limit) posting := by
  obtain ⟨account, found, posts⟩ := bind_eq_ok posts
  obtain ⟨result, limited, posts⟩ := bind_eq_ok posts
  cases posts
  have seen := seek_eq_ok found
  obtain ⟨old, checks, valid, respected, rfl⟩ := Account.setLimit_eq_ok limited
  have change := Change.limited seen checks valid respected
  exact change

/-- Whatever an operation posts that opens no account is a change. -/
theorem of_posting? {opening : AccountId → OwnerId → AccountKind →
    Except Fault Posting}
    {operation : Operation} {posting : Posting}
    (opens_none : ∀ given owner kind, operation ≠ .openAccount given owner kind)
    (posts : operation.posting? find? opening = some (.ok posting)) :
    Change find? operation posting := by
  cases operation with
  | openAccount given owner kind =>
    exact absurd rfl (opens_none given owner kind)
  | closeAccount id => exact of_closing (Option.some.inj posts)
  | deposit id amount => exact of_depositing (Option.some.inj posts)
  | withdraw id amount => exact of_withdrawing (Option.some.inj posts)
  | transfer source destination amount =>
    exact of_transferring (Option.some.inj posts)
  | creditInterest given =>
    cases given with
    | none => cases posts
    | some id => exact of_crediting (Option.some.inj posts)
  | setLimit id limit => exact of_limiting (Option.some.inj posts)

end Change

end Passbook
