import Passbook.Proofs.Decimal.Range
import Passbook.Proofs.Lawful

/-!
# What the rule allows to be taken out

The kind of an account allows everything to be taken out that lies between the
balance and its floor. A savings account lets exactly that go. A checking
account forms the sum of balance and limit first, and compares with it. The sum
may be rounded, but not below an amount that the exact sum covers, since it
jumps over no decimal; so no allowed amount is refused by the rule. Yet the sum
may be too large to have a result, and then nothing can be taken out at all,
however little.

## Main results

* `Account.checkCover_eq_ok_iff` — which accounts let an allowed amount go.
* `completes_allowed_iff` — when allowed withdrawals and transfers are
  completed.
* `not_completes_allowed` — an allowed withdrawal may fail.
-/

namespace Passbook

open Bookkeeping Transact

namespace Account

/-- Whether the kind of an account allows an amount to be taken out: it is no
more than what lies between the balance and its floor. -/
def Allows (account : Account) (amount : Decimal) : Prop :=
  amount.units ≤ account.balance.units - account.kind.floor.units

instance (account : Account) (amount : Decimal) :
    Decidable (account.Allows amount) :=
    inferInstanceAs (Decidable (_ ≤ _))

/-- Whether the balance and the limit of a checking account come to too much to
be added up. -/
def CoverOutOfRange (account : Account) : Prop :=
  ∃ limit, account.kind = .checking limit ∧
    Decimal.OutOfRange (account.balance.units + limit.units)

variable {account : Account} {amount : Decimal}

theorem units_floor_savings {rate : Decimal} :
    (AccountKind.savings rate).floor.units = 0 := Decimal.units_zero

theorem units_floor_checking {limit : Decimal} :
    (AccountKind.checking limit).floor.units = -limit.units :=
  Decimal.units_neg limit

/-- An allowed amount is let go exactly if balance and limit can be added
up. -/
theorem checkCover_eq_ok_iff (allows : account.Allows amount) :
    account.checkCover amount = .ok () ↔ ¬ account.CoverOutOfRange := by
  unfold Allows at allows
  unfold checkCover CoverOutOfRange
  cases kind : account.kind with
  | savings rate =>
    rw [kind, units_floor_savings, Int.sub_zero] at allows
    have enough : ¬ account.balance < amount := Int.not_lt.2 allows
    dsimp only
    rw [if_neg enough]
    refine iff_of_true rfl ?_
    rintro ⟨limit, checks, -⟩
    cases checks
  | checking limit =>
    rw [kind, units_floor_checking, Int.sub_neg] at allows
    dsimp only
    cases sum : account.balance.add? limit with
    | none =>
      have too_much := Decimal.add?_eq_none_iff.1 sum
      refine iff_of_false ?_ fun fits => fits ⟨limit, rfl, too_much⟩
      intro refused
      cases refused
    | some available =>
      -- a rounded sum jumps over no decimal, so it still covers the amount
      have enough : ¬ available < amount :=
        Int.not_lt.2 (Decimal.le_add?_of_le sum allows)
      dsimp only
      rw [if_neg enough]
      refine iff_of_true rfl ?_
      rintro ⟨_, checks, too_much⟩
      cases checks
      rw [Decimal.add?_eq_none_iff.2 too_much] at sum
      cases sum

/-- Where they cannot be added up, that is the fault. -/
theorem checkCover_of_outOfRange (too_much : account.CoverOutOfRange)
    (amount : Decimal) :
    account.checkCover amount = .error (account.overflow "withdraw") := by
  obtain ⟨limit, checks, too_much⟩ := too_much
  unfold checkCover
  rw [checks]
  dsimp only
  rw [Decimal.add?_eq_none_iff.2 too_much]

/-- What is left of an allowed amount is between the floor and the balance, so
there is a decimal for it. -/
theorem exists_sub?_of_allows (positive : .zero < amount)
    (allows : account.Allows amount) :
    ∃ rest, account.balance.sub? amount = some rest := by
  rw [Decimal.lt_iff, Decimal.units_zero] at positive
  unfold Allows at allows
  exact Decimal.exists_sub?_of_between account.kind.floor account.balance
    (by omega) (by omega)

/-- How the withdrawal of an allowed amount settles. -/
theorem settleWithdrawal_of_allows (valid : checkAmount amount = .ok ())
    (allows : account.Allows amount) :
    (¬ account.CoverOutOfRange →
      ∃ rest, settleWithdrawal account amount = .ok (.completed, rest)) ∧
      (account.CoverOutOfRange → settleWithdrawal account amount =
        .error (account.overflow "withdraw")) := by
  have positive : .zero < amount := by
    rw [Decimal.lt_iff, Decimal.units_zero]
    exact (checkAmount_eq_ok_iff.1 valid).1
  constructor
  · intro fits
    obtain ⟨rest, difference⟩ := exists_sub?_of_allows positive allows
    have covered := (checkCover_eq_ok_iff allows).2 fits
    have taken := withdraw_eq_ok_iff.2 ⟨valid, covered, rest, difference, rfl⟩
    exact ⟨_, settleWithdrawal_completed_iff.2 taken⟩
  · intro too_much
    have uncovered := checkCover_of_outOfRange too_much amount
    have failed : account.withdraw amount =
        .error (account.overflow "withdraw") := by
      rw [withdraw, valid, ok_bind, uncovered, error_bind]
    -- an overflow is no refusal, so it does not become a failed record
    have not_refusal : (account.overflow "withdraw").isRefusal = false := rfl
    rw [settleWithdrawal, failed]
    dsimp only
    rw [not_refusal, if_neg (by decide)]

end Account

/-! ## Ledgers -/

/-- Whether an operation would be answered by a completed record. -/
def Completes (clock : Clock) (ledger : Ledger) (operation : Operation) :
    Prop :=
  ∃ record, answer ((perform clock operation).run ledger) =
    .ok (.recorded record) ∧ record.status = .completed

section

variable {clock : Clock} {ledger : Ledger} {id destination : AccountId}
  {account other : Account} {amount : Decimal}

open Operation

theorem seek_of_find? (found : ledger.accounts.find? id = some account) :
    seek ledger.accounts.find? id = .ok account := by
  rw [seek, found]

/-- An operation whose posting answers a completed record completes. -/
theorem completes_of_posting {operation : Operation} {posting : Posting}
    {record : Record}
    (opens_none : ∀ given owner kind, operation ≠ .openAccount given owner kind)
    (posts : operation.posting? ledger.accounts.find?
      (Ledger.opening ledger.accounts.find?) = some (.ok posting))
    (answers : posting.outcome clock (books ledger) = .recorded record)
    (completed : record.status = .completed) :
    Completes clock ledger operation := by
  refine ⟨record, ?_, completed⟩
  rw [Ledger.run_perform opens_none posts, Posting.carryOut, answer_ok, answers]

/-- An operation without a posting does not complete. -/
theorem not_completes_of_fault {operation : Operation} {fault : Fault}
    (opens_none : ∀ given owner kind, operation ≠ .openAccount given owner kind)
    (posts : operation.posting? ledger.accounts.find?
      (Ledger.opening ledger.accounts.find?) = some (.error fault)) :
    ¬ Completes clock ledger operation := by
  rintro ⟨record, answered, -⟩
  rw [Ledger.run_perform opens_none posts, Posting.carryOut,
    answer_error] at answered
  cases answered

theorem completes_withdraw_iff
    (found : ledger.accounts.find? id = some account)
    (valid : checkAmount amount = .ok ()) (allows : account.Allows amount) :
    Completes clock ledger (.withdraw id amount) ↔
      ¬ account.CoverOutOfRange := by
  have opens_none : ∀ given owner kind,
      Operation.withdraw id amount ≠ .openAccount given owner kind := by
    intro _ _ _ eq
    cases eq
  obtain ⟨completed, failed⟩ :=
    Account.settleWithdrawal_of_allows valid allows
  by_cases too_much : account.CoverOutOfRange
  · have posts : withdrawing ledger.accounts.find? id amount =
        .error (account.overflow "withdraw") := by
      rw [withdrawing, valid, ok_bind, seek_of_find? found, ok_bind,
        failed too_much, error_bind]
    exact iff_of_false
      (not_completes_of_fault opens_none (congrArg some posts))
      (not_not_intro too_much)
  · obtain ⟨rest, settled⟩ := completed too_much
    have posts : withdrawing ledger.accounts.find? id amount =
        .ok (.moved [(id, rest.balance)] ⟨.withdrawal id, amount⟩
          .completed) := by
      rw [withdrawing, valid, ok_bind, seek_of_find? found, ok_bind, settled]
      rfl
    exact iff_of_true
      (completes_of_posting opens_none (congrArg some posts) rfl rfl) too_much

/-- Between two open accounts a transfer is what its settlement makes of
them. -/
theorem transferring_eq (different : id ≠ destination)
    (found : ledger.accounts.find? id = some account)
    (other_found : ledger.accounts.find? destination = some other)
    (valid : checkAmount amount = .ok ()) :
    transferring ledger.accounts.find? id destination amount =
      (settlingTransfer account other amount).map fun settled =>
        .moved [(id, settled.2.1.balance), (destination, settled.2.2.balance)]
          ⟨.transfer id destination, amount⟩ settled.1 := by
  unfold transferring
  rw [valid, ok_bind, if_neg different]
  simp only [seek_of_find? found, seek_of_find? other_found, ok_bind]
  cases settlingTransfer account other amount with
  | error fault => rfl
  | ok settled => rfl

theorem completes_transfer_iff
    (found : ledger.accounts.find? id = some account)
    (other_found : ledger.accounts.find? destination = some other)
    (valid : checkAmount amount = .ok ()) (allows : account.Allows amount)
    (accepts : other.canAccept amount = .ok ()) :
    Completes clock ledger (.transfer id destination amount) ↔
      id ≠ destination ∧ ¬ account.CoverOutOfRange := by
  have opens_none : ∀ given owner kind,
      Operation.transfer id destination amount ≠
        .openAccount given owner kind := by
    intro _ _ _ eq
    cases eq
  obtain ⟨completed, failed⟩ :=
    Account.settleWithdrawal_of_allows valid allows
  by_cases same : id = destination
  · have posts : transferring ledger.accounts.find? id destination amount =
        .error (.sameAccount id.text) := by
      rw [transferring, valid, ok_bind, if_pos same]
      rfl
    exact iff_of_false
      (not_completes_of_fault opens_none (congrArg some posts))
      fun both => both.1 same
  · rw [and_iff_right same]
    have settles := transferring_eq same found other_found valid
    by_cases too_much : account.CoverOutOfRange
    · have posts : transferring ledger.accounts.find? id destination amount =
          .error (account.overflow "withdraw") := by
        rw [settles, settlingTransfer, accepts, ok_bind, failed too_much]
        rfl
      exact iff_of_false
        (not_completes_of_fault opens_none (congrArg some posts))
        (not_not_intro too_much)
    · obtain ⟨rest, settled⟩ := completed too_much
      obtain ⟨y, -, paid⟩ := deposit_of_canAccept accepts valid
      have posts : transferring ledger.accounts.find? id destination amount =
          .ok (.moved [(id, rest.balance), (destination, y)]
            ⟨.transfer id destination, amount⟩ .completed) := by
        rw [settles, settlingTransfer, accepts, ok_bind, settled, ok_bind]
        simp only [if_true, paid]
        rfl
      exact iff_of_true
        (completes_of_posting opens_none (congrArg some posts) rfl rfl) too_much

end

/--
Whatever is in a ledger, a withdrawal that the rule allows is completed exactly
if balance and limit can be added up, and so is a transfer to another account
that accepts the amount.
-/
theorem completes_allowed_iff (clock : Clock) {ledger : Ledger}
    {id : AccountId} {account : Account} {amount : Decimal}
    (found : ledger.accounts.find? id = some account)
    (positive : .zero < amount) (money : amount.places ≤ moneyPlaces)
    (allows : account.Allows amount) :
    (Completes clock ledger (.withdraw id amount) ↔
      ¬ account.CoverOutOfRange) ∧
      ∀ destination other, ledger.accounts.find? destination = some other →
        other.canAccept amount = .ok () →
          (Completes clock ledger (.transfer id destination amount) ↔
            id ≠ destination ∧ ¬ account.CoverOutOfRange) := by
  have valid : checkAmount amount = .ok () := by
    rw [checkAmount_eq_ok_iff, ← Decimal.units_zero, ← Decimal.lt_iff]
    exact ⟨positive, money⟩
  constructor
  · exact completes_withdraw_iff found valid allows
  · intro destination other other_found accepts
    exact completes_transfer_iff found other_found valid allows accepts

/-- A checking account with all that an account can hold, next to an empty
one. -/
def stuffed (id : AccountId) (owner : OwnerId) : Ledger :=
  after (.still default) .empty
    [.openAccount (some id) owner (.checking .one),
      .deposit id .largest,
      .openAccount none owner (.savings .zero)]

/-- What is in the full account of such a ledger. -/
def stuffedAccount (id : AccountId) (owner : OwnerId) : Account :=
  ⟨id, owner, .checking .one, .largest, #[1]⟩

theorem completes_allowed_iff_stuffed :
    let account := stuffedAccount ⟨1, by decide⟩ ⟨1, by decide⟩
    let ledger := stuffed ⟨1, by decide⟩ ⟨1, by decide⟩
    account.Allows .one ∧
      (Completes (.still default) ledger (.withdraw ⟨1, by decide⟩ .one) ↔
        ¬ account.CoverOutOfRange) ∧
      ∀ destination other, ledger.accounts.find? destination = some other →
        other.canAccept .one = .ok () →
          (Completes (.still default) ledger
              (.transfer ⟨1, by decide⟩ destination .one) ↔
            ⟨1, by decide⟩ ≠ destination ∧ ¬ account.CoverOutOfRange) := by
  have allows : (stuffedAccount ⟨1, by decide⟩ ⟨1, by decide⟩).Allows .one := by
    decide
  exact ⟨allows, completes_allowed_iff (.still default) rfl (by decide)
    (by decide) allows⟩

/-- One cannot be taken out of a full checking account with a limit of one. -/
theorem not_completes_allowed :
    ¬ ∀ (clock : Clock) (ledger : Ledger) (id : AccountId) (account : Account)
      (amount : Decimal), Reachable ledger →
        ledger.accounts.find? id = some account → .zero < amount →
          amount.places ≤ moneyPlaces → account.Allows amount →
            Completes clock ledger (.withdraw id amount) := by
  intro completes
  have allows : (stuffedAccount ⟨1, by decide⟩ ⟨1, by decide⟩).Allows .one := by
    decide
  have completed := completes (.still default)
    (stuffed ⟨1, by decide⟩ ⟨1, by decide⟩) ⟨1, by decide⟩ _ .one
    (Reachable.empty.after _ _) rfl (by decide) (by decide) allows
  have fits := (completes_withdraw_iff rfl rfl allows).1 completed
  exact fits ⟨.one, rfl, by decide⟩

end Passbook
