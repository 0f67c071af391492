import Passbook.Proofs.Posting

/-!
# The ledger of one owner carries out postings

Every operation of a `Ledger` that is confined to some accounts does what its
posting says: it answers the posting's outcome, leaves behind the books that the
posting writes, or is refused and leaves the ledger as it was. The way there is
the ledger's own. It puts accounts back under their ids, some as they were, and
attaches the record afterwards to whatever accounts are open.

## Main results

* `run_perform` — an operation that opens no account carries out its posting.
* `run_openAs` — opening under a given id does too, and moves the highest
  number.
-/

namespace Passbook.Ledger

open Posting Transact Operation

variable {ledger : Ledger} {clock : Clock}

/-- The ledger with other books. -/
def withBooks (ledger : Ledger) (books : Books) : Ledger :=
  ⟨books.accounts, books.journal, ledger.highest⟩

/-- What opening under a given id writes: the id is looked at before the
kind. -/
def opening (find? : AccountId → Option Account) (id : AccountId)
    (owner : OwnerId) (kind : AccountKind) : Except Fault Posting := do
  if (find? id).isSome then throw (.duplicateAccount id.text)
  let account ← Account.new id owner kind
  return .opened account

/-! ## Looking up, putting back, attaching -/

theorem run_require (ledger : Ledger) (id : AccountId) :
    (require id).run ledger =
      match seek ledger.accounts.find? id with
      | .ok account => .ok account ledger
      | .error fault => .error fault ledger := by
  cases found : ledger.accounts.find? id with
  | none => rw [run_require_of_none found, seek, found]
  | some account => rw [run_require_of_some found, seek, found]

theorem find?_attach (accounts : Register) (number : Nat)
    (id other : AccountId) :
    (attach accounts number id).find? other =
      (accounts.find? other).map fun a => if other = id then
        a.attach number else a := by
  unfold attach
  cases found : accounts.find? id with
  | none =>
    by_cases same : other = id
    · rw [same, found]
      rfl
    · simp [same]
  | some account =>
    have account_id : (account.attach number).id = id :=
      (Register.find?_id found : account.id = id)
    simp only [Register.find?_insert, account_id]
    by_cases same : other = id
    · rw [if_pos same.symm, same, found, Option.map_some, if_pos rfl]
    · rw [if_neg (Ne.symm same)]
      simp [same]

/-- Attaching a record to different accounts, one after the other, is attaching
it in place. -/
theorem foldl_attach (accounts : Register) (record : Record)
    (different : record.concerned.Nodup) :
    record.concerned.foldl (attach · record.number) accounts =
      accounts.map (attachIf record) (attachIf_id record) := by
  apply Register.ext_find?
  intro other
  rw [Register.find?_map]
  have fold : ∀ (ids : List AccountId) (accounts : Register), ids.Nodup →
      (ids.foldl (attach · record.number) accounts).find? other =
        (accounts.find? other).map fun a => if other ∈ ids then
          a.attach record.number else a := by
    intro ids
    induction ids with
    | nil =>
      intro accounts _
      simp
    | cons id rest ih =>
      intro accounts nodup
      obtain ⟨not_mem, rest_nodup⟩ := List.nodup_cons.1 nodup
      rw [List.foldl_cons, ih _ rest_nodup, find?_attach, Option.map_map]
      congr 1
      funext a
      by_cases same : other = id
      · subst same
        simp [not_mem]
      · simp [same]
  rw [fold _ accounts different]
  cases found : accounts.find? other with
  | none => rfl
  | some a =>
    have a_id : a.id = other := Register.find?_id found
    rw [Option.map_some, Option.map_some, attachIf, a_id]

/-- Journalling after accounts got new balances carries out a movement. -/
theorem run_append_rebalanced (balances : List (AccountId × Decimal))
    (transaction : Transaction) (status : Status)
    (different : (sealed clock ledger.journal transaction
      status).concerned.Nodup) :
    (append clock transaction status).run
        { ledger with
          accounts :=
            ledger.accounts.map (rebalance balances) (rebalance_id balances) } =
      .ok (sealed clock ledger.journal transaction status)
        (ledger.withBooks
          ((moved balances transaction status).write clock
            (Bookkeeping.books ledger))) := by
  have attached := foldl_attach
    (ledger.accounts.map (rebalance balances) (rebalance_id balances))
    (sealed clock ledger.journal transaction status) different
  rw [Register.map_map] at attached
  show EStateM.Result.ok _ (Ledger.mk _ _ _) =
    EStateM.Result.ok _ (Ledger.mk _ _ _)
  congr 2

/-! ## Operations -/

theorem run_put (ledger : Ledger) (account : Account) :
    (put account).run ledger =
      .ok () { ledger with accounts := ledger.accounts.insert account } := rfl

/-- Journalling after one account was put back with another balance carries out
a movement. -/
theorem run_append_put (clock : Clock) {id : AccountId} {account : Account}
    (balance : Decimal) (transaction : Transaction) (status : Status)
    (found : ledger.accounts.find? id = some account)
    (different : (sealed clock ledger.journal transaction
      status).concerned.Nodup) :
    (append clock transaction status).run
        { ledger with
          accounts := ledger.accounts.insert { account with balance } } =
      .ok (sealed clock ledger.journal transaction status)
        (ledger.withBooks
          ((moved [(id, balance)] transaction status).write clock
            (Bookkeeping.books ledger))) := by
  rw [insert_eq_rebalance balance found]
  exact run_append_rebalanced _ _ _ different

theorem run_deposit (id : AccountId) (amount : Decimal) :
    (Outcome.recorded <$> deposit clock id amount :
      Transact Ledger Outcome).run ledger =
      carryOut withBooks clock ledger
        (depositing ledger.accounts.find? id amount) := by
  rw [run_map]
  unfold deposit depositing
  cases valid : checkAmount amount with
  | error fault => rfl
  | ok _ =>
    simp only [EStateM.run_bind, run_liftM_ok, run_require, ok_bind]
    cases found : seek ledger.accounts.find? id with
    | error fault => rfl
    | ok account =>
      simp only [ok_bind]
      cases paid : account.deposit amount with
      | error fault => rfl
      | ok result =>
        simp only [run_liftM_ok, ok_bind, pure_eq_ok]
        have posted := run_append_put clock result.balance
          ⟨.deposit id, amount⟩ .completed
          (seek_eq_ok found) (nodup_concerned _ _ _ _ nofun)
        rw [← Account.eq_of_deposit paid] at posted
        simp only [run_put, posted]
        rfl

theorem run_withdraw (id : AccountId) (amount : Decimal) :
    (Outcome.recorded <$> withdraw clock id amount :
      Transact Ledger Outcome).run ledger =
      carryOut withBooks clock ledger
        (withdrawing ledger.accounts.find? id amount) := by
  rw [run_map]
  unfold withdraw withdrawing
  cases valid : checkAmount amount with
  | error fault => rfl
  | ok _ =>
    simp only [EStateM.run_bind, run_liftM_ok, run_require, ok_bind]
    cases found : seek ledger.accounts.find? id with
    | error fault => rfl
    | ok account =>
      simp only [ok_bind]
      cases settled : settleWithdrawal account amount with
      | error fault => rfl
      | ok result =>
        obtain ⟨status, result⟩ := result
        simp only [run_liftM_ok, ok_bind, pure_eq_ok]
        have posted := run_append_put clock result.balance
          ⟨.withdrawal id, amount⟩ status
          (seek_eq_ok found) (nodup_concerned _ _ _ _ nofun)
        rw [← eq_of_settleWithdrawal settled] at posted
        simp only [run_put, posted]
        rfl

/-- A transfer that is refused puts both accounts back as they were. -/
theorem run_transfer (source destination : AccountId) (amount : Decimal) :
    (Outcome.recorded <$> transfer clock source destination amount :
      Transact Ledger Outcome).run ledger =
      carryOut withBooks clock ledger
        (transferring ledger.accounts.find? source destination amount) := by
  rw [run_map]
  unfold transfer withPair transferring
  cases valid : checkAmount amount with
  | error fault => rfl
  | ok _ =>
    simp only [EStateM.run_bind, run_liftM_ok, ok_bind]
    by_cases same : source = destination
    · simp only [if_pos same]
      rfl
    · simp only [if_neg same, run_require, EStateM.run_bind]
      cases a_found : seek ledger.accounts.find? source with
      | error fault => rfl
      | ok a =>
        dsimp only
        cases b_found : seek ledger.accounts.find? destination with
        | error fault => rfl
        | ok b =>
          simp only [run_settleTransfer a b valid, pure_eq_ok, ok_bind]
          have a_seen := seek_eq_ok a_found
          have b_seen := seek_eq_ok b_found
          cases settled : settlingTransfer a b amount with
          | error fault =>
            have unchanged : (ledger.accounts.insert b).insert a =
                ledger.accounts := by
              rw [Register.insert_self b_seen, Register.insert_self a_seen]
            show EStateM.Result.error fault
              { ledger with accounts := (ledger.accounts.insert b).insert a } =
                _
            rw [unchanged]
            rfl
          | ok result =>
            obtain ⟨status, a', b'⟩ := result
            have parts := eq_of_settlingTransfer valid settled
            have different : (sealed clock ledger.journal
                ⟨.transfer source destination, amount⟩
                  status).concerned.Nodup :=
              nodup_concerned _ _ _ _ fun id eq => same (by cases eq; rfl)
            have posted := run_append_rebalanced
              [(source, a'.balance), (destination, b'.balance)]
              ⟨.transfer source destination, amount⟩ status different
            rw [← insert_insert_eq_rebalance _ _ same a_seen b_seen, ← parts.1,
              ← parts.2] at posted
            simp only [state_ok, answer_ok, run_put, run_liftM_ok, posted]
            rfl

theorem run_creditInterest (id : AccountId) :
    ((fun record => Outcome.credited record.toList) <$>
      creditInterest clock id :
        Transact Ledger Outcome).run ledger =
      carryOut withBooks clock ledger (crediting ledger.accounts.find? id) := by
  rw [run_map]
  unfold creditInterest crediting
  simp only [EStateM.run_bind, run_require]
  cases found : seek ledger.accounts.find? id with
  | error fault => rfl
  | ok account =>
    simp only [ok_bind]
    cases credited : account.creditInterest with
    | error fault => rfl
    | ok result =>
      obtain ⟨interest, result⟩ := result
      simp only [run_liftM_ok, ok_bind]
      have seen := seek_eq_ok found
      have parts := Account.eq_of_creditInterest credited
      by_cases nothing : interest.mantissa = 0
      · simp only [if_pos nothing]
        have amended : result = amend result.kind result.balance account := by
          rw [parts]
          rfl
        have posted :=
          Register.insert_eq_map (amend_id result.kind result.balance) seen
        rw [← amended] at posted
        show EStateM.Result.ok
          _ { ledger with accounts := ledger.accounts.insert result } = _
        rw [posted]
        rfl
      · simp only [if_neg nothing]
        have posted := run_append_put clock result.balance
          ⟨.interest id, interest⟩
          .completed seen (nodup_concerned _ _ _ _ nofun)
        rw [← parts] at posted
        simp only [EStateM.run_bind, run_put, posted]
        rfl

theorem run_close (id : AccountId) :
    (Outcome.closed <$> close id : Transact Ledger Outcome).run ledger =
      carryOut withBooks clock ledger (closing ledger.accounts.find? id) := by
  rw [run_map]
  unfold close closing
  simp only [EStateM.run_bind, run_require]
  cases found : seek ledger.accounts.find? id with
  | error fault => rfl
  | ok account => rfl

theorem run_setLimit (id : AccountId) (limit : Decimal) :
    ((fun _ => Outcome.limited id limit) <$> setLimit id limit :
      Transact Ledger Outcome).run ledger =
      carryOut withBooks clock ledger
        (limiting ledger.accounts.find? id limit) := by
  rw [run_map]
  unfold setLimit limiting
  simp only [EStateM.run_bind, run_require]
  cases found : seek ledger.accounts.find? id with
  | error fault => rfl
  | ok account =>
    simp only [ok_bind]
    cases limited : account.setLimit limit with
    | error fault => rfl
    | ok result =>
      simp only [run_liftM_ok, ok_bind, pure_eq_ok]
      have amended : result = amend result.kind result.balance account := by
        rw [Account.eq_of_setLimit limited]
        rfl
      have posted := Register.insert_eq_map
        (amend_id result.kind result.balance) (seek_eq_ok found)
      rw [← amended] at posted
      show EStateM.Result.ok
        _ { ledger with accounts := ledger.accounts.insert result } = _
      rw [posted]
      rfl

/-- An operation that opens no account carries out its posting. -/
theorem run_perform {operation : Operation} {posting : Except Fault Posting}
    (opens_none : ∀ given owner kind, operation ≠ .openAccount given owner kind)
    (posts : operation.posting? ledger.accounts.find?
      (opening ledger.accounts.find?) = some posting) :
    (Bookkeeping.perform clock operation).run ledger =
      carryOut withBooks clock ledger posting := by
  cases operation with
  | openAccount given owner kind =>
    exact absurd rfl (opens_none given owner kind)
  | closeAccount id =>
    cases posts
    exact run_close id
  | deposit id amount =>
    cases posts
    exact run_deposit id amount
  | withdraw id amount =>
    cases posts
    exact run_withdraw id amount
  | transfer source destination amount =>
    cases posts
    exact run_transfer source destination amount
  | creditInterest given =>
    cases given with
    | none => cases posts
    | some id =>
      cases posts
      exact run_creditInterest id
  | setLimit id limit =>
    cases posts
    exact run_setLimit id limit

/-! ## Opening -/

theorem opening_eq_ok {find? : AccountId → Option Account} {id : AccountId}
    {owner : OwnerId} {kind : AccountKind} {posting : Posting}
    (posts : opening find? id owner kind = .ok posting) :
    find? id = none ∧ kind.validate = .ok kind ∧
      posting = .opened ⟨id, owner, kind, .zero, #[]⟩ := by
  unfold opening at posts
  by_cases taken : (find? id).isSome = true
  · rw [if_pos taken] at posts
    cases posts
  · rw [if_neg taken] at posts
    obtain ⟨account, fresh, posts⟩ := bind_eq_ok posts
    cases posts
    obtain ⟨valid, rfl⟩ := Account.new_eq_ok_iff.1 fresh
    exact ⟨Option.not_isSome_iff_eq_none.1 taken, valid, rfl⟩

/-- Opening under a given id carries out its posting and moves the highest
number. -/
theorem run_openAs (clock : Clock) (id : AccountId) (owner : OwnerId)
    (kind : AccountKind) :
    (openAs id owner kind).run ledger =
      match opening ledger.accounts.find? id owner kind with
      | .error fault => .error fault ledger
      | .ok posting =>
        .ok id
          { ledger.withBooks (posting.write clock
            (Bookkeeping.books ledger)) with
            highest := some ((ledger.highest.getD 0).max id.number) } := by
  unfold openAs opening
  simp only [EStateM.run_bind, EStateM.run_get]
  by_cases taken : (ledger.accounts.find? id).isSome = true
  · simp only [if_pos taken]
    rfl
  · simp only [if_neg taken]
    cases fresh : Account.new id owner kind with
    | error fault => rfl
    | ok account => rfl

theorem run_openNext (owner : OwnerId) (kind : AccountKind) :
    (openNext owner kind).run ledger =
      match ledger.nextId with
      | .ok id => (openAs id owner kind).run ledger
      | .error fault => .error fault ledger := by
  unfold openNext
  simp only [EStateM.run_bind, EStateM.run_get]
  cases ledger.nextId <;> rfl

end Passbook.Ledger
