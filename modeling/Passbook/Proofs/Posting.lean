import Passbook.Bookkeeping
import Passbook.Proofs.Rewrite

/-!
# Postings: what an operation writes into the books

The two ledgers get at their accounts in different ways, yet what they write is
the same. A `Posting` says it in one of four forms: an account is opened, closed
or amended, or a movement is journalled and the accounts take their new
balances. `Operation.posting?` reads off the open accounts which posting an
operation makes, or the fault that refuses it; it asks the questions in the
order of the ledgers and writes nothing. `Posting.write` then writes, without
asking.

Operations that concern the bank as a whole have no posting of their own:
opening under the next free id depends on a counter, and crediting all is a
sequence of postings.

## Main results

* `find?_write_moved` — an account after a movement has been journalled.
* `every_write_moved_one`, `every_write_moved_two` — what holds of every balance
  after a movement.
* `run_settleTransfer` — a transfer that is refused leaves both accounts alone.
-/

namespace Passbook

/-- What an operation writes into the books. -/
inductive Posting where
  /-- A new account. -/
  | opened (account : Account)
  /-- An account is taken out. -/
  | closed (id : AccountId) (account : Account)
  /-- Kind and balance of an account, with no record of it. -/
  | amended (account : AccountId) (kind : AccountKind) (balance : Decimal)
    (outcome : Outcome)
  /-- A record, and the balances that the accounts have after the movement. -/
  | moved (balances : List (AccountId × Decimal)) (transaction : Transaction)
    (status : Status)

namespace Posting

/-- The account with another kind and balance. -/
def amend (kind : AccountKind) (balance : Decimal) (account : Account) :
    Account :=
  { account with kind, balance }

theorem amend_id (kind : AccountKind) (balance : Decimal) (account : Account) :
    (amend kind balance account).id = account.id := rfl

/-- The account with the balance that a list has for it, if there is one. -/
def rebalance (balances : List (AccountId × Decimal)) (account : Account) :
    Account :=
  { account with balance := (balances.lookup account.id).getD account.balance }

theorem rebalance_id (balances : List (AccountId × Decimal))
    (account : Account) :
    (rebalance balances account).id = account.id := rfl

/-- The account with a record attached if it is concerned. -/
def attachIf (record : Record) (account : Account) : Account :=
  if account.id ∈ record.concerned then
    account.attach record.number else account

theorem attachIf_id (record : Record) (account : Account) :
    (attachIf record account).id = account.id := by
  unfold attachIf
  split <;> rfl

/-- The account with the balance it has after a movement, and the record if it
is concerned. -/
def settle (balances : List (AccountId × Decimal)) (record : Record)
    (account : Account) : Account :=
  attachIf record (rebalance balances account)

theorem settle_id (balances : List (AccountId × Decimal)) (record : Record)
    (account : Account) :
    (settle balances record account).id = account.id :=
  attachIf_id record (rebalance balances account)

theorem kind_settle (balances : List (AccountId × Decimal)) (record : Record)
    (account : Account) :
    (settle balances record account).kind = account.kind := by
  unfold settle attachIf rebalance
  split <;> rfl

theorem balance_settle (balances : List (AccountId × Decimal)) (record : Record)
    (account : Account) :
    (settle balances record account).balance =
      (balances.lookup account.id).getD account.balance := by
  unfold settle attachIf rebalance
  split <;> rfl

/-- A movement that leaves a balance as it was attaches its record at most. -/
theorem settle_of_kept {balances : List (AccountId × Decimal)}
    {account : Account}
    (kept : (balances.lookup account.id).getD account.balance = account.balance)
    (record : Record) :
    settle balances record account = attachIf record account := by
  unfold settle rebalance
  rw [kept]

/-- Balances that are those of the accounts leave every account the balance it
has. -/
theorem kept_of_own {find? : AccountId → Option Account}
    {balances : List (AccountId × Decimal)}
    (own : ∀ entry ∈ balances,
      (find? entry.1).map (·.balance) = some entry.2)
    (id : AccountId) (account : Account) (found : find? id = some account) :
    (balances.lookup id).getD account.balance = account.balance := by
  cases listed : balances.lookup id with
  | none => rfl
  | some balance =>
    obtain ⟨before, behind, rfl, -⟩ := List.lookup_eq_some_iff.1 listed
    have balance_eq := own (id, balance)
      (List.mem_append_right before List.mem_cons_self)
    rw [found] at balance_eq
    exact (Option.some.inj balance_eq).symm

/-- Putting an account back with another balance is rebalancing it in place. -/
theorem insert_eq_rebalance {accounts : Register} {id : AccountId}
    {account : Account}
    (balance : Decimal) (found : accounts.find? id = some account) :
    accounts.insert { account with balance } =
      accounts.map (rebalance [(id, balance)]) (rebalance_id _) := by
  rw [Register.insert_eq_map (f := fun a => { a with balance })
    (fun _ => rfl) found]
  apply Register.map_congr
  intro other a a_found
  have a_id : a.id = other := Register.find?_id a_found
  unfold Register.only rebalance
  by_cases same : a.id = id
  · simp [same]
  · simp [same, List.lookup_cons, beq_false_of_ne same]

/-- Putting two accounts back with other balances is rebalancing both in
place. -/
theorem insert_insert_eq_rebalance {accounts : Register}
    {source destination : AccountId}
    {a b : Account} (x y : Decimal) (different : source ≠ destination)
    (a_found : accounts.find? source = some a)
    (b_found : accounts.find? destination = some b) :
    (accounts.insert { b with balance := y }).insert { a with balance := x } =
      accounts.map (rebalance [(source, x), (destination, y)])
        (rebalance_id _) := by
  have a_still : (accounts.insert { b with balance := y }).find? source =
    some a := by
    have b_id : b.id = destination := Register.find?_id b_found
    have ne : { b with balance := y }.id ≠ source :=
      fun eq => different (eq.symm.trans b_id)
    rw [Register.find?_insert_of_ne ne, a_found]
  rw [insert_eq_rebalance x a_still, insert_eq_rebalance y b_found,
    Register.map_map _ (rebalance_id _) (rebalance_id _)]
  apply Register.map_congr
  intro other c _
  unfold rebalance
  by_cases first : c.id = source
  · simp [first]
  · by_cases second : c.id = destination
    · simp [second, List.lookup_cons, beq_false_of_ne (Ne.symm different)]
    · simp [List.lookup_cons, beq_false_of_ne first, beq_false_of_ne second]

section

variable (clock : Clock)

/-- The record that a transaction becomes in a journal. -/
def sealed (journal : Journal) (transaction : Transaction) (status : Status) :
    Record :=
  (journal.commit (clock.journal journal.size) transaction status).1

/-- A record concerns no account twice, unless it moves money from an account to
itself. -/
theorem nodup_concerned (journal : Journal) (transaction : Transaction)
    (status : Status)
    (different : ∀ id, transaction.movement ≠ .transfer id id) :
    (sealed clock journal transaction status).concerned.Nodup := by
  obtain ⟨movement, amount⟩ := transaction
  cases movement with
  | transfer source destination =>
    have apart : source ≠ destination :=
      fun eq => different destination (by rw [eq])
    cases status <;> simp [Record.concerned, sealed, Journal.commit,
      Movement.source?,
      Movement.destination?, Record.isCompleted, apart]
  | deposit id | withdrawal id | interest id =>
    cases status <;> simp [Record.concerned, sealed, Journal.commit,
      Movement.source?,
      Movement.destination?, Record.isCompleted]

/-- A record concerns none but the accounts that it names. -/
theorem eq_of_mem_concerned {journal : Journal} {transaction : Transaction}
    {status : Status} {id : AccountId}
    (mem : id ∈ (sealed clock journal transaction status).concerned) :
    transaction.movement.source? = some id ∨
      transaction.movement.destination? = some id := by
  rcases Record.mem_concerned_iff.1 mem with source | ⟨-, destination⟩
  · exact Or.inl source
  · exact Or.inr destination

/-- The books after a posting. -/
def write (books : Books) : Posting → Books
  | opened account => { books with accounts := books.accounts.insert account }
  | closed id _ => { books with accounts := books.accounts.erase id }
  | amended id kind balance _ =>
    { books with
      accounts := books.accounts.map (Register.only id (amend kind balance))
        (Register.only_id id (amend_id kind balance)) }
  | moved balances transaction status =>
    { accounts := books.accounts.map
        (settle balances (sealed clock books.journal transaction status))
          (settle_id _ _)
      journal :=
        (books.journal.commit (clock.journal books.journal.size)
          transaction status).2 }

/-- What is answered to an operation that made a posting. -/
def outcome (books : Books) : Posting → Outcome
  | opened account => .opened account.id
  | closed _ account => .closed account
  | amended _ _ _ outcome => outcome
  | moved _ transaction status =>
    match transaction.movement with
    | .interest _ => .credited [sealed clock books.journal transaction status]
    | .deposit _ | .withdrawal _ | .transfer .. =>
      .recorded (sealed clock books.journal transaction status)

theorem find?_write_moved (books : Books)
    (balances : List (AccountId × Decimal))
    (transaction : Transaction) (status : Status) (id : AccountId) :
    ((moved balances transaction status).write clock books).accounts.find? id =
      (books.accounts.find? id).map
        (settle balances (sealed clock books.journal transaction status)) :=
  Register.find?_map _ _ (settle_id _ _) id

theorem find?_write_amended (books : Books) {other : AccountId}
    (kind : AccountKind)
    (balance : Decimal) (outcome : Outcome) (id : AccountId) :
    ((amended other kind balance outcome).write clock books).accounts.find? id =
      (books.accounts.find? id).map
        (Register.only other (amend kind balance)) :=
  Register.find?_map _ _ (Register.only_id other (amend_id kind balance)) id

/-! ### Kinds and balances after a movement -/

variable {clock} {P : AccountKind → Decimal → Prop} {books : Books}
  {transaction : Transaction} {status : Status}

/-- What holds of the kind and the balance of every account still does after a
movement, if it does with each new balance. -/
theorem every_write_moved {balances : List (AccountId × Decimal)}
    (every : books.accounts.Every fun a => P a.kind a.balance)
    (each : ∀ entry ∈ balances, ∀ account,
      books.accounts.find? entry.1 = some account →
        P account.kind entry.2) :
    ((moved balances transaction status).write clock books).accounts.Every
      fun a => P a.kind a.balance := by
  refine (Register.every_map_iff _ (settle_id _ _)).2 ?_
  intro id account found
  have account_id : account.id = id := Register.find?_id found
  rw [kind_settle, balance_settle, account_id]
  cases given : balances.lookup id with
  | none => exact every id account found
  | some balance =>
    obtain ⟨before, behind, rfl, -⟩ := List.lookup_eq_some_iff.1 given
    exact each (id, balance)
      (List.mem_append_right before List.mem_cons_self) account found

/-- A movement on one account matters to that account only. -/
theorem every_write_moved_one {id : AccountId} {account : Account}
    {balance : Decimal}
    (every : books.accounts.Every fun a => P a.kind a.balance)
    (found : books.accounts.find? id = some account)
    (new : P account.kind balance) :
    ((moved [(id, balance)] transaction status).write clock
      books).accounts.Every fun a => P a.kind a.balance := by
  apply every_write_moved every
  intro entry mem other other_found
  rw [List.mem_singleton.1 mem] at other_found ⊢
  rw [found] at other_found
  cases other_found
  exact new

/-- A movement between two accounts matters to these two only. -/
theorem every_write_moved_two {source destination : AccountId} {a b : Account}
    {x y : Decimal} (every : books.accounts.Every fun a => P a.kind a.balance)
    (a_found : books.accounts.find? source = some a)
    (b_found : books.accounts.find? destination = some b)
    (a_new : P a.kind x) (b_new : P b.kind y) :
    ((moved [(source, x), (destination, y)] transaction status).write clock
      books).accounts.Every fun a => P a.kind a.balance := by
  apply every_write_moved every
  intro entry mem other other_found
  rcases List.mem_cons.1 mem with rfl | mem
  · rw [a_found] at other_found
    cases other_found
    exact a_new
  · rw [List.mem_singleton.1 mem] at other_found ⊢
    rw [b_found] at other_found
    cases other_found
    exact b_new

end

/-- What a ledger does with a posting, or with the fault there is instead. -/
def carryOut {β : Type} [Bookkeeping β] (withBooks : β → Books → β)
    (clock : Clock) (ledger : β) :
    Except Fault Posting → EStateM.Result Fault β Outcome
  | .error fault => .error fault ledger
  | .ok posting =>
    .ok (posting.outcome clock (Bookkeeping.books ledger))
      (withBooks ledger (posting.write clock (Bookkeeping.books ledger)))

end Posting

namespace Operation

/-- The account that is found under an id. -/
def seek (find? : AccountId → Option Account) (id : AccountId) :
    Except Fault Account :=
  match find? id with
  | some account => .ok account
  | none => .error (.accountNotFound id.text)

section

variable (find? : AccountId → Option Account)

def closing (id : AccountId) : Except Fault Posting := do
  return .closed id (← seek find? id)

def depositing (id : AccountId) (amount : Decimal) : Except Fault Posting := do
  checkAmount amount
  let account ← seek find? id
  let account ← account.deposit amount
  return .moved [(id, account.balance)] ⟨.deposit id, amount⟩ .completed

def withdrawing (id : AccountId) (amount : Decimal) : Except Fault Posting := do
  checkAmount amount
  let account ← seek find? id
  let (status, account) ← settleWithdrawal account amount
  return .moved [(id, account.balance)] ⟨.withdrawal id, amount⟩ status

/-- What a transfer makes of the balances of two accounts, source first. -/
def settlingTransfer (a b : Account) (amount : Decimal) :
    Except Fault (Status × Account × Account) := do
  b.canAccept amount
  let (status, a) ← settleWithdrawal a amount
  let b ← if status = .completed then b.deposit amount else .ok b
  return (status, a, b)

def transferring (source destination : AccountId) (amount : Decimal) :
    Except Fault Posting := do
  checkAmount amount
  if source = destination then throw (.sameAccount source.text)
  let a ← seek find? source
  let b ← seek find? destination
  let (status, a, b) ← settlingTransfer a b amount
  return .moved [(source, a.balance), (destination, b.balance)]
    ⟨.transfer source destination, amount⟩ status

def crediting (id : AccountId) : Except Fault Posting := do
  let account ← seek find? id
  let (interest, account) ← account.creditInterest
  if interest.mantissa = 0 then
    return .amended id account.kind account.balance (.credited [])
  return .moved [(id, account.balance)] ⟨.interest id, interest⟩ .completed

def limiting (id : AccountId) (limit : Decimal) : Except Fault Posting := do
  let account ← seek find? id
  let account ← account.setLimit limit
  return .amended id account.kind account.balance (.limited id limit)

/-- What an operation writes, where the opening of an account is left to the
ledger. -/
def posting? (opening : AccountId → OwnerId → AccountKind →
    Except Fault Posting) :
    Operation → Option (Except Fault Posting)
  | openAccount (some id) owner kind => some (opening id owner kind)
  | closeAccount id => some (closing find? id)
  | deposit id amount => some (depositing find? id amount)
  | withdraw id amount => some (withdrawing find? id amount)
  | transfer source destination amount =>
    some (transferring find? source destination amount)
  | creditInterest (some id) => some (crediting find? id)
  | setLimit id limit => some (limiting find? id limit)
  | openAccount none _ _ | creditInterest none => none

end

theorem posting?_eq_none_iff
    {opening : AccountId → OwnerId → AccountKind → Except Fault Posting}
    {find? : AccountId → Option Account} {operation : Operation} :
    operation.posting? find? opening = none ↔ operation.footprint = none := by
  rw [footprint_eq_none_iff]
  cases operation with
  | openAccount given owner kind => cases given <;> simp [posting?]
  | creditInterest given => cases given <;> simp [posting?]
  | closeAccount | deposit | withdraw | transfer | setLimit => simp [posting?]

theorem seek_eq_ok {find? : AccountId → Option Account} {id : AccountId}
    {account : Account}
    (found : seek find? id = .ok account) : find? id = some account := by
  unfold seek at found
  split at found
  · rename_i eq
    rw [eq, Except.ok.inj found]
  · cases found

end Operation

/-! ## What is left of an account when its balance is changed -/

namespace Account

theorem validate_eq_ok {kind kind' : AccountKind}
    (valid : kind.validate = .ok kind') :
    kind' = kind := by
  cases kind with
  | savings rate => exact (AccountKind.validate_savings_eq_ok_iff.1 valid).1
  | checking limit => exact (AccountKind.validate_checking_eq_ok_iff.1 valid).1

theorem new_eq_ok_iff {id : AccountId} {owner : OwnerId} {kind : AccountKind}
    {account : Account} :
    new id owner kind = .ok account ↔
      kind.validate = .ok kind ∧ account = ⟨id, owner, kind, .zero, #[]⟩ := by
  unfold new
  cases valid : kind.validate with
  | error fault => simp only [Transact.error_bind, reduceCtorEq, false_and]
  | ok kind' =>
    obtain rfl := validate_eq_ok valid
    simp only [Transact.ok_bind, Transact.pure_eq_ok, Except.ok.injEq, true_and]
    exact eq_comm

theorem eq_of_deposit {account result : Account} {amount : Decimal}
    (paid : account.deposit amount = .ok result) :
    result = { account with balance := result.balance } := by
  obtain ⟨-, balance, -, rfl⟩ := deposit_eq_ok_iff.1 paid
  rfl

theorem creditInterest_eq_ok {account result : Account} {interest : Decimal}
    (credited : account.creditInterest = .ok (interest, result)) :
    ∃ rate balance, account.kind = .savings rate ∧
      interestOn account.balance rate = some interest ∧
      account.balance.add? interest = some balance ∧
        result = { account with balance } := by
  unfold creditInterest at credited
  split at credited
  · cases credited
  · rename_i rate saves
    split at credited
    · cases credited
    · rename_i earned
      split at credited
      · cases credited
      · rename_i balance sum
        cases credited
        exact ⟨rate, balance, saves, earned, sum, rfl⟩

theorem eq_of_creditInterest {account result : Account} {interest : Decimal}
    (credited : account.creditInterest = .ok (interest, result)) :
    result = { account with balance := result.balance } := by
  obtain ⟨-, balance, -, -, -, rfl⟩ := creditInterest_eq_ok credited
  rfl

theorem setLimit_eq_ok {account result : Account} {limit : Decimal}
    (limited : account.setLimit limit = .ok result) :
    ∃ old, account.kind = .checking old ∧
      AccountKind.ofLimit limit = .ok (.checking limit) ∧
      ¬ account.balance < (AccountKind.checking limit).floor ∧
      result = { account with kind := .checking limit } := by
  unfold setLimit at limited
  split at limited
  · cases limited
  · rename_i old checks
    obtain ⟨kind, checked, limited⟩ := Transact.bind_eq_ok limited
    obtain rfl : kind = .checking limit := validate_eq_ok checked
    by_cases below : account.balance < (AccountKind.checking limit).floor
    · rw [if_pos below] at limited
      cases limited
    · rw [if_neg below] at limited
      cases limited
      exact ⟨old, checks, checked, below, rfl⟩

theorem eq_of_setLimit {account result : Account} {limit : Decimal}
    (limited : account.setLimit limit = .ok result) :
    result = { account with kind := result.kind } := by
  obtain ⟨-, -, -, -, rfl⟩ := setLimit_eq_ok limited
  rfl

end Account

/-- A withdrawal settles as completed if the account lets it go, and as failed
if its rule refuses. -/
theorem settleWithdrawal_eq_ok_iff {account result : Account} {amount : Decimal}
    {status : Status} :
    settleWithdrawal account amount = .ok (status, result) ↔
      (status = .completed ∧ account.withdraw amount = .ok result) ∨
        (status = .failed ∧ result = account ∧
          ∃ fault, account.withdraw amount = .error fault ∧
            fault.isRefusal = true) := by
  unfold settleWithdrawal
  cases taken : account.withdraw amount with
  | ok rest =>
    simp only [Except.ok.injEq, Prod.mk.injEq, reduceCtorEq, false_and,
      exists_false, and_false, or_false]
    exact ⟨fun ⟨done, same⟩ => ⟨done.symm, same⟩, fun ⟨done, same⟩ =>
      ⟨done.symm, same⟩⟩
  | error fault =>
    by_cases refusal : fault.isRefusal = true
    · simp only [refusal, if_true, Except.ok.injEq, Prod.mk.injEq, reduceCtorEq,
        and_false, false_or, Except.error.injEq, exists_eq_left', and_true]
      exact ⟨fun ⟨done, same⟩ => ⟨done.symm, same.symm⟩, fun ⟨done, same⟩ =>
        ⟨done.symm, same.symm⟩⟩
    · simp [refusal]

theorem eq_of_settleWithdrawal {account result : Account} {amount : Decimal}
    {status : Status}
    (settled : settleWithdrawal account amount = .ok (status, result)) :
    result = { account with balance := result.balance } := by
  rcases settleWithdrawal_eq_ok_iff.1 settled with ⟨-, taken⟩ | ⟨-, same, -⟩
  · obtain ⟨-, -, balance, -, rfl⟩ := Account.withdraw_eq_ok_iff.1 taken
    rfl
  · rw [same]

/-! ## Transfers -/

theorem deposit_of_canAccept {account : Account} {amount : Decimal}
    (accepts : account.canAccept amount = .ok ())
    (valid : checkAmount amount = .ok ()) :
    ∃ balance, account.balance.add? amount = some balance ∧
      account.deposit amount = .ok { account with balance } := by
  unfold Account.canAccept Account.raised at accepts
  cases sum : account.balance.add? amount with
  | none =>
    rw [sum] at accepts
    cases accepts
  | some balance =>
    exact ⟨balance, rfl, Account.deposit_eq_ok_iff.2 ⟨valid, balance, sum, rfl⟩⟩

/-- A transfer is completed on both sides, or failed on both. -/
theorem settlingTransfer_eq_ok {a b a' b' : Account} {amount : Decimal}
    {status : Status} (valid : checkAmount amount = .ok ())
    (settled : Operation.settlingTransfer a b amount = .ok (status, a', b')) :
    (status = .completed ∧ a.checkCover amount = .ok () ∧ ∃ x y,
      a.balance.sub? amount = some x ∧ b.balance.add? amount = some y ∧
        a' = { a with balance := x } ∧ b' = { b with balance := y }) ∨
      (status = .failed ∧ a' = a ∧ b' = b ∧
        ∃ fault, a.withdraw amount = .error fault ∧
          fault.isRefusal = true) := by
  obtain ⟨_, accepts, checked⟩ := Transact.bind_eq_ok settled
  obtain ⟨⟨state, rest⟩, taken, paying⟩ := Transact.bind_eq_ok checked
  rcases settleWithdrawal_eq_ok_iff.1 taken with
    ⟨rfl, paid_out⟩ | ⟨rfl, same, refusal⟩
  · obtain ⟨y, sum, paid_in⟩ := deposit_of_canAccept accepts valid
    obtain ⟨-, covered, x, difference, rfl⟩ :=
      Account.withdraw_eq_ok_iff.1 paid_out
    simp only [if_true, paid_in] at paying
    cases paying
    exact Or.inl ⟨rfl, covered, x, y, difference, sum, rfl, rfl⟩
  · cases paying
    exact Or.inr ⟨rfl, same, rfl, refusal⟩

theorem eq_of_settlingTransfer {a b a' b' : Account} {amount : Decimal}
    {status : Status} (valid : checkAmount amount = .ok ())
    (settled : Operation.settlingTransfer a b amount = .ok (status, a', b')) :
    a' = { a with balance := a'.balance } ∧
      b' = { b with balance := b'.balance } := by
  rcases settlingTransfer_eq_ok valid settled with
    ⟨-, -, x, y, -, -, rfl, rfl⟩ | ⟨-, rfl, rfl, -⟩
  · exact ⟨rfl, rfl⟩
  · exact ⟨rfl, rfl⟩

/--
A transfer that is refused leaves both accounts alone: once the source has paid,
the destination takes the amount, since that was asked first.
-/
theorem run_settleTransfer (a b : Account) {amount : Decimal}
    (valid : checkAmount amount = .ok ()) :
    (settleTransfer amount).run (a, b) =
      match Operation.settlingTransfer a b amount with
      | .ok (status, a', b') => .ok status (a', b')
      | .error fault => .error fault (a, b) := by
  unfold settleTransfer Operation.settlingTransfer
  simp only [EStateM.run_bind, EStateM.run_get]
  cases accepts : b.canAccept amount with
  | error fault => rfl
  | ok _ =>
    simp only [Transact.run_liftM_ok, Transact.ok_bind]
    cases settled : settleWithdrawal a amount with
    | error fault => rfl
    | ok result =>
      obtain ⟨status, a'⟩ := result
      cases status with
      | failed =>
        have same : a' = a := by
          rcases settleWithdrawal_eq_ok_iff.1 settled with
            ⟨completed, -⟩ | ⟨-, same, -⟩
          · cases completed
          · exact same
        rw [same]
        rfl
      | completed =>
        obtain ⟨balance, -, paid⟩ := deposit_of_canAccept accepts valid
        simp only [Transact.run_liftM_ok, Transact.ok_bind, paid, if_true]
        rfl

end Passbook
