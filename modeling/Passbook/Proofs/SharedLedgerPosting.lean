import Passbook.Proofs.Posting

/-!
# The shared ledger carries out postings

Every operation of a `SharedLedger` that is confined to some accounts does what
its posting says. Here a worker holds the accounts, works on them and on the
journal, and lets them go with the record attached; a record never reaches an
account that is not held. That this is no loss, and the books are those that the
posting writes, is because a movement concerns none but the accounts that are
held.

## Main results

* `run_perform` — an operation that opens no account carries out its posting.
* `run_openAs` — opening under a given id does too, and moves the counter.
* `openNextFrom_cases` — opening under the next free id opens some account, or
  none.
-/

namespace Passbook.SharedLedger

open Posting Transact Operation

variable {ledger : SharedLedger} {clock : Clock}

/-- The ledger with other books. -/
def withBooks (ledger : SharedLedger) (books : Books) : SharedLedger :=
  ⟨books.accounts, books.journal, ledger.counter⟩

/-- What opening under a given id writes: the kind is looked at before the
id. -/
def opening (find? : AccountId → Option Account) (id : AccountId)
    (owner : OwnerId) (kind : AccountKind) : Except Fault Posting := do
  let account ← Account.new id owner kind
  if (find? id).isSome then throw (.duplicateAccount id.text)
  return .opened account

/-! ## Holding accounts -/

theorem run_hold (ledger : SharedLedger) (id : AccountId) :
    (hold id).run ledger =
      match seek ledger.accounts.find? id with
      | .ok account => .ok account ledger
      | .error fault => .error fault ledger := by
  unfold hold seek
  simp only [EStateM.run_bind, EStateM.run_get]
  cases ledger.accounts.find? id <;> rfl

theorem run_update {α : Type} {id : AccountId} {account : Account}
    (act : Transact (Held Account) α)
    (found : seek ledger.accounts.find? id = .ok account) :
    (update id act).run ledger =
      match act.run (account, ledger.journal) with
      | .ok answer (account, journal) =>
        .ok answer
          { ledger with accounts := ledger.accounts.insert account, journal }
      | .error fault (account, journal) =>
        .error fault
          { ledger with
            accounts := ledger.accounts.insert account
            journal } := by
  unfold update
  simp only [EStateM.run_bind, run_hold, found, EStateM.run_get]
  cases act.run (account, ledger.journal) <;> rfl

theorem run_update_of_error {α : Type} {id : AccountId} {fault : Fault}
    (act : Transact (Held Account) α)
    (missing : seek ledger.accounts.find? id = .error fault) :
    (update id act).run ledger = .error fault ledger := by
  unfold update
  simp only [EStateM.run_bind, run_hold, missing]

/-- The record is attached to a held account if it concerns it. -/
theorem attachTo_eq_attachIf {record : Record}
    (different : record.concerned.Nodup)
    (account : Account) : attachTo record account =
      attachIf record account := by
  have fold : ∀ (ids : List AccountId) (a : Account), ids.Nodup →
      ids.foldl (fun a id => if a.id = id then
        a.attach record.number else a) a =
        if a.id ∈ ids then a.attach record.number else a := by
    intro ids
    induction ids with
    | nil =>
      intro a _
      simp
    | cons id rest ih =>
      intro a nodup
      obtain ⟨not_mem, rest_nodup⟩ := List.nodup_cons.1 nodup
      rw [List.foldl_cons, ih _ rest_nodup]
      by_cases same : a.id = id
      · subst same
        simp [Account.attach, not_mem]
      · simp [same]
  exact fold record.concerned account different

theorem run_append (clock : Clock) (account : Account) {journal : Journal}
    {transaction : Transaction} {status : Status}
    (different : (sealed clock journal transaction status).concerned.Nodup) :
    (append clock transaction status).run (account, journal) =
      .ok (sealed clock journal transaction status)
        (attachIf (sealed clock journal transaction status) account,
          (journal.commit (clock.journal journal.size) transaction
            status).2) := by
  rw [← attachTo_eq_attachIf different]
  rfl

/-- Attaching before an account is put back is attaching afterwards, if no other
is concerned. -/
theorem insert_attachIf {accounts : Register} {id : AccountId}
    {account : Account} {record : Record} (balance : Decimal)
    (found : accounts.find? id = some account)
    (confined : ∀ other ∈ record.concerned, other = id) :
    accounts.insert (attachIf record { account with balance }) =
      accounts.map (settle [(id, balance)] record) (settle_id _ _) := by
  have account_id : account.id = id := Register.find?_id found
  have merged := Register.map_map accounts (rebalance_id [(id, balance)])
    (attachIf_id record)
  rw [← insert_eq_rebalance balance found] at merged
  refine Eq.trans ?_ merged
  apply Register.ext_find?
  intro other
  rw [Register.find?_map, Register.find?_insert, Register.find?_insert,
    attachIf_id, account_id]
  by_cases same : id = other
  · rw [if_pos same, if_pos same, Option.map_some]
  · rw [if_neg same, if_neg same]
    cases other_found : accounts.find? other with
    | none => rfl
    | some b =>
      have b_id : b.id = other := Register.find?_id other_found
      have apart : b.id ∉ record.concerned :=
        fun mem => same ((confined _ mem).symm.trans b_id)
      rw [Option.map_some, attachIf, if_neg apart]

/-- Attaching before two accounts are put back is attaching afterwards, if no
other is concerned. -/
theorem insert_insert_attachIf {accounts : Register}
    {source destination : AccountId}
    {a b : Account} {record : Record} (x y : Decimal)
    (different : source ≠ destination)
    (a_found : accounts.find? source = some a)
    (b_found : accounts.find? destination = some b)
    (confined : ∀ other ∈ record.concerned, other = source ∨
      other = destination) :
    (accounts.insert (attachIf record { b with balance := y })).insert
        (attachIf record { a with balance := x }) =
      accounts.map (settle [(source, x), (destination, y)] record)
        (settle_id _ _) := by
  have a_id : a.id = source := Register.find?_id a_found
  have b_id : b.id = destination := Register.find?_id b_found
  have merged :=
    Register.map_map accounts (rebalance_id [(source, x), (destination, y)])
    (attachIf_id record)
  rw [← insert_insert_eq_rebalance x y different a_found b_found] at merged
  refine Eq.trans ?_ merged
  apply Register.ext_find?
  intro other
  simp only [Register.find?_map, Register.find?_insert, attachIf_id, a_id, b_id]
  by_cases first : source = other
  · rw [if_pos first, if_pos first, Option.map_some]
  · rw [if_neg first, if_neg first]
    by_cases second : destination = other
    · rw [if_pos second, if_pos second, Option.map_some]
    · rw [if_neg second, if_neg second]
      cases other_found : accounts.find? other with
      | none => rfl
      | some c =>
        have c_id : c.id = other := Register.find?_id other_found
        have apart : c.id ∉ record.concerned := fun mem => by
          rcases confined _ mem with eq | eq
          · exact first (eq.symm.trans c_id)
          · exact second (eq.symm.trans c_id)
        rw [Option.map_some, attachIf, if_neg apart]

/-! ## Operations -/

/-- Letting an account go as it was changes nothing. -/
theorem release_unchanged {id : AccountId} {account : Account}
    (found : ledger.accounts.find? id = some account) :
    { ledger with accounts := ledger.accounts.insert account } = ledger := by
  rw [Register.insert_self found]

/-- Letting an account go with a balance and a record leaves the books of a
movement. -/
theorem release_settled (clock : Clock) {id : AccountId} {account : Account}
    (balance : Decimal) (transaction : Transaction) (status : Status)
    (found : ledger.accounts.find? id = some account)
    (alone : ∀ other, transaction.movement.source? = some other ∨
      transaction.movement.destination? = some other → other = id) :
    { ledger with
      accounts := ledger.accounts.insert
        (attachIf (sealed clock ledger.journal transaction status)
          { account with balance })
      journal :=
        (ledger.journal.commit (clock.journal ledger.journal.size)
          transaction status).2 } =
      ledger.withBooks
        ((moved [(id, balance)] transaction status).write clock
          (Bookkeeping.books ledger)) := by
  rw [insert_attachIf balance found fun other mem =>
    alone other (eq_of_mem_concerned clock mem)]
  rfl

theorem run_deposit (id : AccountId) (amount : Decimal) :
    (Outcome.recorded <$> deposit clock id amount :
      Transact SharedLedger Outcome).run ledger =
      carryOut withBooks clock ledger
        (depositing ledger.accounts.find? id amount) := by
  rw [run_map]
  unfold deposit depositing
  cases valid : checkAmount amount with
  | error fault => rfl
  | ok _ =>
    simp only [EStateM.run_bind, run_liftM_ok, ok_bind]
    cases found : seek ledger.accounts.find? id with
    | error fault =>
      simp only [run_update_of_error _ found]
      rfl
    | ok account =>
      have seen := seek_eq_ok found
      simp only [run_update _ found, EStateM.run_bind, EStateM.run_get, ok_bind]
      cases paid : account.deposit amount with
      | error fault =>
        simp only [run_liftM_error, error_bind]
        rw [release_unchanged seen]
        rfl
      | ok result =>
        have appended := run_append clock result
          (nodup_concerned clock ledger.journal ⟨.deposit id, amount⟩
            .completed nofun)
        have released := release_settled clock result.balance
          ⟨.deposit id, amount⟩ .completed seen
          (by simp [Movement.source?, Movement.destination?])
        rw [← Account.eq_of_deposit paid] at released
        simp only [run_liftM_ok, EStateM.run_set, appended, ok_bind, pure_eq_ok,
          released]
        rfl

theorem run_withdraw (id : AccountId) (amount : Decimal) :
    (Outcome.recorded <$> withdraw clock id amount :
      Transact SharedLedger Outcome).run ledger =
      carryOut withBooks clock ledger
        (withdrawing ledger.accounts.find? id amount) := by
  rw [run_map]
  unfold withdraw withdrawing
  cases valid : checkAmount amount with
  | error fault => rfl
  | ok _ =>
    simp only [EStateM.run_bind, run_liftM_ok, ok_bind]
    cases found : seek ledger.accounts.find? id with
    | error fault =>
      simp only [run_update_of_error _ found]
      rfl
    | ok account =>
      have seen := seek_eq_ok found
      simp only [run_update _ found, EStateM.run_bind, EStateM.run_get, ok_bind]
      cases settled : settleWithdrawal account amount with
      | error fault =>
        simp only [run_liftM_error, error_bind]
        rw [release_unchanged seen]
        rfl
      | ok result =>
        obtain ⟨status, result⟩ := result
        have appended := run_append clock result
          (nodup_concerned clock ledger.journal
            ⟨.withdrawal id, amount⟩ status nofun)
        have released := release_settled clock result.balance
          ⟨.withdrawal id, amount⟩ status seen
          (by simp [Movement.source?, Movement.destination?])
        rw [← eq_of_settleWithdrawal settled] at released
        simp only [run_liftM_ok, EStateM.run_set, appended, ok_bind, pure_eq_ok,
          released]
        rfl

theorem run_creditInterest (id : AccountId) :
    ((fun record => Outcome.credited record.toList) <$>
      creditInterest clock id :
        Transact SharedLedger Outcome).run ledger =
      carryOut withBooks clock ledger (crediting ledger.accounts.find? id) := by
  rw [run_map]
  unfold creditInterest crediting
  cases found : seek ledger.accounts.find? id with
  | error fault =>
    simp only [run_update_of_error _ found]
    rfl
  | ok account =>
    have seen := seek_eq_ok found
    simp only [run_update _ found, EStateM.run_bind, EStateM.run_get, ok_bind]
    cases credited : account.creditInterest with
    | error fault =>
      simp only [run_liftM_error, error_bind]
      rw [release_unchanged seen]
      rfl
    | ok result =>
      obtain ⟨interest, result⟩ := result
      have parts := Account.eq_of_creditInterest credited
      simp only [run_liftM_ok, EStateM.run_set, ok_bind]
      by_cases nothing : interest.mantissa = 0
      · have amended : result = amend result.kind result.balance account := by
          rw [parts]
          rfl
        have posted :=
          Register.insert_eq_map (amend_id result.kind result.balance) seen
        rw [← amended] at posted
        simp only [if_pos nothing, EStateM.run_pure, posted]
        rfl
      · have appended := run_append clock result
          (nodup_concerned clock ledger.journal ⟨.interest id, interest⟩
            .completed nofun)
        have released := release_settled clock result.balance
          ⟨.interest id, interest⟩ .completed
          seen (by simp [Movement.source?, Movement.destination?])
        rw [← parts] at released
        simp only [if_neg nothing, EStateM.run_bind, appended, EStateM.run_pure,
          released]
        rfl

theorem run_setLimit (id : AccountId) (limit : Decimal) :
    ((fun _ => Outcome.limited id limit) <$> setLimit id limit :
        Transact SharedLedger Outcome).run ledger =
      carryOut withBooks clock ledger
        (limiting ledger.accounts.find? id limit) := by
  rw [run_map]
  unfold setLimit limiting
  cases found : seek ledger.accounts.find? id with
  | error fault =>
    simp only [run_update_of_error _ found]
    rfl
  | ok account =>
    have seen := seek_eq_ok found
    simp only [run_update _ found, EStateM.run_bind, EStateM.run_get, ok_bind]
    cases limited : account.setLimit limit with
    | error fault =>
      simp only [run_liftM_error, error_bind]
      rw [release_unchanged seen]
      rfl
    | ok result =>
      have amended : result = amend result.kind result.balance account := by
        rw [Account.eq_of_setLimit limited]
        rfl
      have posted :=
        Register.insert_eq_map (amend_id result.kind result.balance) seen
      rw [← amended] at posted
      simp only [run_liftM_ok, EStateM.run_set, ok_bind, pure_eq_ok, posted]
      rfl

theorem run_close (id : AccountId) :
    (Outcome.closed <$> close id : Transact SharedLedger Outcome).run ledger =
      carryOut withBooks clock ledger (closing ledger.accounts.find? id) := by
  rw [run_map]
  unfold close closing
  simp only [EStateM.run_bind, run_hold]
  cases found : seek ledger.accounts.find? id with
  | error fault => rfl
  | ok account => rfl

theorem run_appendPair (clock : Clock) (a b : Account) {journal : Journal}
    {transaction : Transaction} {status : Status}
    (different : (sealed clock journal transaction status).concerned.Nodup) :
    (appendPair clock transaction status).run ((a, b), journal) =
      .ok (sealed clock journal transaction status)
        ((attachIf (sealed clock journal transaction status) a,
          attachIf (sealed clock journal transaction status) b),
          (journal.commit (clock.journal journal.size) transaction
            status).2) := by
  rw [← attachTo_eq_attachIf different, ← attachTo_eq_attachIf different]
  rfl

/-- Letting two accounts go with balances and a record leaves the books of a
transfer. -/
theorem releasePair_settled (clock : Clock) {source destination : AccountId}
    {a b : Account}
    (x y amount : Decimal) (status : Status) (different : source ≠ destination)
    (a_found : ledger.accounts.find? source = some a)
    (b_found : ledger.accounts.find? destination = some b) :
    let transaction : Transaction := ⟨.transfer source destination, amount⟩
    let record := sealed clock ledger.journal transaction status
    { ledger with
      accounts :=
        (ledger.accounts.insert
          (attachIf record { b with balance := y })).insert
        (attachIf record { a with balance := x })
      journal :=
        (ledger.journal.commit (clock.journal ledger.journal.size)
          transaction status).2 } =
      ledger.withBooks
        ((moved [(source, x), (destination, y)] transaction status).write clock
          (Bookkeeping.books ledger)) := by
  intro transaction record
  have confined : ∀ other ∈ record.concerned, other = source ∨
      other = destination := by
    intro other mem
    rcases eq_of_mem_concerned clock mem with eq | eq
    · exact Or.inl (Option.some.inj eq).symm
    · exact Or.inr (Option.some.inj eq).symm
  rw [insert_insert_attachIf x y different a_found b_found confined]
  rfl

/-- A transfer that is refused lets both accounts go as they were. -/
theorem run_transfer (source destination : AccountId) (amount : Decimal) :
    (Outcome.recorded <$> transfer clock source destination amount :
        Transact SharedLedger Outcome).run ledger =
      carryOut withBooks clock ledger
        (transferring ledger.accounts.find? source destination amount) := by
  rw [run_map]
  unfold transfer updatePair transferring
  cases valid : checkAmount amount with
  | error fault => rfl
  | ok _ =>
    simp only [EStateM.run_bind, run_liftM_ok, ok_bind]
    by_cases same : source = destination
    · simp only [if_pos same]
      rfl
    · simp only [if_neg same, run_hold, EStateM.run_bind]
      cases a_found : seek ledger.accounts.find? source with
      | error fault => rfl
      | ok a =>
        dsimp only
        cases b_found : seek ledger.accounts.find? destination with
        | error fault => rfl
        | ok b =>
          have a_seen := seek_eq_ok a_found
          have b_seen := seek_eq_ok b_found
          simp only [EStateM.run_get, run_settleTransfer a b valid, pure_eq_ok,
            ok_bind]
          cases settled : settlingTransfer a b amount with
          | error fault =>
            have unchanged : (ledger.accounts.insert b).insert a =
                ledger.accounts := by
              rw [Register.insert_self b_seen, Register.insert_self a_seen]
            show EStateM.Result.error fault
              { ledger with accounts := (ledger.accounts.insert b).insert a } =
                _
            rw [unchanged]
            rfl
          | ok result =>
            obtain ⟨status, a', b'⟩ := result
            have parts := eq_of_settlingTransfer valid settled
            have appended := run_appendPair clock a' b'
              (nodup_concerned clock ledger.journal
                ⟨.transfer source destination, amount⟩ status
                fun id eq => same (by cases eq; rfl))
            have released := releasePair_settled clock a'.balance b'.balance
              amount status same
              a_seen b_seen
            simp only [← parts.1, ← parts.2] at released
            simp only [state_ok, answer_ok, EStateM.run_set, run_liftM_ok,
              appended, EStateM.run_modify, released]
            rfl

/-- An operation that opens no account carries out its posting. -/
theorem run_perform {operation : Operation} {posting : Except Fault Posting}
    (opens_none : ∀ given owner kind, operation ≠ .openAccount given owner kind)
    (posts : operation.posting? ledger.accounts.find?
      (opening ledger.accounts.find?) =
      some posting) :
    (Bookkeeping.perform clock operation).run ledger =
      carryOut withBooks clock ledger posting := by
  cases operation with
  | openAccount given owner kind =>
    exact absurd rfl (opens_none given owner kind)
  | closeAccount id =>
    cases posts
    exact run_close id
  | deposit id amount =>
    cases posts
    exact run_deposit id amount
  | withdraw id amount =>
    cases posts
    exact run_withdraw id amount
  | transfer source destination amount =>
    cases posts
    exact run_transfer source destination amount
  | creditInterest given =>
    cases given with
    | none => cases posts
    | some id =>
      cases posts
      exact run_creditInterest id
  | setLimit id limit =>
    cases posts
    exact run_setLimit id limit

/-! ## Opening -/

theorem opening_eq_ok {find? : AccountId → Option Account} {id : AccountId}
    {owner : OwnerId} {kind : AccountKind} {posting : Posting}
    (posts : opening find? id owner kind = .ok posting) :
    find? id = none ∧ kind.validate = .ok kind ∧
      posting = .opened ⟨id, owner, kind, .zero, #[]⟩ := by
  obtain ⟨account, fresh, posts⟩ := bind_eq_ok posts
  by_cases taken : (find? id).isSome = true
  · rw [if_pos taken] at posts
    cases posts
  · rw [if_neg taken] at posts
    cases posts
    obtain ⟨valid, rfl⟩ := Account.new_eq_ok_iff.1 fresh
    exact ⟨Option.not_isSome_iff_eq_none.1 taken, valid, rfl⟩

/-- Opening under a given id carries out its posting and moves the counter. -/
theorem run_openAs (clock : Clock) (id : AccountId) (owner : OwnerId)
    (kind : AccountKind) :
    (openAs id owner kind).run ledger =
      match opening ledger.accounts.find? id owner kind with
      | .error fault => .error fault ledger
      | .ok posting =>
        .ok id
          { ledger.withBooks (posting.write clock
            (Bookkeeping.books ledger)) with
            counter := max ledger.counter (UInt32.ofNat id.number) } := by
  unfold openAs opening
  simp only [EStateM.run_bind]
  cases fresh : Account.new id owner kind with
  | error fault => rfl
  | ok account =>
    simp only [run_liftM_ok, EStateM.run_get, ok_bind]
    by_cases taken : (ledger.accounts.find? id).isSome = true
    · simp only [if_pos taken]
      rfl
    · simp only [if_neg taken]
      rfl

/-- Opening under the next free id opens an account under some free id, or
leaves the books alone. -/
theorem openNextFrom_cases (owner : OwnerId) (kind : AccountKind)
    (ledger : SharedLedger) :
    (∃ fault s, openNextFrom owner kind ledger = .error fault s ∧
      Bookkeeping.books s = Bookkeeping.books ledger) ∨
      ∃ id s, openNextFrom owner kind ledger = .ok id s ∧
        ledger.accounts.find? id = none ∧ kind.validate = .ok kind ∧
          Bookkeeping.books s =
            ⟨ledger.accounts.insert ⟨id, owner, kind, .zero, #[]⟩,
              ledger.journal⟩ := by
  fun_induction openNextFrom owner kind ledger with
  | case1 ledger advanced in_range fault s occupied ih => exact ih
  | case2 ledger advanced in_range not_occupied =>
    have tried : (openAs ⟨(ledger.counter + 1).toNat, in_range⟩ owner kind).run
        advanced = _ :=
      run_openAs (.still default) _ owner kind
    cases posts : opening advanced.accounts.find?
      ⟨(ledger.counter + 1).toNat, in_range⟩ owner kind
    with
    | error fault =>
      rw [posts] at tried
      exact Or.inl ⟨fault, advanced, tried, rfl⟩
    | ok posting =>
      rw [posts] at tried
      obtain ⟨free, valid, rfl⟩ := opening_eq_ok posts
      exact Or.inr ⟨_, _, tried, free, valid, rfl⟩
  | case3 ledger advanced out_of_range =>
    exact Or.inl ⟨.idsExhausted, advanced, rfl, rfl⟩

end Passbook.SharedLedger
