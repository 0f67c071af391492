import Passbook.Proofs.Decimal.Bracket
import Passbook.Proofs.History

/-!
# Histories replay to balances

The balance of an account is kept by adding to it and taking from it; the replay
of its history adds signed effects to zero. Both round, and they round alike: a
completed movement takes the running total through the very sum that the balance
went through, and a failed one adds zero. The two can only differ in how a
balance of nothing is written.

## Main results

* `Reachable.replaying` — in a reachable state every history replays to the
  balance.
* `replay_history` — and it does so in both ledgers without leaving the range of
  decimals on the way.
-/

namespace Passbook

namespace Decimal

/-- Whether two decimals are the same, or both are nothing. -/
def Alike (a b : Decimal) : Prop := a = b ∨ (a.mantissa = 0 ∧ b.mantissa = 0)

theorem Alike.refl (a : Decimal) : a.Alike a := Or.inl rfl

theorem Alike.trans {a b c : Decimal} (first : a.Alike b) (second : b.Alike c) :
    a.Alike c := by
  rcases first with rfl | ⟨a_zero, b_zero⟩
  · exact second
  · rcases second with rfl | ⟨-, c_zero⟩
    · exact Or.inr ⟨a_zero, b_zero⟩
    · exact Or.inr ⟨a_zero, c_zero⟩

theorem Alike.symm {a b : Decimal} (alike : a.Alike b) : b.Alike a := by
  rcases alike with rfl | ⟨a_zero, b_zero⟩
  · exact .refl a
  · exact Or.inr ⟨b_zero, a_zero⟩

theorem Alike.units_eq {a b : Decimal} (alike : a.Alike b) :
    a.units = b.units := by
  rcases alike with rfl | ⟨a_zero, b_zero⟩
  · rfl
  · rw [(units_eq_zero_iff a).2 a_zero, (units_eq_zero_iff b).2 b_zero]

/-- How a balance of nothing is written makes no difference to what is added to
it. -/
theorem Alike.add?_eq {a b : Decimal} (alike : a.Alike b) (amount : Decimal) :
    a.add? amount = b.add? amount := by
  rcases alike with rfl | ⟨a_zero, b_zero⟩
  · rfl
  · rw [add?_zero_left a_zero, add?_zero_left b_zero]

/-- Adding nothing gives the same, or nothing to nothing. -/
theorem add?_alike {a b : Decimal} (b_zero : b.mantissa = 0) :
    ∃ sum, a.add? b = some sum ∧ sum.Alike a := by
  by_cases a_zero : a.mantissa = 0
  · exact ⟨b, add?_zero_left a_zero b, Or.inr ⟨b_zero, a_zero⟩⟩
  · exact ⟨a, add?_zero_right a_zero b_zero, .refl a⟩

end Decimal

/-! ## Replaying -/

namespace Record

open Decimal

variable {id : AccountId}

/-- Whether some records add up to a balance, as far as an account is
concerned. -/
def ReplaysTo (id : AccountId) (records : List Record) (balance : Decimal) :
    Prop :=
  ∃ total, replay? id records = some total ∧ total.Alike balance

theorem replay?_append_singleton (id : AccountId) (records : List Record)
    (record : Record) :
    replay? id (records ++ [record]) =
      (replay? id records).bind fun total =>
        (record.effect? id).bind total.add? := by
  unfold replay?
  rw [List.foldlM_append, Option.bind_eq_bind]
  congr 1
  funext total
  rw [List.foldlM_cons]
  cases (record.effect? id).bind total.add? <;> rfl

/-- The replay goes with the balance through a record that moved it by its
effect. -/
theorem ReplaysTo.append {records : List Record} {record : Record}
    {balance effect sum : Decimal} (replays : ReplaysTo id records balance)
    (effect_eq : record.effect? id = some effect)
    (sum_eq : balance.add? effect = some sum) :
    ReplaysTo id (records ++ [record]) sum := by
  obtain ⟨total, replayed, alike⟩ := replays
  refine ⟨sum, ?_, .refl sum⟩
  rw [replay?_append_singleton, replayed, effect_eq, Option.bind_some,
    Option.bind_some, alike.add?_eq, sum_eq]

theorem ReplaysTo.alike {records : List Record} {balance balance' : Decimal}
    (replays : ReplaysTo id records balance) (alike : balance.Alike balance') :
    ReplaysTo id records balance' := by
  obtain ⟨total, replayed, total_alike⟩ := replays
  exact ⟨total, replayed, total_alike.trans alike⟩

/-- A replay that comes to an end has come through all records before. -/
theorem ReplaysTo.take {records : List Record} {balance : Decimal}
    (replays : ReplaysTo id records balance) (n : Nat) :
    ∃ total, replay? id (records.take n) = some total := by
  obtain ⟨total, replayed, -⟩ := replays
  unfold replay? at replayed ⊢
  rw [← List.take_append_drop n records, List.foldlM_append,
    Option.bind_eq_bind, Option.bind_eq_some_iff] at replayed
  obtain ⟨part, part_eq, -⟩ := replayed
  exact ⟨part, part_eq⟩

/-! ## Effects -/

variable {record : Record}

/-- Taking money in adds the amount. -/
theorem effect?_of_destination (completed : record.status = .completed)
    (destination : record.movement.destination? = some id)
    (source : record.movement.source? ≠ some id) :
    record.effect? id = some record.amount := by
  have is_completed : record.isCompleted = true := by
    rw [isCompleted, completed]
    rfl
  simp only [effect?, if_pos is_completed, if_pos destination, if_neg source,
    Option.bind_eq_bind]
  rw [add?_zero_left rfl, Option.bind_some]

/-- Giving money away takes the amount off. -/
theorem effect?_of_source (completed : record.status = .completed)
    (source : record.movement.source? = some id)
    (destination : record.movement.destination? ≠ some id)
    (positive : record.amount.mantissa ≠ 0) :
    record.effect? id = some (-record.amount) := by
  have is_completed : record.isCompleted = true := by
    rw [isCompleted, completed]
    rfl
  have taken : Decimal.zero.sub? record.amount = some (-record.amount) := by
    rw [sub?_eq_add?_neg positive, add?_zero_left rfl]
  simp only [effect?, if_pos is_completed, if_neg destination, if_pos source,
    Option.bind_eq_bind]
  rw [Option.bind_some, taken]

end Record

theorem mantissa_ne_zero_of_checkAmount {amount : Decimal}
    (valid : checkAmount amount = .ok ()) :
    amount.mantissa ≠ 0 := by
  have positive := (checkAmount_eq_ok_iff.1 valid).1
  intro zero
  have none_left := (Decimal.units_eq_zero_iff amount).2 zero
  omega

/-! ## The books -/

/-- Whether the history of an account replays to its balance. -/
def Account.Replays (journal : Journal) (account : Account) : Prop :=
  Record.ReplaysTo account.id (journal.select account.history) account.balance

/-- Whether the history of every open account points into the journal and
replays to the balance. -/
def Books.Replaying (books : Books) : Prop :=
  books.Numbered ∧ books.accounts.Every (Account.Replays books.journal)

namespace Books

open Posting

variable {clock : Clock} {books : Books} {balances : List (AccountId × Decimal)}
  {transaction : Transaction} {status : Status}

/-- What a movement has to do to each account for the replay to go along. -/
def Follows (clock : Clock) (books : Books)
    (balances : List (AccountId × Decimal))
    (transaction : Transaction) (status : Status) (account : Account) : Prop :=
  let record := sealed clock books.journal transaction status
  let balance := (balances.lookup account.id).getD account.balance
  if account.id ∈ record.concerned then
    ∃ effect sum, record.effect? account.id = some effect ∧
      account.balance.add? effect = some sum ∧ sum.Alike balance
  else account.balance.Alike balance

/-- A movement that every account follows keeps the histories replaying. -/
theorem Replaying.moved (replaying : books.Replaying)
    (follows : books.accounts.Every
      (Follows clock books balances transaction status)) :
    ((moved balances transaction status).write clock books).accounts.Every
      (Account.Replays ((moved balances transaction status).write clock
        books).journal) := by
  refine (Register.every_map_iff _ (settle_id _ _)).2 ?_
  intro id account found
  have holds := replaying.1 id account found
  have replays : Record.ReplaysTo account.id _ _ := replaying.2 id account found
  have follow := follows id account found
  unfold Follows at follow
  unfold Account.Replays
  rw [settle_id, balance_settle]
  by_cases concerned :
      account.id ∈ (sealed clock books.journal transaction status).concerned
  · rw [if_pos concerned] at follow
    obtain ⟨effect, sum, effect_eq, sum_eq, alike⟩ := follow
    have appended := (replays.append effect_eq sum_eq).alike alike
    have history_eq :
        (settle balances (sealed clock books.journal transaction status)
        account).history =
        account.history.push (sealed clock books.journal transaction
          status).number := by
      unfold settle attachIf
      rw [rebalance_id, if_pos concerned]
      rfl
    have selected := Journal.select_push_commit
      (clock.journal books.journal.size) transaction status
      holds
    rw [history_eq]
    exact selected ▸ appended
  · rw [if_neg concerned] at follow
    have history_eq :
        (settle balances (sealed clock books.journal transaction status)
        account).history = account.history := by
      unfold settle attachIf
      rw [rebalance_id, if_neg concerned]
      rfl
    have selected := Journal.select_commit (clock.journal books.journal.size)
      transaction status holds
    rw [history_eq]
    exact selected ▸ replays.alike follow

/-- The account that gives money follows by the difference. -/
theorem follows_of_source {account : Account} {balance : Decimal}
    (source : transaction.movement.source? = some account.id)
    (destination : transaction.movement.destination? ≠ some account.id)
    (valid : checkAmount transaction.amount = .ok ())
    (given : balances.lookup account.id = some balance)
    (difference : account.balance.sub? transaction.amount = some balance) :
    Follows clock books balances transaction .completed account := by
  have positive := mantissa_ne_zero_of_checkAmount valid
  have concerned : account.id ∈
      (sealed clock books.journal transaction .completed).concerned :=
    Record.mem_concerned_iff.2 (Or.inl source)
  rw [Decimal.sub?_eq_add?_neg positive] at difference
  unfold Follows
  rw [if_pos concerned, given]
  exact ⟨_, balance, Record.effect?_of_source rfl source destination positive,
    difference, .refl _⟩

/-- The account that takes money follows by the sum. -/
theorem follows_of_destination {account : Account} {balance : Decimal}
    (destination : transaction.movement.destination? = some account.id)
    (source : transaction.movement.source? ≠ some account.id)
    (given : balances.lookup account.id = some balance)
    (sum : account.balance.add? transaction.amount = some balance) :
    Follows clock books balances transaction .completed account := by
  have concerned : account.id ∈
      (sealed clock books.journal transaction .completed).concerned :=
    Record.mem_concerned_iff.2 (Or.inr ⟨rfl, destination⟩)
  unfold Follows
  rw [if_pos concerned, given]
  exact ⟨_, balance, Record.effect?_of_destination rfl destination source, sum,
    .refl _⟩

/-- An account whose balance stays follows a failed movement, whoever is
concerned. -/
theorem follows_of_failed {account : Account}
    (same : (balances.lookup account.id).getD account.balance =
      account.balance) :
    Follows clock books balances transaction .failed account := by
  unfold Follows
  rw [same]
  by_cases concerned : account.id ∈
    (sealed clock books.journal transaction .failed).concerned
  · rw [if_pos concerned]
    obtain ⟨sum, sum_eq, alike⟩ :=
      Decimal.add?_alike (a := account.balance) (b := .zero) rfl
    exact ⟨.zero, sum, Record.effect?_failed rfl _, sum_eq, alike⟩
  · rw [if_neg concerned]
    exact .refl _

/-- An account that a movement does not name follows it. -/
theorem follows_of_apart {account : Account}
    (source : transaction.movement.source? ≠ some account.id)
    (destination : transaction.movement.destination? ≠ some account.id)
    (apart : balances.lookup account.id = none) :
    Follows clock books balances transaction status account := by
  have unconcerned : account.id ∉
      (sealed clock books.journal transaction status).concerned := by
    intro mem
    rcases eq_of_mem_concerned clock mem with eq | eq
    · exact source eq
    · exact destination eq
  unfold Follows
  rw [if_neg unconcerned, apart]
  exact .refl _

/-- Of a movement on one account it is enough that this account follows. -/
theorem follows_one {id : AccountId} {account : Account} {balance : Decimal}
    (found : books.accounts.find? id = some account)
    (follows : Follows clock books [(id, balance)] transaction status account)
    (named : ∀ other, transaction.movement.source? = some other ∨
      transaction.movement.destination? = some other → other = id) :
    books.accounts.Every (Follows clock books [(id, balance)]
      transaction status) := by
  intro other a a_found
  have a_id : a.id = other := Register.find?_id a_found
  by_cases same : a.id = id
  · rw [← a_id, same, found] at a_found
    cases a_found
    exact follows
  · apply follows_of_apart
    · exact fun eq => same (named _ (Or.inl eq))
    · exact fun eq => same (named _ (Or.inr eq))
    · rw [List.lookup_cons, beq_false_of_ne same]
      rfl

/-- Of a movement between two accounts it is enough that these two follow. -/
theorem follows_two {source destination : AccountId} {a b : Account}
    {x y amount : Decimal} (a_found : books.accounts.find? source = some a)
    (b_found : books.accounts.find? destination = some b)
    (a_follows : Follows clock books [(source, x), (destination, y)]
      ⟨.transfer source destination, amount⟩ status a)
    (b_follows : Follows clock books [(source, x), (destination, y)]
      ⟨.transfer source destination, amount⟩ status b) :
    books.accounts.Every (Follows clock books [(source, x), (destination, y)]
      ⟨.transfer source destination, amount⟩ status) := by
  intro other c c_found
  have c_id : c.id = other := Register.find?_id c_found
  by_cases first : c.id = source
  · rw [← c_id, first, a_found] at c_found
    cases c_found
    exact a_follows
  · by_cases second : c.id = destination
    · rw [← c_id, second, b_found] at c_found
      cases c_found
      exact b_follows
    · apply follows_of_apart
      · exact fun eq => first (Option.some.inj eq).symm
      · exact fun eq => second (Option.some.inj eq).symm
      · rw [List.lookup_cons, beq_false_of_ne first, List.lookup_cons,
          beq_false_of_ne second]
        rfl

/-- Histories replay to balances after every change. -/
theorem Replaying.change {operation : Operation} {posting : Posting}
    (replaying : books.Replaying)
    (change : Change books.accounts.find? operation posting) :
    (posting.write clock books).Replaying := by
  refine ⟨replaying.1.change change, ?_⟩
  cases change with
  | opened asked free valid =>
    apply Register.Every.insert replaying.2
    exact ⟨.zero, rfl, .refl _⟩
  | closed found => exact Register.Every.erase replaying.2 _
  | deposited valid found sum =>
    obtain rfl := Register.find?_id found
    apply replaying.moved
    apply follows_one found
    · exact follows_of_destination rfl (Option.some_ne_none _).symm
        List.lookup_cons_self sum
    · simp [Movement.source?, Movement.destination?]
  | withdrawn valid found covered difference =>
    obtain rfl := Register.find?_id found
    apply replaying.moved
    apply follows_one found
    · exact follows_of_source rfl (Option.some_ne_none _).symm valid
        List.lookup_cons_self difference
    · simp [Movement.source?, Movement.destination?]
  | notWithdrawn _ found =>
    obtain rfl := Register.find?_id found
    apply replaying.moved
    apply follows_one found
    · apply follows_of_failed
      rw [List.lookup_cons_self]
      rfl
    · simp [Movement.source?, Movement.destination?]
  | transferred valid different a_found b_found covered difference sum =>
    obtain rfl := Register.find?_id a_found
    obtain rfl := Register.find?_id b_found
    apply replaying.moved
    apply follows_two a_found b_found
    · exact follows_of_source rfl
        (fun eq => different (Option.some.inj eq).symm) valid
        List.lookup_cons_self difference
    · refine follows_of_destination rfl
        (fun eq => different (Option.some.inj eq)) ?_ sum
      rw [List.lookup_cons, beq_false_of_ne (Ne.symm different)]
      exact List.lookup_cons_self
  | notTransferred _ different a_found b_found =>
    obtain rfl := Register.find?_id a_found
    obtain rfl := Register.find?_id b_found
    apply replaying.moved
    apply follows_two a_found b_found
    · apply follows_of_failed
      rw [List.lookup_cons_self]
      rfl
    · apply follows_of_failed
      rw [List.lookup_cons, beq_false_of_ne (Ne.symm different)]
      dsimp only
      rw [List.lookup_cons_self]
      rfl
  | credited found saves earned something sum =>
    obtain rfl := Register.find?_id found
    apply replaying.moved
    apply follows_one found
    · exact follows_of_destination rfl (Option.some_ne_none _).symm
        List.lookup_cons_self sum
    · simp [Movement.source?, Movement.destination?]
  | notCredited found saves earned nothing sum =>
    apply Register.Every.map_only replaying.2 (amend_id _ _) found
    obtain ⟨same, same_eq, alike⟩ := Decimal.add?_alike nothing
    rw [sum] at same_eq
    cases same_eq
    have replays : Record.ReplaysTo _ _ _ := replaying.2 _ _ found
    exact replays.alike alike.symm
  | limited found checks valid respected =>
    have replays : Record.ReplaysTo _ _ _ := replaying.2 _ _ found
    exact Register.Every.map_only replaying.2 (amend_id _ _) found replays

end Books

/-- In every reachable state all histories replay to balances. -/
theorem Bookkeeping.Reachable.replaying {β : Type} [Bookkeeping β]
    [Lawful β] {ledger : β}
    (reached : Reachable ledger) : (books ledger).Replaying := by
  apply reached.books_induction
  · exact ⟨Register.every_empty _, Register.every_empty _⟩
  · intro clock books operation posting replaying change
    exact replaying.change change

/--
Whether the history of each open account can be replayed from zero, every front
part of it included, and replays to what the balance is worth.
-/
def Bookkeeping.ReplaysToBalances {β : Type} [Bookkeeping β] (ledger : β) :
    Prop :=
  ∀ id account, (accounts ledger).find? id = some account → ∃ records,
    history ledger id = .ok records ∧
      (∀ n, ∃ part, Record.replay? id (records.take n) = some part) ∧
        ∃ total, Record.replay? id records = some total ∧
          total.units = account.balance.units

theorem Bookkeeping.Reachable.replaysToBalances {β : Type} [Bookkeeping β]
    [Lawful β] {ledger : β}
    (reached : Reachable ledger) : ReplaysToBalances ledger := by
  intro id account found
  have replays : Record.ReplaysTo account.id _ _ :=
    reached.replaying.2 id account found
  have account_id : account.id = id := Register.find?_id found
  rw [account_id] at replays
  have parts := replays.take
  obtain ⟨total, replayed, alike⟩ := replays
  exact ⟨_, Books.history_of_find? found, parts, total, replayed,
    alike.units_eq⟩

/-- Whatever was done to either ledger, histories replay to balances. -/
theorem replay_history :
    (∀ ledger : Ledger, Bookkeeping.Reachable ledger →
      Bookkeeping.ReplaysToBalances ledger) ∧
      ∀ ledger : SharedLedger, Bookkeeping.Reachable ledger →
        Bookkeeping.ReplaysToBalances ledger :=
  ⟨fun _ reached => reached.replaysToBalances,
    fun _ reached => reached.replaysToBalances⟩

/-- A run in which an account changes hands. The balance of its new owner needs
all of its 96 bits, and swallows what is paid in next. -/
def reopening (id : AccountId) (first second : OwnerId) (swallowed : Decimal) :
    List Operation :=
  [.openAccount (some id) first (.savings .zero),
    .deposit id .one,
    .closeAccount id,
    .openAccount (some id) second (.checking .zero),
    .deposit id .largest,
    .deposit id swallowed,
    .withdraw id .one]

/-- Four tenths are lost on the balance, and in the replay of its three
records. -/
theorem replay_history_reopening :
    let id : AccountId := ⟨1, by decide⟩
    let swallowed := Decimal.tenths 4 (by decide)
    let run := reopening id ⟨1, by decide⟩ ⟨2, by decide⟩ swallowed
    let ledger := Bookkeeping.after (.still default) Ledger.empty run
    let shared := Bookkeeping.after (.still default) SharedLedger.empty run
    let replayed := fun records : List Record =>
      (records.map (·.amount), (Record.replay? id records).map Decimal.units)
    let lossy := ([.largest, swallowed, .one],
      some (Decimal.largest.units - Decimal.one.units))
    Bookkeeping.ReplaysToBalances ledger ∧
      (Bookkeeping.history ledger id).map replayed = .ok lossy ∧
      Bookkeeping.ReplaysToBalances shared ∧
      (Bookkeeping.history shared id).map replayed = .ok lossy := by
  intro id swallowed run ledger shared replayed lossy
  exact ⟨replay_history.1 ledger (Bookkeeping.Reachable.empty.after _ run),
    by decide +kernel,
    replay_history.2 shared (Bookkeeping.Reachable.empty.after _ run),
    by decide +kernel⟩

end Passbook
