import Passbook.Proofs.Decimal.Bracket
import Passbook.Proofs.Lawful

/-!
# How far an account can be overdrawn

A checking account is meant to stay at or above the opposite of its limit. What
lets a withdrawal go is a comparison with the sum of balance and limit, and a
sum that needs more than 96 bits is rounded. It may be rounded up, and a
withdrawal of more than the exact sum then goes through.

That is the only way below the limit: rounding never takes the new balance past
a decimal that the exact one has not passed, and the opposite of a limit is a
decimal.

## Main results

* `respectsLimits_next_iff` — what one operation does to the bound.
* `respectsLimits_after_iff` — a run keeps to the limits precisely if none of
  its movements takes more than a rounded sum covers.
-/

namespace Passbook

open Bookkeeping Transact

/-- Whether an account is at or above the opposite of its limit, if it has
one. -/
def Account.RespectsLimit (account : Account) : Prop :=
  ∀ limit, account.kind = .checking limit → -limit.units ≤ account.balance.units

/-- Whether no open account is overdrawn beyond its limit. -/
def RespectsLimits (accounts : Register) : Prop :=
  accounts.Every Account.RespectsLimit

/--
A completed movement that takes more than balance and limit come to, where no
decimal is worth what they come to, and where the new balance is not rounded to
the opposite of the limit.
-/
def Record.Overdraws (accounts : Register) (record : Record) : Prop :=
  record.status = .completed ∧ ∃ id account limit rest,
    record.movement.source? = some id ∧ accounts.find? id = some account ∧
      account.kind = .checking limit ∧
        account.balance.units + limit.units < record.amount.units ∧
          (∀ sum : Decimal, sum.units ≠ account.balance.units + limit.units) ∧
            account.balance.sub? record.amount = some rest ∧
              rest.units ≠ -limit.units

/-- An operation whose answer is a movement that overdraws an account. -/
def TakesTooMuch {β : Type} [Bookkeeping β] (clock : Clock) (ledger : β)
    (operation : Operation) :
    Prop :=
  ∃ record, answer ((perform clock operation).run ledger) =
    .ok (.recorded record) ∧
    record.Overdraws (accounts ledger)

/-! ## One account -/

/-- More than the exact sum is let go only if the sum was rounded. -/
theorem Account.sum_ne_of_checkCover {account : Account}
    {amount limit : Decimal} (covered : account.checkCover amount = .ok ())
    (checks : account.kind = .checking limit)
    (more : account.balance.units + limit.units < amount.units)
    (sum : Decimal) :
    sum.units ≠ account.balance.units + limit.units := by
  intro exact_sum
  unfold checkCover at covered
  rw [checks] at covered
  dsimp only at covered
  cases added : account.balance.add? limit with
  | none =>
    rw [added] at covered
    cases covered
  | some available =>
    rw [added] at covered
    dsimp only at covered
    have available_eq := (Decimal.add?_eq_exact_iff added).2 ⟨sum, exact_sum⟩
    have less : available < amount := by
      rw [Decimal.lt_iff]
      omega
    rw [if_pos less] at covered
    cases covered

/-- Paying in keeps an account at or above its limit. -/
theorem Account.RespectsLimit.of_add? {account : Account}
    {amount balance : Decimal}
    (respects : account.RespectsLimit) (nonneg : 0 ≤ amount.units)
    (sum : account.balance.add? amount = some balance) :
    { account with balance }.RespectsLimit := by
  intro limit checks
  have before := respects limit checks
  have bound : (-limit).units ≤ account.balance.units + amount.units := by
    rw [Decimal.units_neg]
    omega
  have after := Decimal.le_add?_of_le sum bound
  rwa [Decimal.units_neg] at after

/-- Taking out what is covered leaves an account at or above its limit, or
overdraws it. -/
theorem Account.respectsLimit_of_sub? {accounts : Register} {id : AccountId}
    {account : Account}
    {record : Record} {balance : Decimal} (fair : ¬ record.Overdraws accounts)
    (completed : record.status = .completed)
    (source : record.movement.source? = some id)
    (found : accounts.find? id = some account)
    (covered : account.checkCover record.amount = .ok ())
    (difference : account.balance.sub? record.amount = some balance) :
    { account with balance }.RespectsLimit := by
  intro limit checks
  have checks : account.kind = .checking limit := checks
  show -limit.units ≤ balance.units
  by_cases more : account.balance.units + limit.units < record.amount.units
  · have sum_ne := account.sum_ne_of_checkCover covered checks more
    have rounded_back : balance.units = -limit.units := by
      apply Decidable.byContradiction
      intro ne
      exact fair ⟨completed, id, account, limit, balance, source, found,
        checks, more, sum_ne,
        difference, ne⟩
    omega
  · have bound : (-limit).units ≤ account.balance.units -
        record.amount.units := by
      rw [Decimal.units_neg]
      omega
    have after := Decimal.le_sub?_of_le difference bound
    rwa [Decimal.units_neg] at after

/-! ## One operation -/

/-- If the accounts keep to their limits after a movement, each does with its
new balance. -/
theorem RespectsLimits.of_moved {clock : Clock} {books : Books}
    {balances : List (AccountId × Decimal)} {transaction : Transaction}
    {status : Status} {id : AccountId} {account : Account} {balance : Decimal}
    (respects : RespectsLimits
      ((Posting.moved balances transaction status).write clock books).accounts)
    (found : books.accounts.find? id = some account)
    (given : balances.lookup id = some balance) :
    { account with balance }.RespectsLimit := by
  intro limit checks
  have account_id : account.id = id := Register.find?_id found
  have settled := respects id
    _ (by rw [Posting.find?_write_moved, found, Option.map_some]) limit
  rw [Posting.kind_settle, Posting.balance_settle, account_id, given] at settled
  exact settled checks

/-- A movement on one account keeps to the limits if that account does. -/
theorem RespectsLimits.moved_one {clock : Clock} {books : Books}
    {id : AccountId}
    {account : Account} {balance : Decimal} {transaction : Transaction}
    {status : Status} (respects : RespectsLimits books.accounts)
    (found : books.accounts.find? id = some account)
    (new : { account with balance }.RespectsLimit) :
    RespectsLimits ((Posting.moved [(id, balance)] transaction status).write
      clock books).accounts :=
  Posting.every_write_moved_one (P := fun kind balance =>
    ∀ limit, kind = .checking limit → -limit.units ≤ balance.units)
    respects found new

/-- A movement between two accounts keeps to the limits if both do. -/
theorem RespectsLimits.moved_two {clock : Clock} {books : Books}
    {source destination : AccountId}
    {a b : Account} {x y : Decimal} {transaction : Transaction}
    {status : Status} (respects : RespectsLimits books.accounts)
    (a_found : books.accounts.find? source = some a)
    (b_found : books.accounts.find? destination = some b)
    (a_new : { a with balance := x }.RespectsLimit)
    (b_new : { b with balance := y }.RespectsLimit) :
    RespectsLimits ((Posting.moved [(source, x), (destination, y)] transaction
      status).write clock
      books).accounts :=
  Posting.every_write_moved_two (P := fun kind balance =>
    ∀ limit, kind = .checking limit → -limit.units ≤ balance.units)
    respects a_found b_found a_new b_new

/-- An account without a limit respects it. -/
theorem Account.respectsLimit_of_savings {account : Account} {rate : Decimal}
    (saves : account.kind = .savings rate) : account.RespectsLimit := by
  intro limit checks
  rw [saves] at checks
  cases checks

/-- Every change but a movement that overdraws an account keeps to the
limits. -/
theorem respectsLimits_write {clock : Clock} {books : Books}
    {operation : Operation}
    {posting : Posting} (respects : RespectsLimits books.accounts)
    (change : Change books.accounts.find? operation posting)
    (fair : ∀ record, posting.outcome clock books = .recorded record →
      ¬ record.Overdraws books.accounts) :
    RespectsLimits (posting.write clock books).accounts := by
  cases change with
  | opened _ _ valid =>
    apply Register.Every.insert respects
    intro limit checks
    dsimp only at checks
    subst checks
    obtain ⟨-, nonneg, -⟩ := AccountKind.validate_checking_eq_ok_iff.1 valid
    show -limit.units ≤ Decimal.zero.units
    rw [Decimal.units_zero]
    omega
  | closed found => exact Register.Every.erase respects _
  | deposited valid found sum =>
    have positive := (checkAmount_eq_ok_iff.1 valid).1
    exact respects.moved_one found
      ((respects _ _ found).of_add? (Int.le_of_lt positive) sum)
  | withdrawn valid found covered difference =>
    have new := Account.respectsLimit_of_sub? (fair _ rfl) rfl rfl found
      covered difference
    exact respects.moved_one found new
  | notWithdrawn _ found => exact respects.moved_one found (respects _ _ found)
  | transferred valid different a_found b_found covered difference sum =>
    have positive := (checkAmount_eq_ok_iff.1 valid).1
    have a_new := Account.respectsLimit_of_sub? (fair _ rfl) rfl rfl a_found
      covered difference
    have b_new := (respects _ _ b_found).of_add? (Int.le_of_lt positive) sum
    exact respects.moved_two a_found b_found a_new b_new
  | notTransferred _ _ a_found b_found =>
    exact respects.moved_two a_found b_found (respects _ _ a_found)
      (respects _ _ b_found)
  | credited found saves =>
    exact respects.moved_one found (Account.respectsLimit_of_savings saves)
  | notCredited found saves =>
    exact Register.Every.map_only respects (Posting.amend_id _ _) found
      (Account.respectsLimit_of_savings saves)
  | limited found checks valid respected =>
    apply Register.Every.map_only respects (Posting.amend_id _ _) found
    intro limit checks
    cases checks
    rw [Decimal.lt_iff, Int.not_lt, AccountKind.floor,
      Decimal.units_neg] at respected
    exact respected

/-- A movement that overdraws an account leaves it beyond its limit. -/
theorem not_respectsLimits_write {clock : Clock} {books : Books}
    {operation : Operation} {posting : Posting} {record : Record}
    (change : Change books.accounts.find? operation posting)
    (answered : posting.outcome clock books = .recorded record)
    (overdraws : record.Overdraws books.accounts) :
    ¬ RespectsLimits (posting.write clock books).accounts := by
  obtain ⟨completed, id, account, limit, rest, source, found, checks, more, -,
      difference, beyond⟩ :=
    overdraws
  have rest_le : rest.units ≤ -limit.units := by
    rw [← Decimal.units_neg]
    apply Decimal.sub?_le_of_le difference
    rw [Decimal.units_neg]
    omega
  intro respects
  have kept : -limit.units ≤ rest.units := by
    cases change with
    | withdrawn valid own_found covered own_difference =>
      cases answered
      cases source
      rw [own_found] at found
      cases found
      have same := own_difference.symm.trans difference
      cases same
      exact respects.of_moved own_found List.lookup_cons_self limit checks
    | transferred valid different a_found b_found covered own_difference sum =>
      cases answered
      cases source
      rw [a_found] at found
      cases found
      have same := own_difference.symm.trans difference
      cases same
      exact respects.of_moved a_found List.lookup_cons_self limit checks
    | opened | closed | credited | notCredited | limited => cases answered
    | deposited =>
      cases answered
      cases source
    | notWithdrawn | notTransferred =>
      cases answered
      cases completed
  omega

/-! ## Runs -/

section

variable {β : Type} [Bookkeeping β] [Lawful β] (clock : Clock)

/-- Crediting interest keeps to the limits, since no savings account has one. -/
theorem RespectsLimits.credits {clock : Clock} {books books' : Books}
    {ids : List AccountId}
    {records : List Record} (credits : Credits clock books ids records books')
    (respects : RespectsLimits books.accounts) :
    RespectsLimits books'.accounts := by
  induction credits with
  | done => exact respects
  | passed _ ih => exact ih respects
  | credited change _ ih =>
    apply ih
    apply respectsLimits_write respects change
    intro record answered overdraws
    cases change with
    | credited | notCredited => cases answered

/-- An operation keeps to the limits precisely if it takes too much from no
account. -/
theorem respectsLimits_next_iff (ledger : β) (operation : Operation)
    (respects : RespectsLimits (accounts ledger)) :
    RespectsLimits (accounts (next clock ledger operation)) ↔
      ¬ TakesTooMuch clock ledger operation := by
  have performed := Lawful.performs clock operation ledger
  unfold TakesTooMuch
  change RespectsLimits (books
    (state ((perform clock operation).run ledger))).accounts ↔ _
  generalize answer ((perform clock operation).run ledger) =
    given at performed ⊢
  generalize books (state ((perform clock operation).run ledger)) =
    after at performed ⊢
  cases performed with
  | refused fault =>
    constructor
    · rintro - ⟨record, answered, -⟩
      cases answered
    · intro _
      exact respects
  | posted change =>
    constructor
    · rintro kept ⟨record, answered, overdraws⟩
      exact not_respectsLimits_write change (Except.ok.inj answered)
        overdraws kept
    · intro fair
      apply respectsLimits_write respects change
      intro record answered overdraws
      exact fair ⟨record, by rw [answered], overdraws⟩
  | creditedAll credits =>
    constructor
    · rintro - ⟨record, answered, -⟩
      cases answered
    · intro _
      exact respects.credits credits

end

/--
In every run from an empty ledger, all accounts keep to their limits after every
operation precisely if no operation of the run takes too much.
-/
theorem respectsLimits_after_iff (clock : Clock) (operations : List Operation) :
    (∀ n, RespectsLimits
        (after clock Ledger.empty (operations.take n)).accounts) ↔
      ∀ n (inside : n < operations.length),
        ¬ TakesTooMuch clock (after clock Ledger.empty (operations.take n))
          operations[n] := by
  constructor
  · intro kept n inside
    have later := kept (n + 1)
    rw [after_take_succ clock _ _ inside] at later
    exact (respectsLimits_next_iff clock _ _ (kept n)).1 later
  · intro fair n
    induction n with
    | zero => exact Register.every_empty _
    | succ n ih =>
      by_cases inside : n < operations.length
      · rw [after_take_succ clock _ _ inside]
        exact (respectsLimits_next_iff clock _ _ ih).2 (fair n inside)
      · rw [List.take_of_length_le (by omega)] at ih ⊢
        exact ih

/-- A run in which an account is overdrawn by half a unit. -/
def overdrawing (id : AccountId) (owner : OwnerId) (limit : Decimal) :
    List Operation :=
  [.openAccount (some id) owner (.checking limit),
    .deposit id (.tenths Decimal.largest.mantissa Decimal.largest.mantissa_lt),
    .withdraw id
      ⟨false, 7922816251426433759354395034, 0, by decide, Decimal.no_places_le⟩]

/-- A limit of three tenths does not stop it. -/
theorem not_respectsLimits_after :
    ¬ ∀ (clock : Clock) (operations : List Operation),
      RespectsLimits (after clock Ledger.empty operations).accounts := by
  intro kept
  have bound := kept (.still default)
    (overdrawing ⟨1, by decide⟩ ⟨1, by decide⟩ (.tenths 3 (by decide)))
    ⟨1, by decide⟩
    ⟨⟨1, by decide⟩, ⟨1, by decide⟩, .checking (.tenths 3 (by decide)),
      ⟨true, 5, 1, by decide, by decide⟩, #[1, 2]⟩
    (by decide) (.tenths 3 (by decide)) rfl
  exact absurd bound (by decide)

end Passbook
