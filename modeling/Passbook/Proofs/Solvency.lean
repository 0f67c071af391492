import Passbook.Proofs.Decimal.Bracket
import Passbook.Proofs.Lawful

/-!
# Savings never go below zero

A savings account lets an amount go only if its balance is not smaller, and it
earns interest at a rate between zero and one. Each of the two needs the other:
the balance stays at zero or above because no interest is negative, and no
interest is negative because neither the balance nor the rate is.

Rounding does no harm to either. Zero is a decimal, so no sum and no difference
is rounded past it, and a product has the sign of its factors however it is
rounded.

## Main results

* `Decimal.zero_le_of_mul?`, `Decimal.zero_le_roundTo` — products and rounding
  keep to the sign.
* `Books.Solvent.change` — one successful operation.
* `savingsSafe_of_reachable` — what holds of savings after any number of
  operations.
-/

namespace Passbook

/-! ## Signs -/

namespace Decimal

theorem zero_le_iff {d : Decimal} : zero ≤ d ↔ 0 ≤ d.units := by
  rw [le_iff, units_zero]

/-- What is worth at least nothing has no sign, unless it is zero. -/
theorem negative_eq_false {d : Decimal} (nonneg : zero ≤ d)
    (nonzero : d.mantissa ≠ 0) : d.negative = false := by
  have pos : (0 : Int) < tens (28 - d.scale) := by
    exact_mod_cast tens_pos (28 - d.scale)
  rw [zero_le_iff] at nonneg
  unfold units coefficient at nonneg
  cases sign : d.negative with
  | false => rfl
  | true =>
    rw [sign, if_pos rfl, Int.neg_mul] at nonneg
    have digits : (0 : Int) < d.mantissa := by omega
    have product := Int.mul_pos digits pos
    omega

/-- Digits without a sign are worth at least nothing. -/
theorem zero_le_of_negative_eq_false {d : Decimal} (sign : d.negative = false) :
    zero ≤ d := by
  rw [zero_le_iff]
  unfold units coefficient
  rw [sign, if_neg (by decide)]
  exact Int.mul_nonneg (Int.natCast_nonneg _) (Int.natCast_nonneg _)

/-- A product of factors that are not negative is not, rounded or not. -/
theorem zero_le_of_mul? {a b d : Decimal} (a_nonneg : zero ≤ a)
    (b_nonneg : zero ≤ b) (product : a.mul? b = some d) : zero ≤ d := by
  unfold mul? at product
  by_cases none : a.mantissa = 0 ∨ b.mantissa = 0
  · rw [if_pos none] at product
    cases product
    exact Int.le_refl _
  · rw [if_neg none] at product
    rw [not_or] at none
    rw [negative_eq_false a_nonneg none.1,
      negative_eq_false b_nonneg none.2] at product
    obtain ⟨-, -, sign, -⟩ := fit?_eq_some product
    exact zero_le_of_negative_eq_false sign

/-- What is not negative is not after it has lost some places. -/
theorem zero_le_roundTo {d : Decimal} (nonneg : zero ≤ d) (places : Nat) :
    zero ≤ d.roundTo places := by
  unfold roundTo
  split
  · exact nonneg
  · by_cases none : d.mantissa = 0
    · -- a zero may carry a sign, and is rounded to one that does not
      rw [zero_le_iff, units_signed]
      have digits : halfEven d.mantissa (tens (d.scale - places)) = 0 := by
        rw [none]
        exact Nat.le_zero.1 (halfEven_le (tens_pos _) (by omega))
      simp [digits]
    · apply zero_le_of_negative_eq_false
      show (d.negative && _) = false
      rw [negative_eq_false nonneg none, Bool.false_and]

/-- A sum that is not below zero is not after rounding. -/
theorem zero_le_add? {a b d : Decimal} (a_nonneg : zero ≤ a)
    (b_nonneg : zero ≤ b) (sum : a.add? b = some d) : zero ≤ d := by
  rw [zero_le_iff] at a_nonneg b_nonneg
  apply le_add?_of_le sum
  rw [units_zero]
  omega

/-- A difference of which nothing is missing is not below zero after
rounding. -/
theorem zero_le_sub? {a b d : Decimal} (covered : b ≤ a)
    (difference : a.sub? b = some d) : zero ≤ d := by
  rw [le_iff] at covered
  apply le_sub?_of_le difference
  rw [units_zero]
  omega

end Decimal

/-! ## Accounts -/

/-- Whether a balance is one that an account of this kind may have if it is a
savings account: not below zero, at a rate between zero and one. -/
def AccountKind.Solvent (kind : AccountKind) (balance : Decimal) : Prop :=
  ∀ rate, kind = .savings rate →
    .zero ≤ rate ∧ rate ≤ .one ∧ .zero ≤ balance

namespace Account

variable {account : Account} {amount balance : Decimal}

/-- A checking account is not asked. -/
theorem solvent_of_checking {kind : AccountKind} {limit : Decimal}
    (checks : kind = .checking limit) (balance : Decimal) :
    kind.Solvent balance := by
  rintro rate rfl
  cases checks

/-- A new account of a valid kind has nothing in it, and nothing missing. -/
theorem solvent_of_validate {kind : AccountKind}
    (valid : kind.validate = .ok kind) : kind.Solvent .zero := by
  rintro rate rfl
  obtain ⟨-, nonneg, le_one⟩ :=
    AccountKind.validate_savings_eq_ok_iff.1 valid
  exact ⟨Decimal.zero_le_iff.2 nonneg, le_one, Int.le_refl _⟩

/-- Paying something in leaves a solvent account solvent. -/
theorem solvent_of_add? (solvent : account.kind.Solvent account.balance)
    (nonneg : .zero ≤ amount)
    (sum : account.balance.add? amount = some balance) :
    account.kind.Solvent balance := by
  intro rate saves
  obtain ⟨rate_nonneg, le_one, held⟩ := solvent rate saves
  exact ⟨rate_nonneg, le_one, Decimal.zero_le_add? held nonneg sum⟩

/-- Taking out what is covered leaves a solvent account solvent: the comparison
is of the balance itself, before any rounding. -/
theorem solvent_of_sub? (solvent : account.kind.Solvent account.balance)
    (covered : account.checkCover amount = .ok ())
    (difference : account.balance.sub? amount = some balance) :
    account.kind.Solvent balance := by
  intro rate saves
  obtain ⟨rate_nonneg, le_one, -⟩ := solvent rate saves
  unfold checkCover at covered
  rw [saves] at covered
  dsimp only at covered
  have enough : amount ≤ account.balance := by
    by_cases less : account.balance < amount
    · rw [if_pos less] at covered
      cases covered
    · exact Int.not_lt.1 less
  exact ⟨rate_nonneg, le_one, Decimal.zero_le_sub? enough difference⟩

/-- A solvent account earns interest that is not negative. -/
theorem zero_le_of_interestOn {rate interest : Decimal}
    (solvent : account.kind.Solvent account.balance)
    (saves : account.kind = .savings rate)
    (earned : interestOn account.balance rate = some interest) :
    .zero ≤ interest := by
  obtain ⟨rate_nonneg, -, held⟩ := solvent rate saves
  obtain ⟨product, product_eq, rfl⟩ := Option.map_eq_some_iff.1 earned
  exact Decimal.zero_le_roundTo
    (Decimal.zero_le_of_mul? held rate_nonneg product_eq) _

end Account

theorem zero_le_of_checkAmount {amount : Decimal}
    (valid : checkAmount amount = .ok ()) : .zero ≤ amount :=
  Decimal.zero_le_iff.2 (Int.le_of_lt (checkAmount_eq_ok_iff.1 valid).1)

/-! ## Books -/

/-- Whether all savings accounts are solvent, and no interest in the journal is
negative. -/
structure Books.Solvent (books : Books) : Prop where
  accounts : books.accounts.Every fun account =>
    account.kind.Solvent account.balance
  interest : ∀ record ∈ books.journal.records.toList, ∀ id,
    record.movement = .interest id → .zero ≤ record.amount

namespace Books.Solvent

open Posting

variable {clock : Clock} {books : Books}

/-- A movement keeps books solvent if the accounts are solvent afterwards and
what it credits, if it is interest, is not negative. -/
theorem moved {balances : List (AccountId × Decimal)}
    {transaction : Transaction} {status : Status} (solvent : books.Solvent)
    (earned : ∀ id, transaction.movement = .interest id →
      .zero ≤ transaction.amount)
    (accounts : ((Posting.moved balances transaction status).write clock
      books).accounts.Every fun account =>
        account.kind.Solvent account.balance) :
    ((Posting.moved balances transaction status).write clock books).Solvent
    where
  accounts := accounts
  interest := by
    intro record mem
    rcases List.mem_append.1 (Array.toList_push ▸ mem) with old | new
    · exact solvent.interest record old
    · rw [List.mem_singleton.1 new]
      exact earned

/-- Books are solvent after every change. -/
theorem change {operation : Operation} {posting : Posting}
    (solvent : books.Solvent)
    (change : Change books.accounts.find? operation posting) :
    (posting.write clock books).Solvent := by
  have held := solvent.accounts
  cases change with
  | opened _ _ valid =>
    exact ⟨held.insert (Account.solvent_of_validate valid), solvent.interest⟩
  | closed found => exact ⟨held.erase _, solvent.interest⟩
  | deposited valid found sum =>
    apply solvent.moved
    · exact fun _ => nofun
    · exact every_write_moved_one held found
        (Account.solvent_of_add? (held _ _ found) (zero_le_of_checkAmount valid)
          sum)
  | withdrawn valid found covered difference =>
    apply solvent.moved
    · exact fun _ => nofun
    · exact every_write_moved_one held found
        (Account.solvent_of_sub? (held _ _ found) covered difference)
  | notWithdrawn _ found =>
    apply solvent.moved
    · exact fun _ => nofun
    · exact every_write_moved_one held found (held _ _ found)
  | transferred valid different a_found b_found covered difference sum =>
    apply solvent.moved
    · exact fun _ => nofun
    · exact every_write_moved_two held a_found b_found
        (Account.solvent_of_sub? (held _ _ a_found) covered difference)
        (Account.solvent_of_add? (held _ _ b_found)
          (zero_le_of_checkAmount valid) sum)
  | notTransferred _ _ a_found b_found =>
    apply solvent.moved
    · exact fun _ => nofun
    · exact every_write_moved_two held a_found b_found (held _ _ a_found)
        (held _ _ b_found)
  | credited found saves earned something sum =>
    have nonneg := Account.zero_le_of_interestOn (held _ _ found) saves earned
    apply solvent.moved
    · exact fun _ _ => nonneg
    · exact every_write_moved_one held found
        (Account.solvent_of_add? (held _ _ found) nonneg sum)
  | notCredited found saves earned nothing sum =>
    have before := held _ _ found
    have nonneg := Account.zero_le_of_interestOn before saves earned
    have after := Account.solvent_of_add? before nonneg sum
    exact ⟨Register.Every.map_only held (amend_id _ _) found after,
      solvent.interest⟩
  | limited found checks valid respected =>
    refine ⟨Register.Every.map_only held (amend_id _ _) found ?_,
      solvent.interest⟩
    exact Account.solvent_of_checking rfl _

end Books.Solvent

/-! ## Ledgers -/

namespace Bookkeeping

variable {β : Type} [Bookkeeping β]

/-- In every reachable state the books are solvent. -/
theorem Reachable.solvent [Lawful β] {ledger : β}
    (reached : Reachable ledger) : (books ledger).Solvent := by
  apply reached.books_induction
  · exact ⟨Register.every_empty _, nofun⟩
  · intro clock books operation posting solvent change
    exact solvent.change change

/-- What the holders of savings accounts can rely on. -/
structure SavingsSafe (ledger : β) : Prop where
  /-- No savings account is below zero. -/
  balances : ∀ id account rate, (accounts ledger).find? id = some account →
    account.kind = .savings rate → .zero ≤ account.balance
  /-- No interest that was credited is negative. -/
  credited : ∀ record ∈ (journal ledger).records.toList, ∀ id,
    record.movement = .interest id → .zero ≤ record.amount
  /-- Nor is the interest that any account would be credited now, be it too
  small to leave a record. -/
  earned : ∀ id account result interest,
    (accounts ledger).find? id = some account →
      account.creditInterest = .ok (interest, result) → .zero ≤ interest

theorem Reachable.savingsSafe [Lawful β] {ledger : β}
    (reached : Reachable ledger) : SavingsSafe ledger where
  balances id account rate found saves :=
    (reached.solvent.accounts id account found rate saves).2.2
  credited := reached.solvent.interest
  earned := by
    intro id account result interest found credits
    obtain ⟨rate, balance, saves, earned, -, -⟩ :=
      Account.creditInterest_eq_ok credits
    exact Account.zero_le_of_interestOn
      (reached.solvent.accounts id account found) saves earned

end Bookkeeping

/-- Whatever was done to either ledger, savings are at zero or above and so is
all interest. -/
theorem savingsSafe_of_reachable :
    (∀ ledger : Ledger, Bookkeeping.Reachable ledger →
      Bookkeeping.SavingsSafe ledger) ∧
      ∀ ledger : SharedLedger, Bookkeeping.Reachable ledger →
        Bookkeeping.SavingsSafe ledger :=
  ⟨fun _ reached => reached.savingsSafe, fun _ reached => reached.savingsSafe⟩

/-- A run in which interest is out of range, and in which a small amount is
withdrawn before and after the account is emptied. -/
def emptying (id : AccountId) (owner : OwnerId) (small : Decimal) :
    List Operation :=
  [.openAccount (some id) owner (.savings .one),
    .deposit id .largest,
    .creditInterest (some id),
    .withdraw id small,
    .withdraw id .largest,
    .withdraw id small,
    .creditInterest none]

/-- Four tenths do not show in the full account, and are not there in the empty
one. -/
theorem savingsSafe_of_reachable_emptying :
    Bookkeeping.SavingsSafe (Bookkeeping.after (.still default) Ledger.empty
      (emptying ⟨1, by decide⟩ ⟨1, by decide⟩ (.tenths 4 (by decide)))) ∧
      Bookkeeping.SavingsSafe
        (Bookkeeping.after (.still default) SharedLedger.empty
          (emptying ⟨1, by decide⟩ ⟨1, by decide⟩
            (.tenths 4 (by decide)))) :=
  ⟨savingsSafe_of_reachable.1 _
      (Bookkeeping.Reachable.empty.after (.still default) _),
    savingsSafe_of_reachable.2 _
      (Bookkeeping.Reachable.empty.after (.still default) _)⟩

end Passbook
