import Passbook.Proofs.Decimal.Places
import Passbook.Proofs.Solvency

/-!
# Money comes in ten-thousandths

Amounts and limits are checked for places when they come in, and nothing is
checked again after that. Yet every balance stays a whole number of
ten-thousandths: sums and differences stay on the grid of what they are made of,
rounded or not, and interest is rounded to that grid before it is credited.
Places are a matter of worth, so it does not count how many zeros an amount was
written with.

What the journal has is positive besides. Amounts that are asked for are checked
to be, and interest is not negative as long as the books are solvent, and
journalled only if it is not zero.

## Main results

* `AccountKind.validate_eq_ok_iff` — a kind is valid exactly if its parameter is
  in range.
* `Books.Denominated.change` — one successful operation.
* `denominated_of_reachable` — every figure in the ledger, after any number of
  operations.
-/

namespace Passbook

/-- Whether a decimal is an amount of money: it needs no more places than money
has, and is a whole number of the smallest pieces of money. -/
def Decimal.IsMoney (d : Decimal) : Prop :=
  d.places ≤ moneyPlaces ∧
    ∃ pieces : Int, d.units = pieces * tens (28 - moneyPlaces)

namespace Decimal

variable {a b d : Decimal}

theorem isMoney_iff_onGrid : d.IsMoney ↔ OnGrid moneyPlaces d.units := by
  unfold IsMoney
  rw [places_le_iff]
  constructor
  · exact And.left
  · intro on
    obtain ⟨pieces, eq⟩ := id on
    exact ⟨on, pieces, eq.trans (Int.mul_comm _ _)⟩

theorem isMoney_iff_places : d.IsMoney ↔ d.places ≤ moneyPlaces := by
  rw [isMoney_iff_onGrid, places_le_iff]

theorem isMoney_zero : zero.IsMoney :=
  isMoney_iff_places.2 (by decide)

/-- What is not negative and has digits is positive. -/
theorem zero_lt_of_mantissa_ne_zero (nonneg : zero ≤ d)
    (nonzero : d.mantissa ≠ 0) : zero < d := by
  have worth_ne : d.units ≠ 0 := mt (units_eq_zero_iff d).1 nonzero
  rw [zero_le_iff] at nonneg
  rw [lt_iff, units_zero]
  omega

theorem IsMoney.add? (a_money : a.IsMoney) (b_money : b.IsMoney)
    (sum : a.add? b = some d) : d.IsMoney := by
  rw [isMoney_iff_onGrid] at a_money b_money ⊢
  exact a_money.add? b_money sum

theorem IsMoney.sub? (a_money : a.IsMoney) (b_money : b.IsMoney)
    (difference : a.sub? b = some d) : d.IsMoney := by
  rw [isMoney_iff_onGrid] at a_money b_money ⊢
  exact a_money.sub? b_money difference

end Decimal

theorem isMoney_of_checkAmount {amount : Decimal}
    (valid : checkAmount amount = .ok ()) : amount.IsMoney :=
  Decimal.isMoney_iff_places.2 (checkAmount_eq_ok_iff.1 valid).2

theorem zero_lt_of_checkAmount {amount : Decimal}
    (valid : checkAmount amount = .ok ()) : .zero < amount := by
  rw [Decimal.lt_iff, Decimal.units_zero]
  exact (checkAmount_eq_ok_iff.1 valid).1

namespace Account

variable {balance rate interest : Decimal}

/-- Interest is an amount of money, whatever the rate. -/
theorem isMoney_of_interestOn (earned : interestOn balance rate =
    some interest) : interest.IsMoney := by
  obtain ⟨product, -, rfl⟩ := Option.map_eq_some_iff.1 earned
  exact Decimal.isMoney_iff_onGrid.2 (Decimal.onGrid_roundTo product _)

end Account

/-! ## Kinds -/

/-- Whether the parameter of a kind is one that an account may have. -/
def AccountKind.InRange : AccountKind → Prop
  | savings rate => .zero ≤ rate ∧ rate ≤ .one
  | checking limit => .zero ≤ limit ∧ limit.IsMoney

theorem AccountKind.validate_eq_ok_iff {kind : AccountKind} :
    kind.validate = .ok kind ↔ kind.InRange := by
  cases kind with
  | savings rate =>
    rw [validate_savings_eq_ok_iff, InRange, Decimal.zero_le_iff,
      Decimal.le_iff]
    exact and_iff_right rfl
  | checking limit =>
    rw [validate_checking_eq_ok_iff, InRange, Decimal.zero_le_iff,
      Decimal.isMoney_iff_places]
    exact and_iff_right rfl

/-- Whether the figures of an account are what they may be: its parameter is in
range, and its balance is money. -/
structure AccountKind.Denominated (kind : AccountKind) (balance : Decimal) :
    Prop where
  in_range : kind.InRange
  money : balance.IsMoney

namespace AccountKind.Denominated

variable {kind : AccountKind} {amount balance result : Decimal}

theorem add? (denominated : kind.Denominated balance) (money : amount.IsMoney)
    (sum : balance.add? amount = some result) : kind.Denominated result :=
  ⟨denominated.in_range, denominated.money.add? money sum⟩

theorem sub? (denominated : kind.Denominated balance) (money : amount.IsMoney)
    (difference : balance.sub? amount = some result) :
    kind.Denominated result :=
  ⟨denominated.in_range, denominated.money.sub? money difference⟩

end AccountKind.Denominated

/-! ## Books -/

/-- Whether all figures in the books are what they may be: balances are money,
parameters are in range, and amounts are money and positive. -/
structure Books.Denominated (books : Books) : Prop where
  accounts : books.accounts.Every fun account =>
    account.kind.Denominated account.balance
  records : ∀ record ∈ books.journal.records.toList,
    .zero < record.amount ∧ record.amount.IsMoney

namespace Books.Denominated

open Posting

variable {clock : Clock} {books : Books}

/-- A movement of a positive amount of money keeps books denominated if the
accounts are afterwards. -/
theorem moved {balances : List (AccountId × Decimal)}
    {transaction : Transaction} {status : Status}
    (denominated : books.Denominated) (positive : .zero < transaction.amount)
    (money : transaction.amount.IsMoney)
    (accounts : ((Posting.moved balances transaction status).write clock
      books).accounts.Every fun account =>
        account.kind.Denominated account.balance) :
    ((Posting.moved balances transaction status).write clock books).Denominated
    where
  accounts := accounts
  records := by
    intro record mem
    rcases List.mem_append.1 (Array.toList_push ▸ mem) with old | new
    · exact denominated.records record old
    · rw [List.mem_singleton.1 new]
      exact ⟨positive, money⟩

/-- So does a movement of an amount that was checked. -/
theorem asked {balances : List (AccountId × Decimal)}
    {transaction : Transaction} {status : Status}
    (denominated : books.Denominated)
    (valid : checkAmount transaction.amount = .ok ())
    (accounts : ((Posting.moved balances transaction status).write clock
      books).accounts.Every fun account =>
        account.kind.Denominated account.balance) :
    ((Posting.moved balances transaction status).write clock
      books).Denominated :=
  denominated.moved (zero_lt_of_checkAmount valid)
    (isMoney_of_checkAmount valid) accounts

/-- Books are denominated after every change, if they were solvent before. -/
theorem change {operation : Operation} {posting : Posting}
    (denominated : books.Denominated) (solvent : books.Solvent)
    (change : Change books.accounts.find? operation posting) :
    (posting.write clock books).Denominated := by
  have held := denominated.accounts
  cases change with
  | opened _ _ valid =>
    have in_range := AccountKind.validate_eq_ok_iff.1 valid
    exact ⟨held.insert ⟨in_range, Decimal.isMoney_zero⟩, denominated.records⟩
  | closed found => exact ⟨held.erase _, denominated.records⟩
  | deposited valid found sum =>
    have money := isMoney_of_checkAmount valid
    refine denominated.asked valid ?_
    exact every_write_moved_one held found ((held _ _ found).add? money sum)
  | withdrawn valid found _ difference =>
    have money := isMoney_of_checkAmount valid
    refine denominated.asked valid ?_
    exact every_write_moved_one held found
      ((held _ _ found).sub? money difference)
  | notWithdrawn valid found =>
    refine denominated.asked valid ?_
    exact every_write_moved_one held found (held _ _ found)
  | transferred valid _ a_found b_found _ difference sum =>
    have money := isMoney_of_checkAmount valid
    refine denominated.asked valid ?_
    exact every_write_moved_two held a_found b_found
      ((held _ _ a_found).sub? money difference)
      ((held _ _ b_found).add? money sum)
  | notTransferred valid _ a_found b_found =>
    refine denominated.asked valid ?_
    exact every_write_moved_two held a_found b_found (held _ _ a_found)
      (held _ _ b_found)
  | credited found saves earned something sum =>
    have money := Account.isMoney_of_interestOn earned
    have nonneg := Account.zero_le_of_interestOn
      (solvent.accounts _ _ found) saves earned
    apply denominated.moved
      (Decimal.zero_lt_of_mantissa_ne_zero nonneg something) money
    exact every_write_moved_one held found ((held _ _ found).add? money sum)
  | notCredited found _ earned _ sum =>
    have money := Account.isMoney_of_interestOn earned
    have after := (held _ _ found).add? money sum
    exact ⟨Register.Every.map_only held (amend_id _ _) found after,
      denominated.records⟩
  | @limited _ limit _ _ found _ valid _ =>
    have in_range : (AccountKind.checking limit).InRange :=
      AccountKind.validate_eq_ok_iff.1 valid
    exact ⟨Register.Every.map_only held (amend_id _ _) found
      ⟨in_range, (held _ _ found).money⟩, denominated.records⟩

end Books.Denominated

/-! ## Ledgers -/

namespace Bookkeeping

variable {β : Type} [Bookkeeping β]

/-- In every reachable state the books are denominated. -/
theorem Reachable.denominatedBooks [Lawful β] {ledger : β}
    (reached : Reachable ledger) : (books ledger).Denominated := by
  -- interest is positive only in solvent books, so the two go together
  have both : (books ledger).Solvent ∧ (books ledger).Denominated := by
    apply reached.books_induction
      (motive := fun books => books.Solvent ∧ books.Denominated)
    · exact ⟨⟨Register.every_empty _, nofun⟩, ⟨Register.every_empty _, nofun⟩⟩
    · intro clock books operation posting ⟨solvent, denominated⟩ change
      exact ⟨solvent.change change, denominated.change solvent change⟩
  exact both.2

/-- What can be relied on about the figures in a ledger. -/
structure Denominated (ledger : β) : Prop where
  /-- Every balance is money. -/
  balances : ∀ id account, (accounts ledger).find? id = some account →
    account.balance.IsMoney
  /-- Every limit is money, and not negative. -/
  limits : ∀ id account limit, (accounts ledger).find? id = some account →
    account.kind = .checking limit → .zero ≤ limit ∧ limit.IsMoney
  /-- Every rate is between zero and one. -/
  rates : ∀ id account rate, (accounts ledger).find? id = some account →
    account.kind = .savings rate → .zero ≤ rate ∧ rate ≤ .one
  /-- Every amount in the journal is money, and positive. -/
  amounts : ∀ record ∈ (journal ledger).records.toList,
    .zero < record.amount ∧ record.amount.IsMoney

theorem Reachable.denominated [Lawful β] {ledger : β}
    (reached : Reachable ledger) : Denominated ledger where
  balances id account found :=
    (reached.denominatedBooks.accounts id account found).money
  limits id account limit found checks := by
    have in_range := (reached.denominatedBooks.accounts _ _ found).in_range
    rwa [checks] at in_range
  rates id account rate found saves := by
    have in_range := (reached.denominatedBooks.accounts _ _ found).in_range
    rwa [saves] at in_range
  amounts := reached.denominatedBooks.records

end Bookkeeping

/-- Whatever was done to either ledger, all figures in it are what they may
be. -/
theorem denominated_of_reachable :
    (∀ ledger : Ledger, Bookkeeping.Reachable ledger →
      Bookkeeping.Denominated ledger) ∧
      ∀ ledger : SharedLedger, Bookkeeping.Reachable ledger →
        Bookkeeping.Denominated ledger :=
  ⟨fun _ reached => reached.denominated, fun _ reached => reached.denominated⟩

/-- A run with a rate and a deposit of many places, and a balance that takes up
all 96 bits on the way. -/
def trailing (id : AccountId) (owner : OwnerId) (rate long : Decimal) :
    List Operation :=
  [.openAccount (some id) owner (.savings rate),
    .deposit id long,
    .creditInterest (some id),
    .deposit id .largest,
    .withdraw id long,
    .openAccount none owner (.checking (-long))]

/-- Four tenths can be deposited with 27 more zeros, and a thousandth of a third
be the rate, with as many places as a decimal can have. -/
theorem denominated_of_reachable_trailing :
    let rate : Decimal := ⟨false, 3333333333333333333333333, 28,
      by decide, Nat.le_refl _⟩
    let long : Decimal := ⟨false, 4000000000000000000000000000, 28,
      by decide, Nat.le_refl _⟩
    let operations := trailing ⟨1, by decide⟩ ⟨1, by decide⟩ rate long
    Bookkeeping.Denominated
        (Bookkeeping.after (.still default) Ledger.empty operations) ∧
      Bookkeeping.Denominated
        (Bookkeeping.after (.still default) SharedLedger.empty operations) :=
  ⟨denominated_of_reachable.1 _
      (Bookkeeping.Reachable.empty.after (.still default) _),
    denominated_of_reachable.2 _
      (Bookkeeping.Reachable.empty.after (.still default) _)⟩

end Passbook
