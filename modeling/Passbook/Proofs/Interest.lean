import Passbook.Proofs.Decimal.Nearest

/-!
# Interest is rounded, and sometimes twice

Interest is meant to be the exact product of balance and rate, rounded once to
places of money. There always is a product, since no rate is above one. But a
product that needs more than 28 places or 96 bits is rounded when it is formed,
and rounded again to places of money. The rate may have 28 places, so a product
just above half a ten-thousandth can first become the half, and then nothing.

## Main results

* `Reachable.solvent` — an account is solvent after any number of operations.
* `roundedOnce_iff` — interest is the exact product rounded once, unless the
  rounding of the product leads astray.
* `not_roundedOnce` — it may lead astray.
-/

namespace Passbook.Account

/-- The accounts that operations on one account can make. -/
inductive Reachable : Account → Prop
  | opened {id : AccountId} {owner : OwnerId} {kind : AccountKind}
    {account : Account} (opens : new id owner kind = .ok account) :
      Reachable account
  | deposited {account result : Account} {amount : Decimal}
    (reached : Reachable account)
    (paid : account.deposit amount = .ok result) : Reachable result
  | withdrawn {account result : Account} {amount : Decimal}
    (reached : Reachable account)
    (taken : account.withdraw amount = .ok result) : Reachable result
  | credited {account result : Account} {interest : Decimal}
    (reached : Reachable account)
    (credits : account.creditInterest = .ok (interest, result)) :
      Reachable result
  | limited {account result : Account} {limit : Decimal}
    (reached : Reachable account)
    (limits : account.setLimit limit = .ok result) : Reachable result
  | attached {account : Account} (reached : Reachable account) (record : Nat) :
      Reachable (account.attach record)

/-- No operation on an account leaves it insolvent. -/
theorem Reachable.solvent {account : Account} (reached : account.Reachable) :
    account.kind.Solvent account.balance := by
  induction reached with
  | opened opens =>
    obtain ⟨valid, rfl⟩ := new_eq_ok_iff.1 opens
    exact solvent_of_validate valid
  | deposited _ paid ih =>
    obtain ⟨valid, balance, sum, rfl⟩ := deposit_eq_ok_iff.1 paid
    have after := solvent_of_add? ih (zero_le_of_checkAmount valid) sum
    exact after
  | withdrawn _ taken ih =>
    obtain ⟨-, covered, balance, difference, rfl⟩ := withdraw_eq_ok_iff.1 taken
    have after := solvent_of_sub? ih covered difference
    exact after
  | credited _ credits ih =>
    obtain ⟨rate, balance, saves, earned, sum, rfl⟩ :=
      creditInterest_eq_ok credits
    have nonneg := zero_le_of_interestOn ih saves earned
    have after := solvent_of_add? ih nonneg sum
    exact after
  | limited _ limits ih =>
    obtain ⟨-, -, -, -, rfl⟩ := setLimit_eq_ok limits
    exact solvent_of_checking rfl _
  | attached _ record ih => exact ih

variable {account : Account} {rate product : Decimal}

/-- Crediting interest fails only if the new balance has no result. -/
theorem add?_eq_none_of_creditInterest {fault : Fault}
    (saves : account.kind = .savings rate)
    (multiplied : account.balance.mul? rate = some product)
    (failed : account.creditInterest = .error fault) :
    account.balance.add? (product.roundTo moneyPlaces) = none := by
  have earned : interestOn account.balance rate =
      some (product.roundTo moneyPlaces) := by
    rw [interestOn, multiplied, Option.map_some]
  unfold creditInterest at failed
  rw [saves] at failed
  simp only [earned] at failed
  cases sum : account.balance.add? (product.roundTo moneyPlaces) with
  | none => rfl
  | some balance =>
    rw [sum] at failed
    cases failed

/--
Whatever was done to a savings account, its balance has a product with the rate,
and interest fails only if it cannot be added to the balance. It is the exact
product rounded once to places of money exactly if the rounding of the product
does not lead astray.
-/
theorem roundedOnce_iff (reached : account.Reachable)
    (saves : account.kind = .savings rate) :
    ∃ product, account.balance.mul? rate = some product ∧
      (∀ fault, account.creditInterest = .error fault →
        account.balance.add? (product.roundTo moneyPlaces) = none) ∧
      ∀ interest result, account.creditInterest = .ok (interest, result) →
        (interest.IsRounded moneyPlaces (account.balance.value * rate.value) ↔
          ¬ Decimal.RoundedAstray moneyPlaces
            (account.balance.value * rate.value) product interest) := by
  obtain ⟨rate_nonneg, rate_le, nonneg⟩ := reached.solvent rate saves
  obtain ⟨product, multiplied⟩ :=
    Decimal.exists_mul?_of_le_one nonneg rate_nonneg rate_le
  refine ⟨product, multiplied, fun fault failed =>
    add?_eq_none_of_creditInterest saves multiplied failed, ?_⟩
  intro interest result credits
  obtain ⟨own_rate, balance, own_saves, earned, -, -⟩ :=
    creditInterest_eq_ok credits
  rw [saves] at own_saves
  cases own_saves
  rw [interestOn, multiplied, Option.map_some] at earned
  cases earned
  exact Decimal.isRounded_product_iff nonneg rate_nonneg multiplied

/-- A savings account with a balance and no record. -/
def saver (id : AccountId) (owner : OwnerId) (rate balance : Decimal) :
    Account :=
  ⟨id, owner, .savings rate, balance, #[]⟩

/-- Paying in makes such an account of a new one. -/
theorem reachable_saver (id : AccountId) (owner : OwnerId)
    (rate balance : Decimal)
    (in_range : (AccountKind.savings rate).validate = .ok (.savings rate))
    (valid : checkAmount balance = .ok ()) :
    (saver id owner rate balance).Reachable := by
  have opens : new id owner (.savings rate) =
      .ok (saver id owner rate .zero) := new_eq_ok_iff.2 ⟨in_range, rfl⟩
  have paid : (saver id owner rate .zero).deposit balance =
      .ok (saver id owner rate balance) :=
    deposit_eq_ok_iff.2 ⟨valid, balance, Decimal.add?_zero_left rfl _, rfl⟩
  exact .deposited (.opened opens) paid

/-- Three ten-thousandths, saved at a little more than a sixth, with all 28
places. -/
theorem roundedOnce_iff_saver :
    let balance : Decimal := ⟨false, 3, 4, by decide, by decide⟩
    let rate : Decimal := ⟨false, 1666666666666666666666666667, 28, by decide,
      Nat.le_refl _⟩
    let account := saver ⟨1, by decide⟩ ⟨1, by decide⟩ rate balance
    account.Reachable ∧ account.kind = .savings rate ∧
      ∃ product, account.balance.mul? rate = some product ∧
        (∀ fault, account.creditInterest = .error fault →
          account.balance.add? (product.roundTo moneyPlaces) = none) ∧
        ∀ interest result, account.creditInterest = .ok (interest, result) →
          (interest.IsRounded moneyPlaces
              (account.balance.value * rate.value) ↔
            ¬ Decimal.RoundedAstray moneyPlaces
              (account.balance.value * rate.value) product interest) := by
  intro balance rate account
  have reached : account.Reachable :=
    reachable_saver ⟨1, by decide⟩ ⟨1, by decide⟩ rate balance (by decide)
      (by decide)
  exact ⟨reached, rfl, roundedOnce_iff reached rfl⟩

/-- Three times a little more than a sixth is a little more than a half. -/
theorem half_lt_product {balance rate : Decimal}
    (pieces : balance.value * (Decimal.tens moneyPlaces : Rat) = 3)
    (sixth : rate.value * (Decimal.tens 28 : Rat) =
      1666666666666666666666666667) :
    1 / 2 < balance.value * rate.value *
      (Decimal.tens moneyPlaces : Rat) := by
  have digits : (Decimal.tens 28 : Rat) = 10 ^ 28 := by
    exact_mod_cast (rfl : Decimal.tens 28 = 10 ^ 28)
  rw [digits] at sixth
  rw [mul_right_comm, pieces]
  linarith

/-- A little more than half a ten-thousandth is not rounded up. -/
theorem not_roundedOnce :
    ¬ ∀ (account result : Account) (rate interest : Decimal),
      account.Reachable → account.kind = .savings rate →
        account.creditInterest = .ok (interest, result) →
          interest.IsRounded moneyPlaces
            (account.balance.value * rate.value) := by
  intro rounded
  let balance : Decimal := ⟨false, 3, 4, by decide, by decide⟩
  let rate : Decimal := ⟨false, 1666666666666666666666666667, 28, by decide,
    Nat.le_refl _⟩
  let nothing : Decimal := ⟨false, 0, 4, by decide, by decide⟩
  let account := saver ⟨1, by decide⟩ ⟨1, by decide⟩ rate balance
  have reached : account.Reachable :=
    reachable_saver ⟨1, by decide⟩ ⟨1, by decide⟩ rate balance (by decide)
      (by decide)
  have credits : account.creditInterest = .ok (nothing, account) := by decide
  have no_steps : nothing.value * (Decimal.tens moneyPlaces : Rat) =
      (0 : Int) := by
    rw [Decimal.value_eq_zero rfl, zero_mul, Int.cast_zero]
  have is_rounded := rounded account account rate nothing reached rfl credits
  obtain ⟨near, -⟩ := (Decimal.isRounded_iff no_steps).1 is_rounded
  rw [Int.cast_zero, sub_zero, abs_le] at near
  have pieces := Decimal.value_mul_tens (d := balance) rfl
  have sixth := Decimal.value_mul_tens (d := rate) rfl
  exact absurd near.2 (not_le.2 (half_lt_product (by exact_mod_cast pieces)
    (by exact_mod_cast sixth)))

end Passbook.Account
