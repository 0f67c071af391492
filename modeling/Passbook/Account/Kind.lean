import Passbook.Decimal.Arithmetic
import Passbook.Fault
import Passbook.Text.Blank

/-!
# Amounts of money and kinds of account

Money has at most four decimal places that matter. A savings account earns
interest at a rate between 0 and 1 and never goes below zero; a checking account
earns none and may go below zero by its limit.

## Main results

* `checkPlaces_eq_ok_iff`, `checkAmount_eq_ok_iff` — which amounts are accepted.
* `validate_savings_eq_ok_iff`, `validate_checking_eq_ok_iff` — which kinds are
  accepted.
-/

namespace Passbook

/-- How many decimal places of an amount of money may matter. -/
def moneyPlaces : Nat := 4

/-- Refuses an amount with more places than money has. -/
def checkPlaces (amount : Decimal) : Except Fault Unit :=
  if amount.places ≤ moneyPlaces then
    .ok () else .error (.tooManyPlaces amount moneyPlaces)

/-- Refuses an amount that cannot be moved: one that is not positive or has too
many places. -/
def checkAmount (amount : Decimal) : Except Fault Unit :=
  if amount ≤ .zero then
    .error (.amountNotPositive amount) else checkPlaces amount

theorem checkPlaces_eq_ok_iff {amount : Decimal} :
    checkPlaces amount = .ok () ↔ amount.places ≤ moneyPlaces := by
  unfold checkPlaces
  split <;> simp_all

theorem checkAmount_eq_ok_iff {amount : Decimal} :
    checkAmount amount = .ok () ↔ 0 < amount.units ∧
      amount.places ≤ moneyPlaces := by
  unfold checkAmount
  split
  case isTrue h =>
    rw [Decimal.le_iff, Decimal.units_zero] at h
    simp only [reduceCtorEq, false_iff, not_and]
    omega
  case isFalse h =>
    rw [Decimal.le_iff, Decimal.units_zero] at h
    rw [checkPlaces_eq_ok_iff]
    exact ⟨fun places => ⟨by omega, places⟩, fun both => both.2⟩

/-- What an account is for, with its parameter. -/
inductive AccountKind where
  /-- Earns interest at this rate and stays at zero or above. -/
  | savings (rate : Decimal)
  /-- May be overdrawn down to this limit below zero. -/
  | checking (limit : Decimal)
deriving DecidableEq

namespace AccountKind

/-- The rate of a savings account opened without one, `0.03`. -/
def defaultRate : Decimal := ⟨false, 3, 2, by decide, by decide⟩

/-- The limit of a checking account opened without one, `500`. -/
def defaultLimit : Decimal := ⟨false, 500, 0, by decide, Decimal.no_places_le⟩

/-- A savings account at a rate between 0 and 1. -/
def ofRate (rate : Decimal) : Except Fault AccountKind :=
  if rate < .zero ∨ .one < rate then
    .error (.rateOutOfRange rate) else .ok (savings rate)

/-- A checking account with a limit that is an amount of money and not
negative. -/
def ofLimit (limit : Decimal) : Except Fault AccountKind :=
  if limit < .zero then .error (.negativeLimit limit)
  else do
    checkPlaces limit
    return checking limit

/-- Refuses a kind whose parameter is out of range. -/
def validate : AccountKind → Except Fault AccountKind
  | savings rate => ofRate rate
  | checking limit => ofLimit limit

theorem validate_savings_eq_ok_iff {rate : Decimal} {kind : AccountKind} :
    validate (savings rate) = .ok kind ↔
      kind = savings rate ∧ 0 ≤ rate.units ∧
        rate.units ≤ Decimal.one.units := by
  simp only [validate, ofRate, Decimal.lt_iff, Decimal.units_zero]
  split
  · simp only [reduceCtorEq, false_iff, not_and]; omega
  · simp only [Except.ok.injEq]
    exact ⟨fun h => ⟨h.symm, by omega⟩, fun h => h.1.symm⟩

theorem validate_checking_eq_ok_iff {limit : Decimal} {kind : AccountKind} :
    validate (checking limit) = .ok kind ↔
      kind = checking limit ∧ 0 ≤ limit.units ∧ limit.places ≤ moneyPlaces := by
  simp only [validate, ofLimit, checkPlaces, Decimal.lt_iff, Decimal.units_zero]
  split
  · simp only [reduceCtorEq, false_iff, not_and]; omega
  · split
    · simp only [bind, Except.bind, pure, Except.pure, Except.ok.injEq]
      exact ⟨fun h => ⟨h.symm, by omega, by assumption⟩, fun h => h.1.symm⟩
    · simp only [bind, Except.bind, reduceCtorEq, false_iff, not_and]
      intro _ _
      assumption

/-- How a kind is written. -/
def name : AccountKind → String
  | savings _ => "non_overdraft"
  | checking _ => "overdraft"

/-- The rate or the limit. -/
def parameter : AccountKind → Decimal
  | savings rate => rate
  | checking limit => limit

/-- The least balance the kind allows; the opposite of a limit has a sign even
if it is zero. -/
def floor : AccountKind → Decimal
  | savings _ => .zero
  | checking limit => -limit

/-- Reads a kind by one of its names; the parameter is its rate or limit if
there is one. -/
def parse (name : String) (parameter : Option Decimal) :
    Except Fault AccountKind :=
  let word := Text.lower (Text.trim name)
  if word = "non_overdraft" ∨ word = "nonoverdraft" ∨ word = "savings" then
    ofRate (parameter.getD defaultRate)
  else if word = "overdraft" ∨ word = "checking" then
    ofLimit (parameter.getD defaultLimit)
  else .error (.unknownKind name)

end AccountKind

end Passbook
