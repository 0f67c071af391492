import Passbook.Proofs.Decimal.Bracket

/-!
# How many places a worth needs

What is worth a whole number of steps of `10 ^ (-p)` lies on the grid of `p`
places, and a decimal needs at most `p` places exactly if it lies there.

Sums do not leave a grid. That is clear as long as they are exact, and it stays
true of sums that are rounded: the finest digits go first, and as long as they
are finer than the grid they are zeros, so nothing is lost; once they are not,
what is left lies on a coarser grid.

## Main results

* `places_le_iff` — places are a matter of worth.
* `onGrid_of_fit?`, `OnGrid.add?`, `OnGrid.sub?` — results stay on the grid of
  the operands.
* `onGrid_roundTo` — what is rounded to `p` places lies on their grid.
-/

namespace Passbook.Decimal

/-- Whether a worth is a whole number of steps of `10 ^ (-p)`. -/
def OnGrid (p : Nat) (n : Int) : Prop := ((tens (28 - p) : Nat) : Int) ∣ n

/-! ## Places -/

/-- Zeros are taken off until there are no places or no zeros left. -/
theorem stripZeros_stops (m s : Nat) :
    (stripZeros m s).2 = 0 ∨ (stripZeros m s).1 % 10 ≠ 0 := by
  induction s generalizing m with
  | zero => exact Or.inl rfl
  | succ s ih =>
    unfold stripZeros
    split
    · exact ih _
    case isFalse not_zero => exact Or.inr not_zero

/-- A coarser grid is part of a finer one. -/
theorem tens_dvd_tens {a b : Nat} (le : a ≤ b) : tens a ∣ tens b :=
  ⟨tens (b - a), by rw [← tens_add, Nat.add_sub_cancel' le]⟩

/-- A decimal lies on the grid of the places it is written with. -/
theorem onGrid_of_scale_le {d : Decimal} {p : Nat} (le : d.scale ≤ p) :
    OnGrid p d.units := by
  have coarser : tens (28 - p) ∣ tens (28 - d.scale) :=
    tens_dvd_tens (by omega)
  unfold OnGrid units
  exact Int.dvd_mul_of_dvd_right (Int.natCast_dvd_natCast.2 coarser)

theorem onGrid_worth_iff {p : Nat} (negative : Bool) (m s : Nat) :
    OnGrid p (worth negative m s) ↔ tens (28 - p) ∣ m * tens (28 - s) := by
  unfold OnGrid
  cases negative
  · rw [worth_false, Int.natCast_dvd_natCast]
  · rw [worth_true, Int.dvd_neg, Int.natCast_dvd_natCast]

/-- Digits on a grid that is not finer than their scale end in zeros. -/
theorem exists_digits_of_dvd {m s p : Nat} (p_le : p ≤ s) (s_le : s ≤ 28)
    (on : tens (28 - p) ∣ m * tens (28 - s)) : ∃ k, m = k * tens (s - p) := by
  obtain ⟨k, eq⟩ := on
  refine ⟨k, ?_⟩
  apply Nat.eq_of_mul_eq_mul_right (tens_pos (28 - s))
  rw [eq, Nat.mul_assoc, ← tens_add, show s - p + (28 - s) = 28 - p by omega,
    Nat.mul_comm]

/-- A decimal needs no more than `p` places exactly if it lies on their grid. -/
theorem places_le_iff {d : Decimal} {p : Nat} :
    d.places ≤ p ↔ OnGrid p d.units := by
  constructor
  · intro le
    rw [← units_normalize]
    exact onGrid_of_scale_le le
  · intro on
    rw [← units_normalize, units_eq_worth, onGrid_worth_iff] at on
    rcases Nat.lt_or_ge p d.places with more | le
    · -- there would be a zero that could have been taken off
      obtain ⟨k, digits⟩ :=
        exists_digits_of_dvd (Nat.le_of_lt more) d.normalize.scale_le on
      have zero_last : (10 : Nat) ∣ d.normalize.mantissa := by
        rw [digits, show d.places - p = d.places - p - 1 + 1 by omega,
          tens_succ, ← Nat.mul_assoc]
        exact Nat.dvd_mul_left 10 _
      rcases stripZeros_stops d.mantissa d.scale with none | not_zero
      · have no_places : d.places = 0 := none
        omega
      · exact absurd (Nat.mod_eq_zero_of_dvd zero_last) not_zero
    · exact le

/-! ## Fitting -/

/-- Fitting does not take a value off its grid. -/
theorem onGrid_of_fit? {negative : Bool} {m s p : Nat} {d : Decimal}
    (s_le : s ≤ 28) (fitted : fit? negative m s = some d)
    (on : OnGrid p (worth negative m s)) : OnGrid p d.units := by
  rcases Nat.lt_or_ge p d.scale with finer | coarser
  · -- the digits that went were finer than the grid, so they were zeros
    obtain ⟨mantissa_eq, scale_le, -, -⟩ := fit?_eq_some fitted
    rw [onGrid_worth_iff] at on
    obtain ⟨k, digits⟩ := exists_digits_of_dvd (by omega) s_le on
    have kept : d.mantissa = k * tens (d.scale - p) := by
      rw [mantissa_eq, digits,
        show s - p = d.scale - p + (s - d.scale) by omega, tens_add,
        ← Nat.mul_assoc, halfEven_mul _ (tens_pos _)]
    have d_scale := d.scale_le
    rw [units_of_fit? fitted, onGrid_worth_iff, kept, Nat.mul_assoc,
      ← tens_add, show d.scale - p + (28 - d.scale) = 28 - p by omega]
    exact Nat.dvd_mul_left _ _
  · exact onGrid_of_scale_le coarser

/-! ## Sums, differences and rounding -/

namespace OnGrid

variable {p : Nat} {a b d : Decimal}

theorem add? (a_on : OnGrid p a.units) (b_on : OnGrid p b.units)
    (sum : a.add? b = some d) : OnGrid p d.units := by
  have exact_on : OnGrid p (a.units + b.units) := Int.dvd_add a_on b_on
  by_cases zero : a.mantissa = 0 ∨ b.mantissa = 0
  · rwa [units_add?_of_zero zero sum]
  · rw [not_or] at zero
    obtain ⟨negative, m, s, s_le, fitted, exact_sum⟩ :=
      add?_eq_fit? zero.1 zero.2
    rw [fitted] at sum
    rw [← exact_sum] at exact_on
    exact onGrid_of_fit? s_le sum exact_on

theorem sub? (a_on : OnGrid p a.units) (b_on : OnGrid p b.units)
    (difference : a.sub? b = some d) : OnGrid p d.units := by
  obtain ⟨sum, fitted, same⟩ := sum_of_difference difference
  rw [← same]
  apply a_on.add? _ fitted
  rw [units_neg]
  exact Int.dvd_neg.2 b_on

end OnGrid

theorem onGrid_roundTo (d : Decimal) (p : Nat) :
    OnGrid p (d.roundTo p).units := by
  apply onGrid_of_scale_le
  unfold roundTo
  split
  case isTrue le => exact le
  case isFalse => exact Nat.le_refl p

end Passbook.Decimal
