import Passbook.Proofs.Decimal.Places

/-!
# Which values have a result

A value that needs too many digits gives up places, and once there are none left
to give up there is no result. What decides is therefore the integer part alone:
there is no result exactly from `2 ^ 96 - 1 / 2` on, in either direction. At the
half itself the even neighbour is `2 ^ 96`, which is too large.

So a sum or a difference that lies between two decimals has a result, and it is
exact if some decimal is worth it. In particular it is exact if it lies on a
grid and is not too large for the mantissas of that grid.

## Main results

* `fit?_eq_none_iff` — which values cannot be fitted.
* `add?_eq_none_iff`, `sub?_eq_none_iff` — which sums and differences have no
  result.
* `exists_add?_of_worth` — a sum that some decimal is worth is there, and exact.
* `exists_units_eq_of_onGrid` — what some decimal is worth, if it lies on a
  grid.
-/

namespace Passbook.Decimal

/-! ## Fitting -/

/-- A quotient is rounded beyond an odd number from half a step above it on: at
the half itself the next number is the even one. -/
theorem lt_halfEven_iff {n d k : Nat} (d_pos : 0 < d) (odd : k % 2 = 1) :
    k < halfEven n d ↔ (2 * k + 1) * d ≤ 2 * n := by
  constructor
  · exact bound_le_of_le_halfEven d_pos
  · intro le
    rcases Nat.lt_or_eq_of_le le with above | half
    · exact lt_halfEven d_pos above
    · have spread : (2 * k + 1) * d = 2 * (d * k) + d := by
        rw [Nat.add_mul, Nat.mul_assoc, Nat.one_mul, Nat.mul_comm k d]
      have parts : n = d / 2 + d * k := by omega
      have whole : n / d = k := by
        rw [parts, Nat.add_mul_div_left _ _ d_pos,
          Nat.div_eq_of_lt (by omega), Nat.zero_add]
      have rest : n % d = d / 2 := by
        rw [parts, Nat.add_mul_mod_self_left, Nat.mod_eq_of_lt (by omega)]
      unfold halfEven
      rw [whole, rest, if_neg (by omega)]
      exact Nat.lt_succ_self k

/-- A quotient is rounded beyond 96 bits from half a step below `2 ^ 96` on. -/
theorem bound_le_halfEven_iff {n d : Nat} (d_pos : 0 < d) :
    mantissaBound ≤ halfEven n d ↔ (2 * mantissaBound - 1) * d ≤ 2 * n := by
  have odd : (mantissaBound - 1) % 2 = 1 := by decide
  have pos : 0 < mantissaBound := by decide
  have above := lt_halfEven_iff (n := n) d_pos odd
  rw [show 2 * (mantissaBound - 1) + 1 = 2 * mantissaBound - 1 by omega]
    at above
  rw [← above]
  omega

theorem fitBelow?_eq_none_iff {negative : Bool} {m s t : Nat}
    {t_le : t ≤ 28} :
    fitBelow? negative m s t t_le = none ↔
      ∀ u ≤ t, mantissaBound ≤ halfEven m (tens (s - u)) := by
  induction t with
  | zero =>
    unfold fitBelow?
    split
    case isTrue fits =>
      refine iff_of_false (Option.some_ne_none _) fun too_large => ?_
      have at_zero := too_large 0 (Nat.le_refl 0)
      rw [Nat.sub_zero] at at_zero
      omega
    case isFalse too_large =>
      refine iff_of_true rfl fun u u_le => ?_
      rw [Nat.le_zero.1 u_le]
      exact Nat.le_of_not_lt too_large
  | succ t ih =>
    unfold fitBelow?
    split
    case isTrue fits =>
      refine iff_of_false (Option.some_ne_none _) fun too_large => ?_
      have finest := too_large (t + 1) (Nat.le_refl _)
      omega
    case isFalse too_large =>
      rw [ih]
      constructor
      · intro coarser u u_le
        rcases Nat.le_succ_iff.1 u_le with le | rfl
        · exact coarser u le
        · exact Nat.le_of_not_lt too_large
      · exact fun all u u_le => all u (Nat.le_succ_of_le u_le)

/-- A value cannot be fitted exactly if its integer part is rounded beyond 96
bits. -/
theorem fit?_eq_none_iff {negative : Bool} {m s : Nat} :
    fit? negative m s = none ↔ (2 * mantissaBound - 1) * tens s ≤ 2 * m := by
  unfold fit?
  rw [fitBelow?_eq_none_iff]
  constructor
  · intro too_large
    exact (bound_le_halfEven_iff (tens_pos s)).1 (too_large 0 (Nat.zero_le _))
  · -- with more places the mantissa is only larger
    intro le u u_le
    apply (bound_le_halfEven_iff (tens_pos (s - u))).2
    have fewer : tens (s - u) ≤ tens s := by
      rw [tens_split (Nat.sub_le s u)]
      exact Nat.le_mul_of_pos_left _ (tens_pos _)
    exact Nat.le_trans (Nat.mul_le_mul_left _ fewer) le

/-- What is not above a mantissa in its integer part can be fitted. -/
theorem exists_fit?_of_le {negative : Bool} {m s k : Nat}
    (k_lt : k < mantissaBound) (le : m ≤ k * tens s) :
    ∃ d, fit? negative m s = some d := by
  cases fitted : fit? negative m s with
  | some d => exact ⟨d, rfl⟩
  | none =>
    rw [fit?_eq_none_iff] at fitted
    have pos := tens_pos s
    have small : 2 * (k * tens s) < (2 * mantissaBound - 1) * tens s := by
      rw [← Nat.mul_assoc]
      exact Nat.mul_lt_mul_of_pos_right (by omega) pos
    omega

/-! ## Sums and differences -/

/-- Whether a worth is rounded beyond 96 bits: it is `2 ^ 96 - 1 / 2` or more,
with either sign. -/
def OutOfRange (n : Int) : Prop :=
  (2 * mantissaBound - 1) * tens 28 ≤ 2 * n.natAbs

instance (n : Int) : Decidable (OutOfRange n) :=
    inferInstanceAs (Decidable (_ ≤ _))

section

variable {a b c : Decimal}

theorem natAbs_units (d : Decimal) :
    d.units.natAbs = d.mantissa * tens (28 - d.scale) := by
  rw [units_eq_worth]
  cases d.negative
  · rw [worth_false, Int.natAbs_natCast]
  · rw [worth_true, Int.natAbs_neg, Int.natAbs_natCast]

theorem natAbs_units_le (d : Decimal) :
    d.units.natAbs ≤ (mantissaBound - 1) * tens 28 := by
  have digits := d.mantissa_lt
  have fewer : tens (28 - d.scale) ≤ tens 28 := by
    rw [tens_split (Nat.sub_le 28 d.scale)]
    exact Nat.le_mul_of_pos_left _ (tens_pos _)
  rw [natAbs_units]
  exact Nat.mul_le_mul (by omega) fewer

/-- What lies between two decimals is not out of range. -/
theorem not_outOfRange_of_between {n : Int} (above : a.units ≤ n)
    (below : n ≤ b.units) : ¬ OutOfRange n := by
  have a_le := natAbs_units_le a
  have b_le := natAbs_units_le b
  have pos := tens_pos 28
  have bound : mantissaBound = 79228162514264337593543950336 := rfl
  unfold OutOfRange
  rw [bound] at a_le b_le ⊢
  omega

/-- A sum has no result exactly if it is out of range. -/
theorem add?_eq_none_iff :
    a.add? b = none ↔ OutOfRange (a.units + b.units) := by
  by_cases a_zero : a.mantissa = 0
  · rw [add?_zero_left a_zero, (units_eq_zero_iff a).2 a_zero, Int.zero_add]
    exact iff_of_false (Option.some_ne_none _)
      (not_outOfRange_of_between (Int.le_refl _) (Int.le_refl _))
  · -- a zero operand leaves the other as it is, which is never out of range
    by_cases b_zero : b.mantissa = 0
    · rw [add?_zero_right a_zero b_zero, (units_eq_zero_iff b).2 b_zero,
        Int.add_zero]
      exact iff_of_false (Option.some_ne_none _)
        (not_outOfRange_of_between (Int.le_refl _) (Int.le_refl _))
    · obtain ⟨negative, m, s, s_le, fitted, exact_sum⟩ :=
        add?_eq_fit? a_zero b_zero
      have size : (a.units + b.units).natAbs = m * tens (28 - s) := by
        rw [← exact_sum]
        cases negative
        · rw [worth_false, Int.natAbs_natCast]
        · rw [worth_true, Int.natAbs_neg, Int.natAbs_natCast]
      rw [fitted, fit?_eq_none_iff, OutOfRange, size, tens_split s_le,
        Nat.mul_comm (tens (28 - s)), ← Nat.mul_assoc, ← Nat.mul_assoc 2,
        Nat.mul_le_mul_right_iff (tens_pos _)]

/-- A difference has no result exactly if it is out of range. -/
theorem sub?_eq_none_iff :
    a.sub? b = none ↔ OutOfRange (a.units - b.units) := by
  by_cases b_zero : b.mantissa = 0
  · rw [sub?, if_pos b_zero, (units_eq_zero_iff b).2 b_zero, Int.sub_zero]
    exact iff_of_false (Option.some_ne_none _)
      (not_outOfRange_of_between (Int.le_refl _) (Int.le_refl _))
  · rw [sub?_eq_add?_neg b_zero, add?_eq_none_iff, units_neg, Int.sub_eq_add_neg]

/-- A difference between two decimals has a result. -/
theorem exists_sub?_of_between (lower upper : Decimal)
    (above : lower.units ≤ a.units - b.units)
    (below : a.units - b.units ≤ upper.units) :
    ∃ d, a.sub? b = some d := by
  apply Option.ne_none_iff_exists'.1
  rw [Ne, sub?_eq_none_iff]
  exact not_outOfRange_of_between above below

/-- A sum that some decimal is worth has a result, and is exact. -/
theorem exists_add?_of_worth (worth_sum : c.units = a.units + b.units) :
    ∃ d, a.add? b = some d ∧ d.units = a.units + b.units := by
  have some_sum : ∃ d, a.add? b = some d := by
    apply Option.ne_none_iff_exists'.1
    rw [Ne, add?_eq_none_iff, ← worth_sum]
    exact not_outOfRange_of_between (Int.le_refl _) (Int.le_refl _)
  obtain ⟨d, sum⟩ := some_sum
  exact ⟨d, sum, (add?_eq_exact_iff sum).2 ⟨c, worth_sum⟩⟩

/-- What lies on a grid is the worth of a decimal if it is no more steps than a
mantissa can count. -/
theorem exists_units_eq_of_onGrid {p : Nat} {n : Int} (on : OnGrid p n)
    (p_le : p ≤ 28) (small : n.natAbs < mantissaBound * tens (28 - p)) :
    ∃ d : Decimal, d.units = n := by
  obtain ⟨k, rfl⟩ := on
  have k_lt : k.natAbs < mantissaBound := by
    rw [Int.natAbs_mul, Int.natAbs_natCast, Nat.mul_comm] at small
    exact Nat.lt_of_mul_lt_mul_right small
  refine ⟨⟨decide (k < 0), k.natAbs, p, k_lt, p_le⟩, ?_⟩
  have coefficient_eq : (if decide (k < 0) = true then -(k.natAbs : Int)
      else (k.natAbs : Int)) = k := by
    simp only [decide_eq_true_eq]
    split <;> omega
  unfold units coefficient
  dsimp only
  rw [coefficient_eq, Int.mul_comm]

end

end Passbook.Decimal
