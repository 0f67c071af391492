import Mathlib
import Passbook.Proofs.Decimal.Range
import Passbook.Proofs.Decimal.Reading
import Passbook.Proofs.Solvency

/-!
# Rounding once and rounding twice

A number rounded to the nearest step is at most half a step away, and if it is
just half a step away it was rounded to an even number of steps. `IsRounded`
says so of a decimal and an exact number.

A product is rounded when it is formed, as far as it needs too many digits, and
it may be rounded again to places of money. The two roundings come to one unless
the first goes astray: it leaves the exact product by more than half a step, or
it hits the middle between two steps and the second moves on in the direction of
the first.

## Main results

* `halfEven_nearest` — what is divided half-even is nearest.
* `isRounded_product_iff` — when a product that is rounded to places is rounded
  right.
* `exists_mul?_of_le_one` — a product with a factor of at most one has a result.
-/

namespace Passbook.Decimal

/-! ## One rounding -/

section

variable {n d : Nat}

theorem tens_cast_pos (n : Nat) : (0 : Rat) < tens n := by
  exact_mod_cast tens_pos n

/-- A quotient is a whole part and a proper fraction. -/
theorem quotient_eq (n : Nat) (d_pos : 0 < d) :
    (n : Rat) / d = (n / d : Nat) + ((n % d : Nat) : Rat) / d := by
  have d_ne : (d : Rat) ≠ 0 := by exact_mod_cast Nat.ne_of_gt d_pos
  have parts : (n : Rat) = d * (n / d : Nat) + (n % d : Nat) := by
    exact_mod_cast (Nat.div_add_mod n d).symm
  field_simp
  exact parts

/-- Half-even division is at most half a step off, and even if it is just
that. -/
theorem halfEven_nearest (n : Nat) (d_pos : 0 < d) :
    |(n : Rat) / d - halfEven n d| ≤ 1 / 2 ∧
      (|(n : Rat) / d - halfEven n d| = 1 / 2 → Even (halfEven n d : Int)) := by
  have d_cast : (0 : Rat) < d := by exact_mod_cast d_pos
  have rest_lt : ((n % d : Nat) : Rat) < d := by
    exact_mod_cast Nat.mod_lt n d_pos
  have rest_nonneg : (0 : Rat) ≤ (n % d : Nat) := Nat.cast_nonneg _
  rw [quotient_eq n d_pos]
  unfold halfEven
  split
  case isTrue down =>
    have le_half : 2 * ((n % d : Nat) : Rat) ≤ d := by
      exact_mod_cast (show 2 * (n % d) ≤ d by omega)
    rw [add_sub_cancel_left, abs_of_nonneg (by positivity)]
    refine ⟨by rw [div_le_iff₀ d_cast]; linarith, fun half => ?_⟩
    rw [div_eq_iff d_cast.ne'] at half
    have tie : 2 * (n % d) = d := by
      have tie : 2 * ((n % d : Nat) : Rat) = d := by linarith
      exact_mod_cast tie
    exact_mod_cast Nat.even_iff.2 (by omega)
  case isFalse up =>
    have half_le : (d : Rat) ≤ 2 * (n % d : Nat) := by
      exact_mod_cast (show d ≤ 2 * (n % d) by omega)
    have off : ((n / d : Nat) : Rat) + ((n % d : Nat) : Rat) / d -
        ((n / d + 1 : Nat) : Rat) = -(1 - ((n % d : Nat) : Rat) / d) := by
      push_cast
      ring
    have rest_le : ((n % d : Nat) : Rat) / d ≤ 1 := by
      rw [div_le_one d_cast]
      exact rest_lt.le
    rw [off, abs_neg, abs_of_nonneg (by linarith)]
    have half_le : 1 / 2 ≤ ((n % d : Nat) : Rat) / d := by
      rw [le_div_iff₀ d_cast]
      linarith
    refine ⟨by linarith, fun half => ?_⟩
    have half : ((n % d : Nat) : Rat) / d = 1 / 2 := by linarith
    rw [div_eq_iff d_cast.ne'] at half
    have tie : 2 * (n % d) = d := by
      have tie : 2 * ((n % d : Nat) : Rat) = d := by linarith
      exact_mod_cast tie
    exact_mod_cast Nat.even_iff.2 (by omega)

end

/-- Whether a decimal is `x` rounded to `p` places: a whole number of steps of
`10 ^ (-p)`, at most half a step away, and an even one if just half a step. -/
def IsRounded (p : Nat) (x : Rat) (d : Decimal) : Prop :=
  ∃ k : Int, d.value * tens p = k ∧ |x * tens p - k| ≤ 1 / 2 ∧
    (|x * tens p - k| = 1 / 2 → Even k)

/-! ## Two roundings -/

/-- Whether a number that is rounded first to one decimal and from there to
another, with `p` places, has gone astray: the first rounding moves by more than
half a step, or it moves to the middle between two steps and the second moves on
in the same direction. -/
def RoundedAstray (p : Nat) (x : Rat) (first second : Decimal) : Prop :=
  1 / 2 < |first.value - x| * tens p ∨
    |second.value - first.value| * tens p = 1 / 2 ∧
      (x < first.value ∧ first.value < second.value ∨
        second.value < first.value ∧ first.value < x)

/-- What is rounded finely and lies at a whole number of steps is rounded right
unless it was moved by more than half a step. -/
theorem coarse_rounding_iff {x q : Rat} {k : Int} (whole : q = k)
    (tie : |x - k| = 1 / 2 → Even k) :
    (|x - k| ≤ 1 / 2 ∧ (|x - k| = 1 / 2 → Even k)) ↔ ¬ 1 / 2 < |q - x| := by
  rw [not_lt, abs_sub_comm q, whole]
  exact and_iff_left tie

/-- What lies on a grid that divides half a step, and not on the middle of a
step, keeps a distance from the middle. -/
theorem lt_half_of_grid {x q c : Rat} {m k h : Int} (h_pos : 0 < h)
    (even : c = 2 * h) (grid : q * c = m) (near : |x - q| * c ≤ 1 / 2)
    (inside : |q - k| < 1 / 2) : |x - k| < 1 / 2 := by
  have h_one : (1 : Rat) ≤ h := by exact_mod_cast h_pos
  have c_pos : 0 < c := by linarith
  have steps : |q - k| * c = (|m - 2 * h * k| : Int) := by
    have exact_steps : (q - k) * c = (m - 2 * h * k : Int) := by
      rw [sub_mul, grid, even]
      push_cast
      ring
    rw [Int.cast_abs, ← exact_steps, abs_mul, abs_of_pos c_pos]
  have apart : |q - k| * c ≤ h - 1 := by
    have less : |q - k| * c < h := by nlinarith
    rw [steps] at less ⊢
    have less : |m - 2 * h * k| < h := by exact_mod_cast less
    exact_mod_cast Int.le_sub_one_of_lt less
  have triangle := abs_sub_le x q k
  apply lt_of_mul_lt_mul_right _ c_pos.le
  nlinarith

/-- What is rounded first to the middle of a step and then to an end of it is
rounded right unless it goes on as it came. -/
theorem middle_rounding_iff {x q k : Rat} (close : |x - q| ≤ 1 / 4)
    (middle : |q - k| = 1 / 2) :
    |x - k| ≤ 1 / 2 ↔ ¬ (x < q ∧ q < k ∨ k < q ∧ q < x) := by
  rw [abs_le] at close
  rcases (abs_eq (by norm_num)).1 middle with up | down
  · constructor
    · intro right
      rw [abs_le] at right
      rintro (⟨-, lt⟩ | ⟨-, lt⟩) <;> linarith
    · intro kept
      rw [abs_le]
      refine ⟨by linarith, ?_⟩
      by_contra! more
      exact kept (Or.inr ⟨by linarith, by linarith⟩)
  · constructor
    · intro right
      rw [abs_le] at right
      rintro (⟨lt, -⟩ | ⟨lt, -⟩) <;> linarith
    · intro kept
      rw [abs_le]
      refine ⟨?_, by linarith⟩
      by_contra! more
      exact kept (Or.inl ⟨by linarith, by linarith⟩)

/-- Between a fine grid and the whole steps, the only way astray is through the
middle of a step. -/
theorem fine_rounding_iff {x q c : Rat} {m k h : Int} (h_pos : 0 < h)
    (even : c = 2 * h) (grid : q * c = m) (near : |x * c - m| ≤ 1 / 2)
    (next : |q - k| ≤ 1 / 2) (tie : |q - k| = 1 / 2 → Even k) :
    (|x - k| ≤ 1 / 2 ∧ (|x - k| = 1 / 2 → Even k)) ↔
      ¬ (|k - q| = 1 / 2 ∧ (x < q ∧ q < k ∨ k < q ∧ q < x)) := by
  have h_one : (1 : Rat) ≤ h := by exact_mod_cast h_pos
  have c_pos : 0 < c := by linarith
  rw [← grid, ← sub_mul, abs_mul, abs_of_pos c_pos] at near
  rw [abs_sub_comm (k : Rat)]
  rcases lt_or_eq_of_le next with inside | middle
  · have less := lt_half_of_grid h_pos even grid near inside
    exact iff_of_true ⟨less.le, fun half => absurd half less.ne⟩
      fun astray => absurd astray.1 inside.ne
  · have close : |x - q| ≤ 1 / 4 := by
      nlinarith [abs_nonneg (x - q)]
    have even_k := tie middle
    rw [and_iff_left fun _ => even_k, and_iff_right middle]
    exact middle_rounding_iff close middle

/-! ## A fitted value, rounded to places -/

section

variable {d : Decimal}

/-- A number without a sign is worth its digits. -/
theorem value_of_negative_eq_false (sign : d.negative = false) :
    d.value = d.mantissa / tens d.scale := by
  unfold value coefficient
  rw [sign, if_neg (by decide), Rat.mkRat_eq_div]
  push_cast
  rfl

theorem value_mul_tens (sign : d.negative = false) :
    d.value * tens d.scale = d.mantissa := by
  rw [value_of_negative_eq_false sign, div_mul_cancel₀ _
    (tens_cast_pos _).ne']

theorem tens_split_cast {a b : Nat} (le : a ≤ b) :
    (tens b : Rat) = tens (b - a) * tens a := by
  exact_mod_cast tens_split le

/-- What is fitted is rounded right to the places that it keeps. -/
theorem fit?_nearest {m s : Nat} (fitted : fit? false m s = some d) :
    |(m : Rat) / tens s * tens d.scale - d.mantissa| ≤ 1 / 2 ∧
      (|(m : Rat) / tens s * tens d.scale - d.mantissa| = 1 / 2 →
        Even (d.mantissa : Int)) := by
  obtain ⟨mantissa_eq, scale_le, -, -⟩ := fit?_eq_some fitted
  have quotient : (m : Rat) / tens s * tens d.scale =
      m / (tens (s - d.scale) : Nat) := by
    rw [tens_split_cast scale_le]
    have left := (tens_cast_pos (s - d.scale)).ne'
    have right := (tens_cast_pos d.scale).ne'
    field_simp
  rw [quotient, mantissa_eq]
  exact halfEven_nearest m (tens_pos _)

theorem negative_of_fit? {m s : Nat} (fitted : fit? false m s = some d) :
    d.negative = false := by
  obtain ⟨-, -, sign, -⟩ := fit?_eq_some fitted
  rw [sign, Bool.false_and]

/-- A number of steps is rounded right if it is nearest, and even at a half. -/
theorem isRounded_iff {p : Nat} {x : Rat} {k : Int}
    (steps : d.value * tens p = k) :
    IsRounded p x d ↔ |x * tens p - k| ≤ 1 / 2 ∧
      (|x * tens p - k| = 1 / 2 → Even k) := by
  constructor
  · rintro ⟨k', steps', nearest⟩
    rw [steps] at steps'
    rwa [Int.cast_inj.1 steps']
  · exact fun nearest => ⟨k, steps, nearest⟩

/-- Going astray is counted in steps. -/
theorem roundedAstray_iff {p : Nat} {x : Rat} {first second : Decimal} :
    RoundedAstray p x first second ↔
      1 / 2 < |first.value * tens p - x * tens p| ∨
        |second.value * tens p - first.value * tens p| = 1 / 2 ∧
          (x * tens p < first.value * tens p ∧
              first.value * tens p < second.value * tens p ∨
            second.value * tens p < first.value * tens p ∧
              first.value * tens p < x * tens p) := by
  have pos := tens_cast_pos p
  unfold RoundedAstray
  simp only [← sub_mul, abs_mul, abs_of_pos pos, mul_lt_mul_iff_left₀ pos]

/-- Ten to a positive power is twice something positive. -/
theorem exists_tens_eq_two_mul {n : Nat} (pos : 0 < n) :
    ∃ h, 0 < h ∧ tens n = 2 * h := by
  refine ⟨5 * tens (n - 1), Nat.mul_pos (by decide) (tens_pos _), ?_⟩
  rw [show n = n - 1 + 1 by omega, tens_succ, Nat.add_sub_cancel]
  omega

/-- What is rounded to places is counted by the half-even quotient. -/
theorem value_roundTo_mul_tens {p : Nat} (sign : d.negative = false)
    (fine : p < d.scale) :
    (d.roundTo p).value * tens p =
      halfEven d.mantissa (tens (d.scale - p)) := by
  have kept : d.roundTo p = signed d.negative
      (halfEven d.mantissa (tens (d.scale - p))) p _ _ :=
    dif_neg (Nat.not_le.2 fine)
  have sign : (d.roundTo p).negative = false := by
    rw [kept, signed, sign, Bool.false_and]
  have scaled := value_mul_tens sign
  rwa [kept] at scaled ⊢

/-- A value that is fitted to fewer places than are asked for is rounded right
unless fitting moves it too far. -/
theorem isRounded_roundTo_of_coarse {m s p : Nat}
    (fitted : fit? false m s = some d) (coarse : d.scale ≤ p) :
    IsRounded p (m / tens s) (d.roundTo p) ↔
      ¬ RoundedAstray p (m / tens s) d (d.roundTo p) := by
  obtain ⟨-, tie⟩ := fit?_nearest fitted
  rw [roundTo_of_scale_le coarse]
  have steps : d.value * tens p =
      (d.mantissa * tens (p - d.scale) : Nat) := by
    rw [tens_split_cast coarse, mul_comm (tens (p - d.scale) : Rat),
      ← mul_assoc, value_mul_tens (negative_of_fit? fitted)]
    push_cast
    rfl
  have stays : ¬ (|d.value * tens p - d.value * tens p| = 1 / 2 ∧
      (m / tens s * tens p < d.value * tens p ∧
          d.value * tens p < d.value * tens p ∨
        d.value * tens p < d.value * tens p ∧
          d.value * tens p < m / tens s * tens p)) := by
    rintro ⟨-, ⟨-, lt⟩ | ⟨lt, -⟩⟩ <;> exact lt_irrefl _ lt
  rw [isRounded_iff (by exact_mod_cast steps), roundedAstray_iff,
    or_iff_left stays]
  apply coarse_rounding_iff (by exact_mod_cast steps)
  intro half
  rcases Nat.lt_or_eq_of_le coarse with coarser | same
  · obtain ⟨h, -, even⟩ :=
      exists_tens_eq_two_mul (show 0 < p - d.scale by omega)
    rw [even]
    exact ⟨d.mantissa * h, by push_cast; ring⟩
  · rw [← same, Nat.sub_self, tens_zero, Nat.mul_one] at half ⊢
    exact tie half

/-- A value that is fitted to more places than are asked for is rounded right
unless the middle of a step leads it astray. -/
theorem isRounded_roundTo_of_fine {m s p : Nat}
    (fitted : fit? false m s = some d) (fine : p < d.scale) :
    IsRounded p (m / tens s) (d.roundTo p) ↔
      ¬ RoundedAstray p (m / tens s) d (d.roundTo p) := by
  obtain ⟨near, -⟩ := fit?_nearest fitted
  have sign := negative_of_fit? fitted
  obtain ⟨h, h_pos, even⟩ :=
    exists_tens_eq_two_mul (show 0 < d.scale - p by omega)
  have c_pos := tens_cast_pos (d.scale - p)
  have steps := value_roundTo_mul_tens sign fine
  have grid : d.value * tens p * tens (d.scale - p) = d.mantissa := by
    rw [mul_assoc, mul_comm (tens p : Rat), ← tens_split_cast fine.le,
      value_mul_tens sign]
  have scaled : (m : Rat) / tens s * tens p * tens (d.scale - p) =
      m / tens s * tens d.scale := by
    rw [mul_assoc, mul_comm (tens p : Rat), ← tens_split_cast fine.le]
  rw [← scaled] at near
  obtain ⟨next, next_tie⟩ :=
    halfEven_nearest d.mantissa (tens_pos (d.scale - p))
  rw [← grid, mul_div_cancel_right₀ _ c_pos.ne'] at next next_tie
  rw [isRounded_iff (by exact_mod_cast steps), roundedAstray_iff, steps]
  have no_jump : ¬ 1 / 2 < |d.value * tens p - m / tens s * tens p| := by
    have one_le : (1 : Rat) ≤ tens (d.scale - p) := by
      exact_mod_cast tens_pos (d.scale - p)
    rw [← grid, ← sub_mul, abs_mul, abs_of_pos c_pos] at near
    rw [not_lt, abs_sub_comm]
    nlinarith [abs_nonneg ((m : Rat) / tens s * tens p - d.value * tens p)]
  rw [or_iff_right no_jump]
  have even : (tens (d.scale - p) : Rat) = 2 * (h : Int) := by
    exact_mod_cast even
  exact fine_rounding_iff (by exact_mod_cast h_pos) even
    (by exact_mod_cast grid) (by exact_mod_cast near)
    (by exact_mod_cast next) (by exact_mod_cast next_tie)

/-- A value that is fitted and then rounded to places is rounded right exactly
if it does not go astray. -/
theorem isRounded_roundTo_iff {m s p : Nat} (fitted : fit? false m s = some d) :
    IsRounded p (m / tens s) (d.roundTo p) ↔
      ¬ RoundedAstray p (m / tens s) d (d.roundTo p) := by
  rcases Nat.lt_or_ge p d.scale with fine | coarse
  · exact isRounded_roundTo_of_fine fitted fine
  · exact isRounded_roundTo_of_coarse fitted coarse

end

/-! ## Products -/

section

variable {a b product : Decimal}

theorem value_eq_zero (none : a.mantissa = 0) : a.value = 0 := by
  have units_zero := (units_eq_zero_iff a).2 none
  rw [value_eq_units, units_zero, Rat.zero_mkRat]

/-- Factors that are not negative and not zero are multiplied by their digits,
and the exact product is fitted. -/
theorem mul?_eq_fit? (a_nonneg : zero ≤ a) (b_nonneg : zero ≤ b)
    (a_ne : a.mantissa ≠ 0) (b_ne : b.mantissa ≠ 0) :
    a.mul? b = fit? false (a.mantissa * b.mantissa) (a.scale + b.scale) ∧
      a.value * b.value =
        (a.mantissa * b.mantissa : Nat) / (tens (a.scale + b.scale) : Nat) := by
  have a_sign := negative_eq_false a_nonneg a_ne
  have b_sign := negative_eq_false b_nonneg b_ne
  constructor
  · rw [mul?, if_neg (not_or.2 ⟨a_ne, b_ne⟩), a_sign, b_sign]
    rfl
  · rw [value_of_negative_eq_false a_sign, value_of_negative_eq_false b_sign,
      tens_add, div_mul_div_comm]
    push_cast
    rfl

/-- A product with a factor between zero and one has a result: it is no larger
than the other factor. -/
theorem exists_mul?_of_le_one (a_nonneg : zero ≤ a) (b_nonneg : zero ≤ b)
    (b_le : b ≤ one) : ∃ product, a.mul? b = some product := by
  by_cases none : a.mantissa = 0 ∨ b.mantissa = 0
  · exact ⟨zero, if_pos none⟩
  · obtain ⟨a_ne, b_ne⟩ := not_or.1 none
    rw [(mul?_eq_fit? a_nonneg b_nonneg a_ne b_ne).1]
    apply exists_fit?_of_le a.mantissa_lt
    have b_digits : b.mantissa ≤ tens b.scale := by
      have le : b.mantissa * tens (28 - b.scale) ≤ tens 28 := by
        rw [← natAbs_units]
        rw [zero_le_iff] at b_nonneg
        rw [le_iff, units_one] at b_le
        omega
      rw [tens_split b.scale_le, Nat.mul_comm (tens _)] at le
      exact Nat.le_of_mul_le_mul_right le (tens_pos _)
    calc a.mantissa * b.mantissa
        ≤ a.mantissa * tens b.scale := Nat.mul_le_mul_left _ b_digits
      _ ≤ a.mantissa * tens (a.scale + b.scale) := by
        rw [tens_add]
        exact Nat.mul_le_mul_left _
          (Nat.le_mul_of_pos_left _ (tens_pos a.scale))

/-- A product, rounded to places, is the exact product rounded to them exactly
if it does not go astray. -/
theorem isRounded_product_iff {p : Nat} (a_nonneg : zero ≤ a)
    (b_nonneg : zero ≤ b) (multiplied : a.mul? b = some product) :
    IsRounded p (a.value * b.value) (product.roundTo p) ↔
      ¬ RoundedAstray p (a.value * b.value) product (product.roundTo p) := by
  by_cases none : a.mantissa = 0 ∨ b.mantissa = 0
  · rw [mul?, if_pos none] at multiplied
    cases multiplied
    have nothing : a.value * b.value = 0 := by
      rcases none with a_zero | b_zero
      · rw [value_eq_zero a_zero, zero_mul]
      · rw [value_eq_zero b_zero, mul_zero]
    have zero_value : zero.value = 0 := value_eq_zero rfl
    rw [nothing, roundTo_of_scale_le (Nat.zero_le p)]
    refine iff_of_true ⟨0, by simp [zero_value], by simp, by simp⟩ ?_
    rw [roundedAstray_iff, zero_value]
    simp
  · obtain ⟨a_ne, b_ne⟩ := not_or.1 none
    obtain ⟨fitted, exact_product⟩ :=
      mul?_eq_fit? a_nonneg b_nonneg a_ne b_ne
    rw [fitted] at multiplied
    rw [exact_product]
    exact isRounded_roundTo_iff multiplied

end

end Passbook.Decimal
