import Passbook.Decimal.Arithmetic

/-!
# A rounded sum stays between decimals

A sum that needs too many digits is rounded, and how far depends on how large it
is. What can be said of every sum, rounded or not, is that it does not jump over
a decimal: a decimal that is not above the exact sum is not above the rounded
one, and a decimal that is not below it stays not below.

This one fact is all that later modules know about rounding. It has three uses:
a sum that is itself a decimal is exact, adding something positive never makes
less, and a bound that is a decimal is respected by the rounded sum if it is
respected by the exact one.

The reason is that the rounded value lies on the grid of some scale. A decimal
on that grid cannot be jumped over, since rounding to a grid is monotone. A
decimal off the grid has more places, so it is smaller than any number that had
to give its places up.

## Main results

* `fit?_le`, `le_fit?` — fitting keeps the order to any decimal.
* `le_add?_of_le`, `add?_le_of_le` — so does adding.
* `add?_eq_exact_iff` — a sum is exact precisely if some decimal is worth the
  exact sum.
-/

namespace Passbook.Decimal

/-! ## Rounding to a grid is monotone -/

theorem halfEven_eq_or (n d : Nat) :
    halfEven n d = n / d ∨ halfEven n d = n / d + 1 := by
  unfold halfEven
  split
  · exact Or.inl rfl
  · exact Or.inr rfl

/-- A multiple of the divisor is a bound from above also after rounding. -/
theorem halfEven_le {n d k : Nat} (d_pos : 0 < d) (h : n ≤ k * d) :
    halfEven n d ≤ k := by
  have whole : n / d ≤ k := by
    have bound := Nat.div_le_div_right (c := d) h
    rwa [Nat.mul_div_cancel k d_pos] at bound
  rcases Nat.lt_or_ge (n / d) k with below | above
  · rcases halfEven_eq_or n d with eq | eq <;> omega
  · -- the quotient is the bound itself, so nothing is left over to round up
    have same : n / d = k := Nat.le_antisymm whole above
    have split_n := Nat.div_add_mod n d
    rw [same, Nat.mul_comm] at split_n
    have rest : n % d = 0 := by omega
    unfold halfEven
    rw [rest, if_pos (Or.inl (by omega))]
    exact whole

/-- A multiple of the divisor is a bound from below also after rounding. -/
theorem le_halfEven {n d k : Nat} (d_pos : 0 < d) (h : k * d ≤ n) :
    k ≤ halfEven n d := by
  have whole : k ≤ n / d := (Nat.le_div_iff_mul_le d_pos).2 h
  rcases halfEven_eq_or n d with eq | eq <;> omega

/-- What is more than a half above a multiple is rounded up from it. -/
theorem lt_halfEven {n d k : Nat} (d_pos : 0 < d)
    (h : (2 * k + 1) * d < 2 * n) :
    k < halfEven n d := by
  have split_n := Nat.div_add_mod n d
  have whole : k ≤ n / d := by
    apply (Nat.le_div_iff_mul_le d_pos).2
    have spread : (2 * k + 1) * d = 2 * (k * d) + d := by
      rw [Nat.add_mul, Nat.mul_assoc, Nat.one_mul]
    omega
  rcases Nat.lt_or_ge k (n / d) with above | below
  · rcases halfEven_eq_or n d with eq | eq <;> omega
  · have same : n / d = k := Nat.le_antisymm below whole
    rw [same] at split_n
    have spread : (2 * k + 1) * d = 2 * (d * k) + d := by
      rw [Nat.add_mul, Nat.mul_assoc, Nat.one_mul, Nat.mul_comm k d]
    unfold halfEven
    rw [if_neg (by omega), same]
    exact Nat.lt_succ_self k

/-- A number that is rounded beyond a bound is not more than a half below it. -/
theorem bound_le_of_le_halfEven {n d k : Nat} (d_pos : 0 < d)
    (h : k + 1 ≤ halfEven n d) :
    (2 * k + 1) * d ≤ 2 * n := by
  have split_n := Nat.div_add_mod n d
  have rest_lt := Nat.mod_lt n d_pos
  have spread : (2 * k + 1) * d = 2 * (d * k) + d := by
    rw [Nat.add_mul, Nat.mul_assoc, Nat.one_mul, Nat.mul_comm k d]
  have whole : k ≤ n / d := by
    rcases halfEven_eq_or n d with eq | eq <;> omega
  rcases Nat.lt_or_ge k (n / d) with above | below
  · have step : d * (k + 1) ≤ d * (n / d) := Nat.mul_le_mul_left d above
    rw [Nat.mul_add, Nat.mul_one] at step
    omega
  · have same : n / d = k := Nat.le_antisymm below whole
    rw [same] at split_n
    unfold halfEven at h
    split at h
    · omega
    · rename_i not_down
      rw [not_or] at not_down
      omega

/-! ## Where fitting ends -/

/--
Fitting ends at some scale, with the rounded mantissa. It is the scale it
started from, or at the next finer one the mantissa is too large.
-/
theorem fitBelow?_eq_some {negative : Bool} {m s t : Nat}
    {t_le : t ≤ 28} {d : Decimal} (h : fitBelow? negative m s t t_le = some d) :
    d.mantissa = halfEven m (tens (s - d.scale)) ∧ d.scale ≤ t ∧
      d.negative = (negative && d.mantissa != 0) ∧
      (d.scale = t ∨ mantissaBound ≤
        halfEven m (tens (s - (d.scale + 1)))) := by
  induction t with
  | zero =>
    unfold fitBelow? at h
    split at h
    · cases h
      exact ⟨rfl, Nat.le_refl 0, rfl, Or.inl rfl⟩
    · cases h
  | succ t ih =>
    unfold fitBelow? at h
    split at h
    · cases h
      exact ⟨rfl, Nat.le_refl _, rfl, Or.inl rfl⟩
    case isFalse too_large =>
      obtain ⟨mantissa_eq, scale_le, sign, finer⟩ := ih h
      refine ⟨mantissa_eq, Nat.le_succ_of_le scale_le, sign, Or.inr ?_⟩
      rcases finer with scale_eq | finer
      · rw [scale_eq]
        exact Nat.le_of_not_lt too_large
      · exact finer

theorem fit?_eq_some {negative : Bool} {m s : Nat} {d : Decimal}
    (h : fit? negative m s = some d) :
    d.mantissa = halfEven m (tens (s - d.scale)) ∧ d.scale ≤ s ∧
      d.negative = (negative && d.mantissa != 0) ∧
      (d.scale = min s 28 ∨ mantissaBound ≤
        halfEven m (tens (s - (d.scale + 1)))) := by
  obtain ⟨mantissa_eq, scale_le, sign, finer⟩ := fitBelow?_eq_some h
  exact ⟨mantissa_eq, by omega, sign, finer⟩

/-! ## Comparing digits at different scales -/

theorem tens_split {a b : Nat} (h : a ≤ b) :
    tens b = tens (b - a) * tens a := by
  rw [← tens_add, Nat.sub_add_cancel h]

/-- Comparing two numbers of digits is comparing their worth. -/
theorem digits_le_iff {x y sx sy : Nat} (hx : sx ≤ 28) (hy : sy ≤ 28) :
    x * tens (28 - sx) ≤ y * tens (28 - sy) ↔ x * tens sy ≤ y * tens sx := by
  have pos : 0 < tens sx * tens sy := Nat.mul_pos (tens_pos sx) (tens_pos sy)
  have left : x * tens (28 - sx) * (tens sx * tens sy) =
      x * tens sy * tens 28 := by
    rw [tens_split hx]
    ac_rfl
  have right : y * tens (28 - sy) * (tens sx * tens sy) =
      y * tens sx * tens 28 := by
    rw [tens_split hy]
    ac_rfl
  rw [← Nat.mul_le_mul_right_iff pos, left, right,
    Nat.mul_le_mul_right_iff (tens_pos 28)]

/--
Digits `c` at scale `sc` that are not above `m` at scale `s` are not above what
`m` is fitted to.
-/
theorem digits_le_fit? {negative : Bool} {m s c sc : Nat} {d : Decimal}
    (fitted : fit? negative m s = some d) (c_lt : c < mantissaBound)
    (sc_le : sc ≤ 28) (h : c * tens s ≤ m * tens sc) :
    c * tens d.scale ≤ d.mantissa * tens sc := by
  obtain ⟨mantissa_eq, scale_le, -, finer⟩ := fit?_eq_some fitted
  rw [mantissa_eq]
  generalize d.scale = t at scale_le finer ⊢
  rcases Nat.lt_or_ge t s with t_lt | t_ge
  · rcases Nat.lt_or_ge t sc with off_grid | on_grid
    · -- the bound has more places than the result, so the result is at least
      -- the least number that lost a place, and no mantissa is larger than that
      have finer : mantissaBound ≤ halfEven m (tens (s - (t + 1))) := by
        rcases finer with eq | finer
        · omega
        · exact finer
      have step_pos := tens_pos (s - (t + 1))
      have large := bound_le_of_le_halfEven (k := 79228162514264337593543950335)
        step_pos finer
      have grid : tens (s - t) = tens (s - (t + 1)) * 10 := by
        rw [show s - t = s - (t + 1) + 1 by omega, tens_succ]
      have result : 7922816251426433759354395033 <
          halfEven m (tens (s - t)) := by
        apply lt_halfEven (tens_pos _)
        rw [grid]
        omega
      have places : 10 * tens t ≤ tens sc := by
        rw [tens_split (Nat.le_of_lt off_grid)]
        exact Nat.mul_le_mul_right _ (ten_le_tens (by omega))
      have c_le : c ≤ halfEven m (tens (s - t)) * 10 := by
        unfold mantissaBound at c_lt
        omega
      calc c * tens t ≤ halfEven m (tens (s - t)) * 10 * tens t :=
        Nat.mul_le_mul_right _ c_le
        _ = halfEven m (tens (s - t)) * (10 * tens t) := Nat.mul_assoc _ _ _
        _ ≤ halfEven m (tens (s - t)) * tens sc := Nat.mul_le_mul_left _ places
    · have grid : c * tens (t - sc) ≤ halfEven m (tens (s - t)) := by
        apply le_halfEven (tens_pos _)
        rw [tens_split (Nat.le_of_lt t_lt), tens_split on_grid] at h
        apply Nat.le_of_mul_le_mul_right _ (tens_pos sc)
        calc c * tens (t - sc) * tens (s - t) * tens sc
            = c * (tens (s - t) * (tens (t - sc) * tens sc)) := by ac_rfl
          _ ≤ m * tens sc := h
      rw [tens_split on_grid, ← Nat.mul_assoc]
      exact Nat.mul_le_mul_right _ grid
  · have same : t = s := Nat.le_antisymm scale_le t_ge
    subst same
    rw [Nat.sub_self, tens_zero, halfEven_one]
    exact h

/--
Digits `c` at scale `sc` that are not below `m` at scale `s` are not below what
`m` is fitted to.
-/
theorem fit?_le_digits {negative : Bool} {m s c sc : Nat} {d : Decimal}
    (fitted : fit? negative m s = some d) (c_lt : c < mantissaBound)
    (sc_le : sc ≤ 28) (h : m * tens sc ≤ c * tens s) :
    d.mantissa * tens sc ≤ c * tens d.scale := by
  obtain ⟨mantissa_eq, scale_le, -, finer⟩ := fit?_eq_some fitted
  rw [mantissa_eq]
  generalize d.scale = t at scale_le finer ⊢
  rcases Nat.lt_or_ge t s with t_lt | t_ge
  · rcases Nat.lt_or_ge t sc with off_grid | on_grid
    · -- the bound shows that no place had to be given up
      have finer : mantissaBound ≤ halfEven m (tens (s - (t + 1))) := by
        rcases finer with eq | finer
        · omega
        · exact finer
      have m_le : m ≤ c * tens (s - (t + 1)) := by
        apply Nat.le_of_mul_le_mul_right _ (tens_pos (t + 1))
        calc m * tens (t + 1) ≤ m * (tens (sc - (t + 1)) * tens (t + 1)) :=
              Nat.mul_le_mul_left _ (Nat.le_mul_of_pos_left _ (tens_pos _))
          _ = m * tens sc := by rw [← tens_split off_grid]
          _ ≤ c * tens s := h
          _ = c * tens (s - (t + 1)) * tens (t + 1) := by
            rw [tens_split t_lt, Nat.mul_assoc]
      have small := halfEven_le (tens_pos _) m_le
      omega
    · have grid : halfEven m (tens (s - t)) ≤ c * tens (t - sc) := by
        apply halfEven_le (tens_pos _)
        rw [tens_split (Nat.le_of_lt t_lt), tens_split on_grid] at h
        apply Nat.le_of_mul_le_mul_right _ (tens_pos sc)
        calc m * tens sc ≤ c * (tens (s - t) * (tens (t - sc) * tens sc)) := h
          _ = c * tens (t - sc) * tens (s - t) * tens sc := by ac_rfl
      rw [tens_split on_grid, ← Nat.mul_assoc]
      exact Nat.mul_le_mul_right _ grid
  · have same : t = s := Nat.le_antisymm scale_le t_ge
    subst same
    rw [Nat.sub_self, tens_zero, halfEven_one]
    exact h

/-! ## Fitting keeps the order to any decimal -/

/-- The worth of digits with a sign, at a scale of at most 28. -/
def worth (negative : Bool) (mantissa scale : Nat) : Int :=
  (if negative then -(mantissa : Int) else mantissa) * tens (28 - scale)

@[simp] theorem worth_false (m s : Nat) :
    worth false m s = ((m * tens (28 - s) : Nat) : Int) := by
  rw [Int.natCast_mul]
  rfl

@[simp] theorem worth_true (m s : Nat) :
    worth true m s = -((m * tens (28 - s) : Nat) : Int) := by
  rw [Int.natCast_mul, ← Int.neg_mul]
  rfl

theorem units_eq_worth (d : Decimal) :
    d.units = worth d.negative d.mantissa d.scale := rfl

theorem units_of_fit? {negative : Bool} {m s : Nat} {d : Decimal}
    (fitted : fit? negative m s = some d) :
    d.units = worth negative d.mantissa d.scale := by
  obtain ⟨-, -, sign, -⟩ := fit?_eq_some fitted
  rw [units_eq_worth, sign]
  by_cases zero : d.mantissa = 0
  · rw [zero]
    cases negative <;> simp
  · have nonzero : (d.mantissa != 0) = true := bne_iff_ne.2 zero
    rw [nonzero, Bool.and_true]

/-- Fitting does not take a number of digits below a decimal that it was not
below. -/
theorem digits_le_of_fit? {negative : Bool} {m s : Nat} {c d : Decimal}
    (s_le : s ≤ 28) (fitted : fit? negative m s = some d)
    (h : c.mantissa * tens (28 - c.scale) ≤ m * tens (28 - s)) :
    c.mantissa * tens (28 - c.scale) ≤ d.mantissa * tens (28 - d.scale) := by
  rw [digits_le_iff c.scale_le s_le] at h
  rw [digits_le_iff c.scale_le d.scale_le]
  exact digits_le_fit? fitted c.mantissa_lt c.scale_le h

/-- Fitting does not take a number of digits above a decimal that it was not
above. -/
theorem fit?_digits_le {negative : Bool} {m s : Nat} {c d : Decimal}
    (s_le : s ≤ 28) (fitted : fit? negative m s = some d)
    (h : m * tens (28 - s) ≤ c.mantissa * tens (28 - c.scale)) :
    d.mantissa * tens (28 - d.scale) ≤ c.mantissa * tens (28 - c.scale) := by
  rw [digits_le_iff s_le c.scale_le] at h
  rw [digits_le_iff d.scale_le c.scale_le]
  exact fit?_le_digits fitted c.mantissa_lt c.scale_le h

theorem le_fit? {negative : Bool} {m s : Nat} {c d : Decimal} (s_le : s ≤ 28)
    (fitted : fit? negative m s = some d) (h : c.units ≤ worth negative m s) :
    c.units ≤ d.units := by
  rw [units_of_fit? fitted]
  rw [units_eq_worth] at h ⊢
  have up := digits_le_of_fit? (c := c) s_le fitted
  have down := fit?_digits_le (c := c) s_le fitted
  -- on the negative side, above the decimal means having fewer digits
  generalize c.negative = sign at h ⊢
  cases negative <;> cases sign <;>
    simp only [worth_true, worth_false] at h ⊢ <;> omega

theorem fit?_le {negative : Bool} {m s : Nat} {c d : Decimal} (s_le : s ≤ 28)
    (fitted : fit? negative m s = some d) (h : worth negative m s ≤ c.units) :
    d.units ≤ c.units := by
  rw [units_of_fit? fitted]
  rw [units_eq_worth] at h ⊢
  have up := digits_le_of_fit? (c := c) s_le fitted
  have down := fit?_digits_le (c := c) s_le fitted
  generalize c.negative = sign at h ⊢
  cases negative <;> cases sign <;>
    simp only [worth_true, worth_false] at h ⊢ <;> omega

/-! ## Sums -/

theorem coefficientAt_mul_tens (d : Decimal) {scale : Nat}
    (le : d.scale ≤ scale) (scale_le : scale ≤ 28) :
    d.coefficientAt scale * tens (28 - scale) = d.units := by
  unfold coefficientAt units
  rw [Int.mul_assoc, ← Int.natCast_mul, ← tens_add,
    show scale - d.scale + (28 - scale) = 28 - d.scale by omega]

theorem worth_of_int (n : Int) (scale : Nat) :
    worth (n < 0) n.natAbs scale = n * tens (28 - scale) := by
  unfold worth
  by_cases negative : n < 0
  · rw [decide_eq_true negative, if_pos rfl,
      show -(n.natAbs : Int) = n by omega]
  · rw [decide_eq_false negative, if_neg (by decide),
      show (n.natAbs : Int) = n by omega]

/-- A sum is the exact one at the larger scale, fitted, unless an operand is
zero. -/
theorem add?_eq_fit? {a b : Decimal} (ha : a.mantissa ≠ 0)
    (hb : b.mantissa ≠ 0) :
    ∃ negative m s, s ≤ 28 ∧ a.add? b = fit? negative m s ∧
      worth negative m s = a.units + b.units := by
  have a_scale := a.scale_le
  have b_scale := b.scale_le
  have sum_eq : a.add? b =
      fit? (a.coefficientAt (max a.scale b.scale) +
        b.coefficientAt (max a.scale b.scale) < 0)
        (a.coefficientAt (max a.scale b.scale) +
          b.coefficientAt (max a.scale b.scale)).natAbs
        (max a.scale b.scale) := by
    unfold add?
    rw [if_neg ha, if_neg hb]
  refine ⟨_, _, _, ?_, sum_eq, ?_⟩
  · omega
  · rw [worth_of_int, Int.add_mul,
      coefficientAt_mul_tens a (by omega) (by omega),
      coefficientAt_mul_tens b (by omega) (by omega)]

/-- A sum of which one operand is zero is exact. -/
theorem units_add?_of_zero {a b d : Decimal}
    (h : a.mantissa = 0 ∨ b.mantissa = 0)
    (sum : a.add? b = some d) : d.units = a.units + b.units := by
  by_cases ha : a.mantissa = 0
  · rw [add?_zero_left ha] at sum
    cases sum
    rw [(units_eq_zero_iff a).2 ha, Int.zero_add]
  · have hb : b.mantissa = 0 := h.resolve_left ha
    rw [add?_zero_right ha hb] at sum
    cases sum
    rw [(units_eq_zero_iff b).2 hb, Int.add_zero]

/-- A decimal that is not above the exact sum is not above the rounded one. -/
theorem le_add?_of_le {a b c d : Decimal} (sum : a.add? b = some d)
    (h : c.units ≤ a.units + b.units) : c.units ≤ d.units := by
  by_cases zero : a.mantissa = 0 ∨ b.mantissa = 0
  · rwa [units_add?_of_zero zero sum]
  · rw [not_or] at zero
    obtain ⟨negative, m, s, s_le, fitted, exact_sum⟩ :=
      add?_eq_fit? zero.1 zero.2
    rw [fitted] at sum
    rw [← exact_sum] at h
    exact le_fit? s_le sum h

/-- A decimal that is not below the exact sum is not below the rounded one. -/
theorem add?_le_of_le {a b c d : Decimal} (sum : a.add? b = some d)
    (h : a.units + b.units ≤ c.units) : d.units ≤ c.units := by
  by_cases zero : a.mantissa = 0 ∨ b.mantissa = 0
  · rwa [units_add?_of_zero zero sum]
  · rw [not_or] at zero
    obtain ⟨negative, m, s, s_le, fitted, exact_sum⟩ :=
      add?_eq_fit? zero.1 zero.2
    rw [fitted] at sum
    rw [← exact_sum] at h
    exact fit?_le s_le sum h

/-- A sum is exact precisely if some decimal is worth the exact sum. -/
theorem add?_eq_exact_iff {a b d : Decimal} (sum : a.add? b = some d) :
    d.units = a.units + b.units ↔ ∃ c :
        Decimal, c.units = a.units + b.units := by
  constructor
  · intro exact_sum
    exact ⟨d, exact_sum⟩
  · rintro ⟨c, worth_c⟩
    have above := le_add?_of_le sum (Int.le_of_eq worth_c)
    have below := add?_le_of_le sum (Int.le_of_eq worth_c.symm)
    omega

/-- A difference is the sum with the opposite, up to the sign of zero. -/
theorem sub?_eq_add?_neg {a b : Decimal} (hb : b.mantissa ≠ 0) :
    a.sub? b = a.add? (-b) := by
  unfold sub?
  rw [if_neg hb]

/-- A difference is worth what the sum with the opposite is. -/
theorem sum_of_difference {a b d : Decimal} (difference : a.sub? b = some d) :
    ∃ sum, a.add? (-b) = some sum ∧ sum.units = d.units := by
  by_cases hb : b.mantissa = 0
  · have hb' : (-b).mantissa = 0 := hb
    unfold sub? at difference
    rw [if_pos hb] at difference
    have d_eq := Option.some.inj difference
    by_cases ha : a.mantissa = 0
    · rw [if_pos ha] at d_eq
      refine ⟨-b, add?_zero_left ha _, ?_⟩
      rw [← d_eq, (units_eq_zero_iff b).2 hb, (units_eq_zero_iff (-b)).2 hb']
    · rw [if_neg ha] at d_eq
      exact ⟨a, add?_zero_right ha hb', by rw [d_eq]⟩
  · rw [sub?_eq_add?_neg hb] at difference
    exact ⟨d, difference, rfl⟩

/-- A decimal that is not above the exact difference is not above the rounded
one. -/
theorem le_sub?_of_le {a b c d : Decimal} (difference : a.sub? b = some d)
    (h : c.units ≤ a.units - b.units) : c.units ≤ d.units := by
  obtain ⟨sum, fitted, same⟩ := sum_of_difference difference
  rw [← same]
  apply le_add?_of_le fitted
  rw [units_neg]
  omega

/-- A decimal that is not below the exact difference is not below the rounded
one. -/
theorem sub?_le_of_le {a b c d : Decimal} (difference : a.sub? b = some d)
    (h : a.units - b.units ≤ c.units) : d.units ≤ c.units := by
  obtain ⟨sum, fitted, same⟩ := sum_of_difference difference
  rw [← same]
  apply add?_le_of_le fitted
  rw [units_neg]
  omega

/-- A difference is exact precisely if some decimal is worth the exact
difference. -/
theorem sub?_eq_exact_iff {a b d : Decimal} (difference : a.sub? b = some d) :
    d.units = a.units - b.units ↔ ∃ c :
        Decimal, c.units = a.units - b.units := by
  constructor
  · intro exact_difference
    exact ⟨d, exact_difference⟩
  · rintro ⟨c, worth_c⟩
    have above := le_sub?_of_le difference (Int.le_of_eq worth_c)
    have below := sub?_le_of_le difference (Int.le_of_eq worth_c.symm)
    omega

/-! ## Decimals at which sums get rounded -/

/-- The largest decimal, all 96 bits of it. -/
def largest : Decimal :=
    ⟨false, 79228162514264337593543950335, 0, by decide, no_places_le⟩

/-- A number of tenths. -/
def tenths (n : Nat) (n_lt : n < mantissaBound) : Decimal :=
    ⟨false, n, 1, n_lt, by decide⟩

end Passbook.Decimal
