import Passbook.Proofs.Decimal.Bracket

/-!
# Worth decides

A decimal may have zeros behind its places, and arithmetic treats them as
digits: a sum has the larger scale of its operands, and what is fitted is a
number with its zeros. Still the worth of a result depends on nothing but what
the operands are worth. Zeros are the first to go, so more of them never push
out a digit.

`Congruence` is what is used of this. It holds of equal worth, and of equality.

## Main results

* `fit?_sameWorth` — fitting depends on worth alone.
* `congruence_eq`, `congruence_sameWorth` — equality and equal worth are kept by
  all that is done to balances.
-/

namespace Passbook.Decimal

/-- Whether two decimals are worth the same. -/
def SameWorth (a b : Decimal) : Prop := a.units = b.units

theorem sameWorth_refl (a : Decimal) : SameWorth a a := rfl

theorem SameWorth.symm {a b : Decimal} (same : SameWorth a b) :
    SameWorth b a := Eq.symm same

theorem rel_refl {R : Decimal → Decimal → Prop} (refl : ∀ a, R a a) :
    ∀ o : Option Decimal, Option.Rel R o o
  | none => .none
  | some a => .some (refl a)

/-! ## More zeros -/

/-- A quotient is rounded alike whatever factor both numbers have. -/
theorem halfEven_mul_mul (n d : Nat) {c : Nat} (c_pos : 0 < c) :
    halfEven (n * c) (d * c) = halfEven n d := by
  unfold halfEven
  rw [Nat.mul_mod_mul_right, Nat.mul_div_mul_right _ _ c_pos,
    ← Nat.mul_assoc 2]
  have less : 2 * (n % d) * c < d * c ↔ 2 * (n % d) < d :=
    Nat.mul_lt_mul_right c_pos
  have same : 2 * (n % d) * c = d * c ↔ 2 * (n % d) = d :=
    Nat.mul_right_cancel_iff c_pos
  simp only [less, same]

section

variable {negative negative' : Bool} {m m' s s' : Nat}

/-- Zeros behind the places are worth nothing. -/
theorem worth_zeros (negative : Bool) (m : Nat) {s k : Nat}
    (le : s + k ≤ 28) :
    worth negative (m * tens k) (s + k) = worth negative m s := by
  have digits : m * tens k * tens (28 - (s + k)) = m * tens (28 - s) := by
    rw [Nat.mul_assoc, ← tens_add,
      show k + (28 - (s + k)) = 28 - s by omega]
  cases negative
  · rw [worth_false, worth_false, digits]
  · rw [worth_true, worth_true, digits]

/-- Up to the scale without the zeros, more zeros make no difference. -/
theorem fitBelow?_scaled (negative : Bool) (m k : Nat) {s t : Nat}
    (t_le_s : t ≤ s) (t_le : t ≤ 28) :
    fitBelow? negative (m * tens k) (s + k) t t_le =
      fitBelow? negative m s t t_le := by
  have rounded : ∀ u ≤ s, halfEven (m * tens k) (tens (s + k - u)) =
      halfEven m (tens (s - u)) := by
    intro u u_le
    rw [show s + k - u = s - u + k by omega, tens_add,
      halfEven_mul_mul m _ (tens_pos k)]
  induction t with
  | zero =>
    have eq := rounded 0 (Nat.zero_le s)
    rw [Nat.sub_zero, Nat.sub_zero] at eq
    unfold fitBelow?
    simp only [eq]
  | succ t ih =>
    have eq := rounded (t + 1) t_le_s
    unfold fitBelow?
    simp only [eq, ih (Nat.le_of_succ_le t_le_s)]

/-- Above that scale what fits is exact. -/
theorem fitBelow?_zeros (negative : Bool) (m k : Nat) {s t : Nat}
    (s_le : s ≤ 28) (s_le_t : s ≤ t) (t_le_sum : t ≤ s + k) (t_le : t ≤ 28) :
    Option.Rel SameWorth (fitBelow? negative (m * tens k) (s + k) t t_le)
      (fitBelow? negative m s s s_le) := by
  induction t with
  | zero =>
    obtain rfl : s = 0 := Nat.le_zero.1 s_le_t
    rw [fitBelow?_scaled negative m k (Nat.le_refl 0)]
    exact rel_refl sameWorth_refl _
  | succ t ih =>
    rcases Nat.le_succ_iff.1 s_le_t with lower | rfl
    · have zeros : halfEven (m * tens k) (tens (s + k - (t + 1))) =
          m * tens (t + 1 - s) := by
        rw [show k = t + 1 - s + (s + k - (t + 1)) by omega, tens_add,
          ← Nat.mul_assoc, show s + (t + 1 - s + (s + k - (t + 1))) - (t + 1) =
            s + k - (t + 1) by omega, halfEven_mul _ (tens_pos _)]
      by_cases fits : m * tens (t + 1 - s) < mantissaBound
      · have m_le : m ≤ m * tens (t + 1 - s) :=
          Nat.le_mul_of_pos_right m (tens_pos _)
        have m_fits : halfEven m (tens (s - s)) < mantissaBound := by
          rw [Nat.sub_self, tens_zero, halfEven_one]
          omega
        rw [fitBelow?_eq_some_of_lt negative t_le (zeros ▸ fits),
          fitBelow?_eq_some_of_lt negative s_le m_fits]
        apply Option.Rel.some
        unfold SameWorth
        rw [units_signed, units_signed, zeros, Nat.sub_self, tens_zero,
          halfEven_one]
        have exact_zeros := worth_zeros negative m
          (show s + (t + 1 - s) ≤ 28 by omega)
        rwa [show s + (t + 1 - s) = t + 1 by omega] at exact_zeros
      · have shorter : fitBelow? negative (m * tens k) (s + k) (t + 1) t_le =
            fitBelow? negative (m * tens k) (s + k) t (by omega) := by
          rw [fitBelow?, dif_neg (zeros ▸ fits)]
        rw [shorter]
        exact ih lower (by omega) (by omega)
    · rw [fitBelow?_scaled negative m k (Nat.le_refl _)]
      exact rel_refl sameWorth_refl _

/-- Fitting passes over zeros. -/
theorem fit?_zeros (negative : Bool) (m s k : Nat) :
    Option.Rel SameWorth (fit? negative (m * tens k) (s + k))
      (fit? negative m s) := by
  unfold fit?
  rcases Nat.le_total s 28 with s_le | s_ge
  · simp only [Nat.min_eq_left s_le]
    exact fitBelow?_zeros negative m k s_le (by omega) (by omega) _
  · simp only [Nat.min_eq_right s_ge,
      Nat.min_eq_right (Nat.le_trans s_ge (Nat.le_add_right s k))]
    rw [fitBelow?_scaled negative m k s_ge]
    exact rel_refl sameWorth_refl _

theorem rel_symm {x y : Option Decimal} (rel : Option.Rel SameWorth x y) :
    Option.Rel SameWorth y x := by
  cases rel with
  | none => exact .none
  | some same => exact .some same.symm

/-- Nothing is fitted to nothing. -/
theorem exists_fit?_zero (negative : Bool) (s : Nat) :
    ∃ d, fit? negative 0 s = some d ∧ d.units = 0 := by
  have none : halfEven 0 (tens (s - min s 28)) = 0 :=
    Nat.le_zero.1 (halfEven_le (tens_pos _) (by omega))
  have fits : halfEven 0 (tens (s - min s 28)) < mantissaBound := by
    rw [none]
    decide
  refine ⟨_, fitBelow?_eq_some_of_lt negative _ fits, ?_⟩
  rw [units_eq_zero_iff]
  exact none

/-- What is fitted depends on worth alone. -/
theorem fit?_sameWorth (digits : m * tens s' = m' * tens s)
    (sign : m = 0 ∨ negative = negative') :
    Option.Rel SameWorth (fit? negative m s) (fit? negative' m' s') := by
  rcases sign with rfl | rfl
  · have none : m' = 0 := by
      rw [Nat.zero_mul, eq_comm, Nat.mul_eq_zero] at digits
      exact digits.resolve_right (Nat.ne_of_gt (tens_pos s))
    obtain ⟨d, d_eq, d_units⟩ := exists_fit?_zero negative s
    obtain ⟨d', d'_eq, d'_units⟩ := exists_fit?_zero negative' s'
    rw [none, d_eq, d'_eq]
    exact .some (d_units.trans d'_units.symm)
  · have zeros : ∀ {a b t u : Nat}, t ≤ u → a * tens u = b * tens t →
        b = a * tens (u - t) := by
      intro a b t u le same
      apply Nat.eq_of_mul_eq_mul_right (tens_pos t)
      rw [Nat.mul_assoc, ← tens_add, Nat.sub_add_cancel le, same]
    rcases Nat.le_total s s' with le | le
    · have more := fit?_zeros negative m s (s' - s)
      rw [← zeros le digits, Nat.add_sub_cancel' le] at more
      exact rel_symm more
    · have more := fit?_zeros negative m' s' (s - s')
      rwa [← zeros le digits.symm, Nat.add_sub_cancel' le] at more

/-- Digits of equal worth are the same but for zeros, and so is their sign. -/
theorem digits_of_worth_eq (s_le : s ≤ 28) (s'_le : s' ≤ 28)
    (same : worth negative m s = worth negative' m' s') :
    m * tens s' = m' * tens s ∧ (m = 0 ∨ negative = negative') := by
  have shifted : m * tens (28 - s) = m' * tens (28 - s') := by
    have sizes := congrArg Int.natAbs same
    cases negative <;> cases negative' <;>
      simpa only [worth_true, worth_false, Int.natAbs_neg,
        Int.natAbs_natCast] using sizes
  refine ⟨?_, ?_⟩
  · have le := (digits_le_iff s_le s'_le).1 (Nat.le_of_eq shifted)
    have ge := (digits_le_iff s'_le s_le).1 (Nat.le_of_eq shifted.symm)
    exact Nat.le_antisymm le ge
  · by_cases signs : negative = negative'
    · exact Or.inr signs
    · have none : m * tens (28 - s) = 0 := by
        cases negative <;> cases negative' <;>
          simp only [worth_true, worth_false, not_true] at same signs <;>
            omega
      exact Or.inl ((Nat.mul_eq_zero.1 none).resolve_right
        (Nat.ne_of_gt (tens_pos _)))

end

/-! ## Sums, differences, products and rounding -/

section

variable {a a' b b' : Decimal}

theorem SameWorth.digits (same : SameWorth a b) :
    a.mantissa * tens b.scale = b.mantissa * tens a.scale ∧
      (a.mantissa = 0 ∨ a.negative = b.negative) :=
  digits_of_worth_eq a.scale_le b.scale_le same

theorem SameWorth.mantissa_eq_zero_iff (same : SameWorth a b) :
    a.mantissa = 0 ↔ b.mantissa = 0 := by
  rw [← units_eq_zero_iff, ← units_eq_zero_iff, same]

theorem SameWorth.neg (same : SameWorth a b) : SameWorth (-a) (-b) := by
  unfold SameWorth
  rw [units_neg, units_neg, same]

theorem SameWorth.add? (a_same : SameWorth a a') (b_same : SameWorth b b') :
    Option.Rel SameWorth (a.add? b) (a'.add? b') := by
  by_cases a_zero : a.mantissa = 0
  · rw [add?_zero_left a_zero,
      add?_zero_left (a_same.mantissa_eq_zero_iff.1 a_zero)]
    exact .some b_same
  · have a'_nonzero := mt a_same.mantissa_eq_zero_iff.2 a_zero
    by_cases b_zero : b.mantissa = 0
    · rw [add?_zero_right a_zero b_zero, add?_zero_right a'_nonzero
        (b_same.mantissa_eq_zero_iff.1 b_zero)]
      exact .some a_same
    · have b'_nonzero := mt b_same.mantissa_eq_zero_iff.2 b_zero
      obtain ⟨negative, m, s, s_le, sum, exact_sum⟩ :=
        add?_eq_fit? a_zero b_zero
      obtain ⟨negative', m', s', s'_le, sum', exact_sum'⟩ :=
        add?_eq_fit? a'_nonzero b'_nonzero
      have same : worth negative m s = worth negative' m' s' := by
        rw [exact_sum, exact_sum', a_same, b_same]
      obtain ⟨digits, sign⟩ := digits_of_worth_eq s_le s'_le same
      rw [sum, sum']
      exact fit?_sameWorth digits sign

theorem SameWorth.sub? (a_same : SameWorth a a') (b_same : SameWorth b b') :
    Option.Rel SameWorth (a.sub? b) (a'.sub? b') := by
  by_cases b_zero : b.mantissa = 0
  · unfold Decimal.sub?
    rw [if_pos b_zero, if_pos (b_same.mantissa_eq_zero_iff.1 b_zero)]
    by_cases a_zero : a.mantissa = 0
    · rw [if_pos a_zero, if_pos (a_same.mantissa_eq_zero_iff.1 a_zero)]
      exact .some b_same
    · rw [if_neg a_zero, if_neg (mt a_same.mantissa_eq_zero_iff.2 a_zero)]
      exact .some a_same
  · rw [sub?_eq_add?_neg b_zero,
      sub?_eq_add?_neg (mt b_same.mantissa_eq_zero_iff.2 b_zero)]
    exact a_same.add? b_same.neg

theorem SameWorth.mul? (a_same : SameWorth a a') (b_same : SameWorth b b') :
    Option.Rel SameWorth (a.mul? b) (a'.mul? b') := by
  have zero_iff : a.mantissa = 0 ∨ b.mantissa = 0 ↔
      a'.mantissa = 0 ∨ b'.mantissa = 0 := by
    rw [a_same.mantissa_eq_zero_iff, b_same.mantissa_eq_zero_iff]
  unfold Decimal.mul?
  by_cases none : a.mantissa = 0 ∨ b.mantissa = 0
  · rw [if_pos none, if_pos (zero_iff.1 none)]
    exact .some (sameWorth_refl _)
  · rw [if_neg none, if_neg (mt zero_iff.2 none)]
    rw [not_or] at none
    obtain ⟨a_digits, a_sign⟩ := a_same.digits
    obtain ⟨b_digits, b_sign⟩ := b_same.digits
    apply fit?_sameWorth
    · rw [tens_add, tens_add]
      calc a.mantissa * b.mantissa * (tens a'.scale * tens b'.scale)
          = a.mantissa * tens a'.scale * (b.mantissa * tens b'.scale) := by
            ac_rfl
        _ = a'.mantissa * tens a.scale * (b'.mantissa * tens b.scale) := by
            rw [a_digits, b_digits]
        _ = a'.mantissa * b'.mantissa * (tens a.scale * tens b.scale) := by
            ac_rfl
    · rw [a_sign.resolve_left none.1, b_sign.resolve_left none.2]
      exact Or.inr rfl

theorem units_roundTo (d : Decimal) (p : Nat) :
    (d.roundTo p).units = if d.scale ≤ p then d.units
      else worth d.negative (halfEven d.mantissa (tens (d.scale - p))) p := by
  unfold roundTo
  split
  · rfl
  · exact units_signed ..

/-- Nothing is worth nothing with any sign. -/
theorem worth_sign {negative negative' : Bool} {m : Nat} (s : Nat)
    (sign : m = 0 ∨ negative = negative') :
    worth negative m s = worth negative' m s := by
  rcases sign with rfl | rfl
  · cases negative <;> cases negative' <;> simp
  · rfl

theorem roundTo_of_le (same : SameWorth a b) (le : a.scale ≤ b.scale)
    (p : Nat) : SameWorth (a.roundTo p) (b.roundTo p) := by
  obtain ⟨digits, sign⟩ := same.digits
  have zeros : b.mantissa = a.mantissa * tens (b.scale - a.scale) := by
    apply Nat.eq_of_mul_eq_mul_right (tens_pos a.scale)
    rw [Nat.mul_assoc, ← tens_add, Nat.sub_add_cancel le, digits]
  have b_scale := b.scale_le
  unfold SameWorth
  rw [units_roundTo, units_roundTo]
  by_cases b_le : b.scale ≤ p
  · rw [if_pos b_le, if_pos (Nat.le_trans le b_le)]
    exact same
  · rw [if_neg b_le]
    by_cases a_le : a.scale ≤ p
    · -- what goes are zeros
      rw [if_pos a_le, zeros,
        show b.scale - a.scale = p - a.scale + (b.scale - p) by omega,
        tens_add, ← Nat.mul_assoc, halfEven_mul _ (tens_pos _)]
      have kept := worth_zeros b.negative a.mantissa
        (show a.scale + (p - a.scale) ≤ 28 by omega)
      rw [Nat.add_sub_cancel' a_le] at kept
      rw [kept, units_eq_worth, worth_sign a.scale sign]
    · rw [if_neg a_le, zeros,
        show b.scale - p = a.scale - p + (b.scale - a.scale) by omega,
        tens_add, halfEven_mul_mul _ _ (tens_pos _)]
      apply worth_sign
      refine sign.imp_left fun none => ?_
      rw [none]
      exact Nat.le_zero.1 (halfEven_le (tens_pos _) (by omega))

theorem SameWorth.roundTo (same : SameWorth a b) (p : Nat) :
    SameWorth (a.roundTo p) (b.roundTo p) := by
  rcases Nat.le_total a.scale b.scale with le | le
  · exact roundTo_of_le same le p
  · exact (roundTo_of_le same.symm le p).symm

end

/-! ## Congruences -/

/-- Whether a relation is kept by all that is done to balances and rates, and
relates nothing but what is worth the same. -/
structure Congruence (R : Decimal → Decimal → Prop) : Prop where
  refl : ∀ a, R a a
  sameWorth : ∀ {a b}, R a b → SameWorth a b
  add? : ∀ {a a' b b'}, R a a' → R b b' →
    Option.Rel R (a.add? b) (a'.add? b')
  sub? : ∀ {a a' b b'}, R a a' → R b b' →
    Option.Rel R (a.sub? b) (a'.sub? b')
  mul? : ∀ {a a' b b'}, R a a' → R b b' →
    Option.Rel R (a.mul? b) (a'.mul? b')
  roundTo : ∀ {a b}, R a b → ∀ p, R (a.roundTo p) (b.roundTo p)

theorem congruence_eq : Congruence Eq where
  refl _ := rfl
  sameWorth := by
    rintro a _ rfl
    exact sameWorth_refl a
  add? := by
    rintro a _ b _ rfl rfl
    exact rel_refl (fun _ => rfl) _
  sub? := by
    rintro a _ b _ rfl rfl
    exact rel_refl (fun _ => rfl) _
  mul? := by
    rintro a _ b _ rfl rfl
    exact rel_refl (fun _ => rfl) _
  roundTo := by
    rintro a _ rfl p
    rfl

theorem congruence_sameWorth : Congruence SameWorth where
  refl := sameWorth_refl
  sameWorth := id
  add? := SameWorth.add?
  sub? := SameWorth.sub?
  mul? := SameWorth.mul?
  roundTo := SameWorth.roundTo

end Passbook.Decimal
