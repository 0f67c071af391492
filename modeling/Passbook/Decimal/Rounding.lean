import Passbook.Decimal.Basic

/-!
# Fitting an exact value into a decimal

Sums and products are formed exactly, as a natural number at some scale, and
then fitted: the digits that go are the fewest for which the rest fits 96 bits
and 28 places, and what goes is rounded to the nearest neighbour, a half to the
even one.

## Main results

* `halfEven_mul` — a multiple of the divisor is divided exactly.
-/

namespace Passbook.Decimal

/-- The quotient rounded to the nearest natural number, a half to the even
neighbour. -/
def halfEven (n d : Nat) : Nat :=
  if 2 * (n % d) < d ∨ (2 * (n % d) = d ∧ n / d % 2 = 0) then
    n / d else n / d + 1

@[simp] theorem halfEven_one (n : Nat) : halfEven n 1 = n := by
  simp [halfEven, Nat.mod_one]

/-- A multiple of the divisor is divided without rounding. -/
theorem halfEven_mul {d : Nat} (n : Nat) (d_pos : 0 < d) :
    halfEven (n * d) d = n := by
  unfold halfEven
  rw [Nat.mul_mod_left, Nat.mul_div_cancel _ d_pos, if_pos (Or.inl (by omega))]

/--
The value `± m · 10 ^ (-s)` at the largest scale not above `t` at which its
rounding has a 96-bit mantissa, if there is one.
-/
def fitBelow? (negative : Bool) (m s : Nat) :
    (t : Nat) → t ≤ 28 → Option Decimal
  | 0, _ =>
    if h : halfEven m (tens s) < mantissaBound then
      some (signed negative (halfEven m (tens s)) 0 h no_places_le)
    else none
  | t + 1, t_le =>
    if h : halfEven m (tens (s - (t + 1))) < mantissaBound then
      some (signed negative (halfEven m (tens (s - (t + 1)))) (t + 1) h t_le)
    else fitBelow? negative m s t (by omega)

/--
The value `± m · 10 ^ (-s)` as a decimal: exact if it fits, else with the fewest
digits dropped. There is none if its integer part needs more than 96 bits.
-/
def fit? (negative : Bool) (m s : Nat) : Option Decimal :=
  fitBelow? negative m s (min s 28) (Nat.min_le_right s 28)

theorem fitBelow?_eq_some_of_lt (negative : Bool) {m s t : Nat} (t_le : t ≤ 28)
    (h : halfEven m (tens (s - t)) < mantissaBound) :
    fitBelow? negative m s t t_le =
      some (signed negative (halfEven m (tens (s - t))) t h t_le) := by
  cases t with
  | zero =>
    have h' : halfEven m (tens s) < mantissaBound := h
    simp only [fitBelow?, dif_pos h']
    rfl
  | succ t => simp only [fitBelow?, dif_pos h]

/-- Rounds to at most `places` places, a half to the even neighbour. -/
def roundTo (places : Nat) (d : Decimal) : Decimal :=
  if h : d.scale ≤ places then d
  else
    signed d.negative (halfEven d.mantissa (tens (d.scale - places))) places
      (by
        have scale_gt : 0 < d.scale - places := by omega
        have lt := d.mantissa_lt
        have two_le : 2 ≤ tens (d.scale - places) :=
          Nat.le_trans (by decide : 2 ≤ 10) (ten_le_tens scale_gt)
        have half : d.mantissa / tens (d.scale - places) ≤ d.mantissa / 2 :=
          Nat.div_le_div_left two_le (by decide)
        unfold mantissaBound at lt ⊢
        unfold halfEven
        split <;> omega)
      (by have := d.scale_le; omega)

theorem roundTo_of_scale_le {places : Nat} {d : Decimal}
    (h : d.scale ≤ places) :
    d.roundTo places = d := by
  simp [roundTo, h]

end Passbook.Decimal
