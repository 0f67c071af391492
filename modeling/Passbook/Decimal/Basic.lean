import Passbook.Decimal.Tens

/-!
# Decimals: sign, 96-bit mantissa and scale

A `Decimal` stands for `± mantissa · 10 ^ (-scale)`. The scale is part of the
value: `1.5` and `1.50` are different decimals of equal worth, and each is
written back with the places it has.

What a decimal is worth is its number of `units`, where one unit is `10 ^
(-28)`. Every decimal is a whole number of units, so order, sums and totals are
stated on `Int`, exactly.

## Main results

* `units_neg` — changing the sign negates the worth.
* `units_normalize` — dropping trailing zeros keeps the worth.
* `units_eq_zero_iff` — a decimal is worth nothing exactly if its mantissa is
  zero.
-/

namespace Passbook

/-- The first number that is too large for a mantissa: the 96th power of two. -/
def Decimal.mantissaBound : Nat := 79228162514264337593543950336

/-- A signed decimal with at most 96 bits of mantissa and at most 28 decimal
places. -/
structure Decimal where
  /-- Whether a minus sign is written. -/
  negative : Bool
  /-- The digits, read as one natural number. -/
  mantissa : Nat
  /-- How many of the digits stand after the point. -/
  scale : Nat
  mantissa_lt : mantissa < Decimal.mantissaBound
  scale_le : scale ≤ 28
deriving DecidableEq

namespace Decimal

/-! ## Worth -/

/-- The mantissa with its sign. -/
def coefficient (d : Decimal) : Int :=
  if d.negative then -(d.mantissa : Int) else d.mantissa

/-- The worth of a decimal, counted in units of `10 ^ (-28)`. -/
def units (d : Decimal) : Int :=
  d.coefficient * tens (28 - d.scale)

theorem units_eq_zero_iff (d : Decimal) : d.units = 0 ↔ d.mantissa = 0 := by
  have pos := tens_pos (28 - d.scale)
  unfold units coefficient
  rw [Int.mul_eq_zero]
  split <;> omega

/-- Decimals are ordered by worth; the scale plays no part. -/
instance : LE Decimal := ⟨fun a b => a.units ≤ b.units⟩

instance : LT Decimal := ⟨fun a b => a.units < b.units⟩

theorem le_iff {a b : Decimal} : a ≤ b ↔ a.units ≤ b.units := Iff.rfl

theorem lt_iff {a b : Decimal} : a < b ↔ a.units < b.units := Iff.rfl

instance (a b : Decimal) : Decidable (a ≤ b) :=
    inferInstanceAs (Decidable (a.units ≤ b.units))

instance (a b : Decimal) : Decidable (a < b) :=
    inferInstanceAs (Decidable (a.units < b.units))

/-! ## Constants and signs -/

/-- A decimal may do without places. -/
theorem no_places_le : 0 ≤ 28 := Nat.zero_le 28

/-- Nothing, written `0`. -/
def zero : Decimal := ⟨false, 0, 0, by decide, no_places_le⟩

/-- One, written `1`. -/
def one : Decimal := ⟨false, 1, 0, by decide, no_places_le⟩

instance : Inhabited Decimal := ⟨zero⟩

@[simp] theorem units_zero : zero.units = 0 := by decide

@[simp] theorem units_one : one.units = tens 28 := by decide

/-- The opposite sign on the same digits; a zero gets a sign too. -/
instance : Neg Decimal := ⟨fun d => { d with negative := !d.negative }⟩

@[simp] theorem units_neg (d : Decimal) : (-d).units = -d.units := by
  show (if !d.negative then
    -(d.mantissa : Int) else d.mantissa) * tens (28 - d.scale) = _
  unfold units coefficient
  cases d.negative with
  | false => exact Int.neg_mul _ _
  | true =>
    show (d.mantissa : Int) * _ = -(-(d.mantissa : Int) * _)
    rw [Int.neg_mul, Int.neg_neg]

/-- The decimal with these digits, which carries a sign only if it is not
zero. -/
def signed (negative : Bool) (mantissa scale : Nat)
    (mantissa_lt : mantissa < mantissaBound)
    (scale_le : scale ≤ 28) : Decimal :=
  ⟨negative && mantissa != 0, mantissa, scale, mantissa_lt, scale_le⟩

theorem units_signed (negative : Bool) (m s : Nat) (hm : m < mantissaBound)
    (hs : s ≤ 28) :
    (signed negative m s hm hs).units =
      (if negative then -(m : Int) else m) * tens (28 - s) := by
  unfold units coefficient signed
  cases negative <;> by_cases h : m = 0 <;> simp [h]

/-! ## Trailing zeros -/

/-- Takes trailing zeros off the mantissa for as long as places are left. -/
def stripZeros (mantissa : Nat) : Nat → Nat × Nat
  | 0 => (mantissa, 0)
  | scale + 1 =>
    if mantissa % 10 = 0 then
      stripZeros (mantissa / 10) scale else (mantissa, scale + 1)

theorem stripZeros_fst_le (m s : Nat) : (stripZeros m s).1 ≤ m := by
  induction s generalizing m with
  | zero => simp [stripZeros]
  | succ s ih =>
    unfold stripZeros
    split
    · exact Nat.le_trans (ih _) (Nat.div_le_self m 10)
    · exact Nat.le_refl m

theorem stripZeros_snd_le (m s : Nat) : (stripZeros m s).2 ≤ s := by
  induction s generalizing m with
  | zero => simp [stripZeros]
  | succ s ih =>
    unfold stripZeros
    split
    · exact Nat.le_succ_of_le (ih _)
    · exact Nat.le_refl _

/-- Only zeros are taken off. -/
theorem stripZeros_mul_tens (m s : Nat) :
    (stripZeros m s).1 * tens (s - (stripZeros m s).2) = m := by
  induction s generalizing m with
  | zero => simp [stripZeros]
  | succ s ih =>
    unfold stripZeros
    split
    case isTrue zero_last =>
      have le := stripZeros_snd_le (m / 10) s
      have step := ih (m / 10)
      rw [show s + 1 - (stripZeros (m / 10) s).2 =
        s - (stripZeros (m / 10) s).2 + 1 by omega,
        tens_succ, ← Nat.mul_assoc, step]
      omega
    case isFalse => simp

/-- The same worth with the fewest places; zero loses its sign. -/
def normalize (d : Decimal) : Decimal :=
  signed d.negative (stripZeros d.mantissa d.scale).1
    (stripZeros d.mantissa d.scale).2
    (Nat.lt_of_le_of_lt (stripZeros_fst_le _ _) d.mantissa_lt)
    (Nat.le_trans (stripZeros_snd_le _ _) d.scale_le)

/-- How many places the worth of a decimal needs. -/
def places (d : Decimal) : Nat := d.normalize.scale

theorem units_normalize (d : Decimal) : d.normalize.units = d.units := by
  have digits : (stripZeros d.mantissa d.scale).1 *
      tens (28 - (stripZeros d.mantissa d.scale).2) =
      d.mantissa * tens (28 - d.scale) := by
    have le := stripZeros_snd_le d.mantissa d.scale
    have scale_le := d.scale_le
    rw [show 28 - (stripZeros d.mantissa d.scale).2 =
        d.scale - (stripZeros d.mantissa d.scale).2 + (28 - d.scale) by omega,
      tens_add, ← Nat.mul_assoc, stripZeros_mul_tens]
  have digits : ((stripZeros d.mantissa d.scale).1 : Int) *
      tens (28 - (stripZeros d.mantissa d.scale).2) =
        d.mantissa * tens (28 - d.scale) := by
    exact_mod_cast digits
  rw [normalize, units_signed]
  unfold units coefficient
  cases d.negative with
  | false => exact digits
  | true =>
    show -((stripZeros d.mantissa d.scale).1 : Int) * _ =
      -(d.mantissa : Int) * _
    rw [Int.neg_mul, Int.neg_mul, digits]

end Decimal

end Passbook
