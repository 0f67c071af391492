import Passbook.Decimal.Rounding

/-!
# Sums, differences and products

Each operation forms its result exactly and fits it (`Decimal.fit?`); there is
no result if the integer part needs more than 96 bits. A zero operand of a sum
is no operand at all: the other one comes back with its own scale.

## Main results

* `add?_zero_left`, `add?_zero_right` — adding nothing changes nothing, the
  scale included.
-/

namespace Passbook.Decimal

/-- The signed mantissa that `d` has at a scale not below its own. -/
def coefficientAt (d : Decimal) (scale : Nat) : Int :=
  d.coefficient * tens (scale - d.scale)

/-- The exact sum at the larger scale, fitted. -/
def add? (a b : Decimal) : Option Decimal :=
  if a.mantissa = 0 then some b
  else if b.mantissa = 0 then some a
  else
    let scale := max a.scale b.scale
    let sum := a.coefficientAt scale + b.coefficientAt scale
    fit? (sum < 0) sum.natAbs scale

/-- The sum with the opposite; where both are zero it is the second one as it
stands. -/
def sub? (a b : Decimal) : Option Decimal :=
  if b.mantissa = 0 then some (if a.mantissa = 0 then b else a) else a.add? (-b)

/-- The exact product with the scales added, fitted; a zero factor gives plain
zero. -/
def mul? (a b : Decimal) : Option Decimal :=
  if a.mantissa = 0 ∨ b.mantissa = 0 then some zero
  else fit? (a.negative != b.negative) (a.mantissa * b.mantissa)
    (a.scale + b.scale)

theorem add?_zero_left {a : Decimal} (h : a.mantissa = 0) (b : Decimal) :
    a.add? b = some b := by
  simp [add?, h]

theorem add?_zero_right {a b : Decimal} (ha : a.mantissa ≠ 0)
    (hb : b.mantissa = 0) :
    a.add? b = some a := by
  simp [add?, ha, hb]

/-- Adds up from the left, starting at zero; there is no total once a partial
sum does not fit. -/
def sum? (ds : List Decimal) : Option Decimal :=
  ds.foldlM add? zero

end Passbook.Decimal
