import Passbook.Decimal.Basic

/-!
# Writing decimals

`text` shows every place a decimal has. `fixed?` shows a given number of places:
further ones are cut off, missing ones are zeros. A fixed text is composed in a
field of 32 characters, the sign not counted, and there is none for a number too
long for it.

## Main results

* `length_paddedDigits` — there is at least one digit before the point.
-/

namespace Passbook.Decimal

/-- A minus sign, if there is one. -/
def signText (d : Decimal) : List Char := if d.negative then ['-'] else []

/-- The digits of the mantissa with leading zeros up to one digit before the
point. -/
def paddedDigits (d : Decimal) : List Char :=
  let digits := Nat.toDigits 10 d.mantissa
  List.replicate (d.scale + 1 - digits.length) '0' ++ digits

theorem length_paddedDigits (d : Decimal) :
    d.scale < d.paddedDigits.length := by
  simp only [paddedDigits, List.length_append, List.length_replicate]
  omega

/-- The digits before the point. -/
def wholeDigits (d : Decimal) : List Char :=
    d.paddedDigits.take (d.paddedDigits.length - d.scale)

/-- The digits after the point. -/
def fractionDigits (d : Decimal) : List Char :=
  d.paddedDigits.drop (d.paddedDigits.length - d.scale)

/-- All places of a decimal, as characters. -/
def chars (d : Decimal) : List Char :=
  d.signText ++ d.wholeDigits ++ (if d.scale = 0 then
    [] else '.' :: d.fractionDigits)

/-- All places of a decimal. -/
def text (d : Decimal) : String := String.ofList d.chars

instance : ToString Decimal := ⟨text⟩

/-- The width of the field in which a text with fixed places is composed. -/
def fieldWidth : Nat := 32

/-- Exactly `places` places, cut off or filled up; `none` if the field is too
narrow. -/
def fixed? (places : Nat) (d : Decimal) : Option String :=
  if d.wholeDigits.length + 1 + places ≤ fieldWidth then
    let fraction := d.fractionDigits.take places
    some (String.ofList (d.signText ++ d.wholeDigits ++ '.' ::
      (fraction ++ List.replicate (places - fraction.length) '0')))
  else none

end Passbook.Decimal
