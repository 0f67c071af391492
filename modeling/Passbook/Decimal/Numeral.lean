import Passbook.Decimal.Arithmetic

/-!
# Reading decimals

A numeral is an optional sign, digits with at most one point among them, and
underscores anywhere after the first digit. Digits after the point are kept
while they fit; the first that does not fit rounds the rest away, a five
upwards. A text that is no numeral may still be one in scientific notation: a
numeral, `e` or `E`, and an exponent between `-28` and `28`.
-/

namespace Passbook.Decimal

/-! ## Plain numerals -/

/-- What may follow the digit that was rounded away. -/
def isTail (c : Char) : Bool := c.isDigit || c == '_'

/--
Below this bound a mantissa takes one more digit within 64 bits, with room to
spare. An underscore right behind the last place that is kept ends the reading
for mantissas that got there from below the bound, and is passed over for larger
ones.
-/
def narrowBound : Nat := 1844674407370954906

/-- Rounds by the first digit that is not kept; a carry beyond 96 bits drops one
more place. -/
def roundUp? (mantissa scale digit : Nat) : Option (Nat × Nat) :=
  if digit < 5 then some (mantissa, scale)
  else if mantissa + 1 < mantissaBound then some (mantissa + 1, scale)
  else if scale = 0 then none
  else some ((mantissa + 1 + 4) / 10, scale - 1)

/--
Reads digits, point and underscores onto the mantissa and scale read so far.
`point` tells whether the point has been read, `digit` whether a digit has.
-/
def scan (point digit : Bool) (mantissa scale : Nat) :
    List Char → Option (Nat × Nat)
  | [] => if digit then some (mantissa, scale) else none
  | c :: rest =>
    if c.isDigit then
      let next := mantissa * 10 + (c.toNat - '0'.toNat)
      if (point && scale == 28) || mantissaBound ≤ next then
        if point && rest.all isTail then
          roundUp? mantissa scale (c.toNat - '0'.toNat) else none
      else scan point true next (if point then scale + 1 else 0) rest
    else if c == '.' && !point then scan true digit mantissa scale rest
    else if c == '_' && digit then
      if point && scale == 28 && mantissa / 10 < narrowBound then
        if rest.all isTail then some (mantissa, scale) else none
      else scan point digit mantissa scale rest
    else none

/-- The decimal with these parts, if they are in range. -/
def ofParts? (negative : Bool) (mantissa scale : Nat) : Option Decimal :=
  if h : mantissa < mantissaBound ∧ scale ≤ 28 then
    some (signed negative mantissa scale h.1 h.2) else none

/-- Reads the digits that follow the sign. -/
def unsigned? (negative : Bool) (cs : List Char) : Option Decimal :=
  (scan false false 0 0 cs).bind fun (mantissa, scale) =>
    ofParts? negative mantissa scale

/-- Reads a numeral without an exponent. -/
def plain? : List Char → Option Decimal
  | '-' :: cs => unsigned? true cs
  | '+' :: cs => unsigned? false cs
  | cs => unsigned? false cs

/-! ## Scientific notation -/

/-- Takes a plus sign off the front. -/
def dropPlus : List Char → List Char
  | '+' :: cs => cs
  | cs => cs

/-- Reads the size of an exponent: digits, with an optional `+`, that come to 28
at most. -/
def magnitude? (cs : List Char) : Option Nat :=
  let digits := dropPlus cs
  if digits.isEmpty || !digits.all Char.isDigit then none
  else
    let n := Nat.ofDigitChars 10 digits 0
    if n ≤ 28 then some n else none

/-- Moves the point `n` places to the right. -/
def shiftRight? (d : Decimal) (n : Nat) : Option Decimal :=
  if n ≤ d.scale then
    some (signed d.negative d.mantissa (d.scale - n) d.mantissa_lt
      (Nat.le_trans (Nat.sub_le _ _) d.scale_le))
  else (fit? d.negative (d.mantissa * tens n) d.scale).map normalize

/--
Moves the point `n` places to the left; places beyond 28 are rounded away, a
half upwards. The sign stays, even if only zeros are left.
-/
def shiftLeft? (d : Decimal) (n : Nat) : Option Decimal :=
  if h : d.scale + n ≤ 28 then
    some ⟨d.negative, d.mantissa, d.scale + n, d.mantissa_lt, h⟩
  else
    let unit := tens (d.scale + n - 28)
    let rounded := (d.mantissa + unit / 2) / unit
    if h : rounded < mantissaBound then
      some ⟨d.negative, rounded, 28, h, Nat.le_refl 28⟩ else none

/-- Applies an exponent: its size, with a `-` in front if it is negative. -/
def shift? (d : Decimal) : List Char → Option Decimal
  | '-' :: cs => (magnitude? cs).bind d.shiftLeft?
  | cs => (magnitude? cs).bind d.shiftRight?

/-- The letters that introduce an exponent. -/
def isExponentMark (c : Char) : Bool := c == 'e' || c == 'E'

/-- Reads a numeral with an exponent, which starts at the first `e` or `E`. -/
def scientific? (cs : List Char) : Option Decimal :=
  match cs.dropWhile (fun c => !isExponentMark c) with
  | [] => none
  | _ :: exponent =>
    (plain? (cs.takeWhile fun c => !isExponentMark c)).bind (·.shift? exponent)

/-- Reads a decimal in either notation. -/
def ofChars? (cs : List Char) : Option Decimal :=
  (plain? cs).or (scientific? cs)

/-- Reads a decimal from a whole text, blanks not allowed. -/
def ofText? (text : String) : Option Decimal :=
  ofChars? text.toList

end Passbook.Decimal
