/-!
# Blanks, letter case and padded numbers

Blanks are the characters with Unicode's `White_Space` property. Letter case is
that of the ASCII letters alone: keywords are ASCII, and a letter outside ASCII
never makes one.
-/

namespace Passbook.Text

/-- Characters with the property `White_Space`. -/
def isBlank (c : Char) : Bool :=
  let n := c.toNat
  (0x09 ≤ n && n ≤ 0x0D) || n == 0x20 || n == 0x85 || n == 0xA0 ||
    n == 0x1680 ||
    (0x2000 ≤ n && n ≤ 0x200A) || n == 0x2028 || n == 0x2029 || n == 0x202F ||
      n == 0x205F ||
    n == 0x3000

/-- Takes blanks off both ends. -/
def trimChars (cs : List Char) : List Char :=
  ((cs.dropWhile isBlank).reverse.dropWhile isBlank).reverse

/-- Takes blanks off both ends. -/
def trim (text : String) : String := String.ofList (trimChars text.toList)

/-- Lower-cases the ASCII letters. -/
def lowerChars (cs : List Char) : List Char := cs.map Char.toLower

/-- Lower-cases the ASCII letters. -/
def lower (text : String) : String := String.ofList (lowerChars text.toList)

/-- A number with leading zeros up to `width` digits. -/
def zeroPadded (width n : Nat) : List Char :=
  let digits := Nat.toDigits 10 n
  List.replicate (width - digits.length) '0' ++ digits

theorem dropWhile_head_not {p : Char → Bool} {c : Char} {cs ds : List Char}
    (h : cs.dropWhile p = c :: ds) : p c = false := by
  induction cs with
  | nil => simp at h
  | cons b bs ih =>
    by_cases hb : p b
    · exact ih (by simpa [List.dropWhile_cons, hb] using h)
    · simp only [List.dropWhile_cons, hb, Bool.false_eq_true, if_false,
        List.cons.injEq] at h
      simpa [← h.1] using hb

end Passbook.Text
