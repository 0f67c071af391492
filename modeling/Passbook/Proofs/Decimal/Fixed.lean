import Passbook.Decimal.Format
import Passbook.Proofs.Decimal.Places
import Passbook.Proofs.Decimal.Range
import Passbook.Proofs.Decimal.Reading

/-!
# Fixed places, and reading them back

A text with fixed places is a numeral: places that a decimal has beyond them are
cut off, not rounded. On the grid of these places only zeros are cut off, so the
numeral is worth the decimal, however many zeros it was written with.

What a decimal is worth is read, with any number of digits: those that there is
no room for are zeros. So reading gives back what was written, as far as there
was room to write it. The sign does not count for that, nor do the places; what
counts are the digits before the point.

## Main results

* `Numeral.exists_ofText?` — a numeral that some decimal is worth is read.
* `exists_fixed?_iff` — what there is room for.
* `exists_ofText?_of_fixed?` — what is written on a grid is read back.
-/

namespace Passbook

namespace Numeral

open Decimal

/-! ## Reading succeeds -/

section

variable {m s : Nat} {digits : List (Fin 10)} {rest : List Char}

theorem le_count (n : Nat) (digits : List (Fin 10)) : n ≤ count n digits := by
  rw [count_eq]
  have le := Nat.le_mul_of_pos_right n (tens_pos digits.length)
  omega

/-- A digit before the point is kept if there is room for it. -/
theorem scan_digit_of_lt {k : Fin 10} (room : m * 10 + k.val < mantissaBound)
    (seen : Bool) :
    scan false seen m s (digit k :: rest) =
      scan false true (m * 10 + k.val) 0 rest := by
  have kept : ¬ (((false && s == 28) ||
      decide (mantissaBound ≤ m * 10 + k.val)) = true) := by
    rw [Bool.false_and, Bool.false_or, decide_eq_true_eq]
    exact Nat.not_le.2 room
  rw [scan_digit, if_neg kept]
  rfl

/-- So are the digits of a number that there is room for. -/
theorem scan_whole (small : count m digits < mantissaBound) :
    scan false true m 0 (digits.map digit ++ rest) =
      scan false true (count m digits) 0 rest := by
  induction digits generalizing m with
  | nil => rfl
  | cons k digits ih =>
    have room := Nat.lt_of_le_of_lt (le_count _ digits) small
    rw [List.map_cons, List.cons_append, scan_digit_of_lt room]
    exact ih small

theorem all_isTail_digits (digits : List (Fin 10)) :
    (digits.map digit).all isTail = true := by
  rw [List.all_map, List.all_eq_true]
  intro k _
  rw [Function.comp_apply, isTail, isDigit_digit, Bool.true_or]

/-- Digits behind the point are read if a decimal is worth them. -/
theorem exists_scan_fraction {M t : Nat} (M_lt : M < mantissaBound)
    (t_le : t ≤ 28)
    (same : M * tens (s + digits.length) = count m digits * tens t)
    (m_lt : m < mantissaBound) (s_le : s ≤ 28) :
    ∃ m' s', scan true true m s (digits.map digit) = some (m', s') ∧
      m' < mantissaBound ∧ s' ≤ 28 := by
  induction digits generalizing m s with
  | nil => exact ⟨m, s, rfl, m_lt, s_le⟩
  | cons k digits ih =>
    rw [List.map_cons, scan_digit]
    split
    case isTrue full =>
      -- the reading ends here, and rounds by a zero
      have full : s = 28 ∨ mantissaBound ≤ m * 10 + k.val := by
        simpa using full
      have zeros := tail_eq_zero M_lt t_le same full
      have k_zero : k = 0 := eq_zero_of_count zeros k List.mem_cons_self
      rw [all_isTail_digits, k_zero]
      exact ⟨m, s, rfl, m_lt, s_le⟩
    case isFalse room =>
      rw [Bool.true_and, Bool.or_eq_true, decide_eq_true_eq, beq_iff_eq,
        not_or] at room
      rw [if_pos rfl]
      rw [List.length_cons, show s + (digits.length + 1) =
        s + 1 + digits.length by omega] at same
      exact ih same (by omega) (by omega)

end

section

variable {numeral : Numeral} {d : Decimal}

/-- The digits before the point are no more than those of a decimal that is
worth the numeral. -/
theorem count_whole_le (same : d.value = numeral.value) :
    count 0 numeral.whole ≤ d.mantissa := by
  apply Nat.le_of_mul_le_mul_right _ (tens_pos numeral.decimals.length)
  calc count 0 numeral.whole * tens numeral.decimals.length
      ≤ numeral.mantissa := by
        rw [mantissa, count_append, count_eq (count 0 numeral.whole)]
        exact Nat.le_add_right _ _
    _ ≤ numeral.mantissa * tens d.scale :=
        Nat.le_mul_of_pos_right _ (tens_pos _)
    _ = d.mantissa * tens numeral.decimals.length :=
        (mantissa_of_value_eq same).symm

/-- The digits of a numeral are read if a decimal is worth it. -/
theorem exists_scan_body (starts : numeral.whole ≠ [])
    (same : d.value = numeral.value) :
    ∃ m s, scan false false 0 0 numeral.body = some (m, s) ∧
      m < mantissaBound ∧ s ≤ 28 := by
  have whole_lt :=
    Nat.lt_of_le_of_lt (count_whole_le same) d.mantissa_lt
  have digits := mantissa_of_value_eq same
  obtain ⟨k, ks, whole⟩ := List.exists_cons_of_ne_nil starts
  have first : scan false false 0 0 numeral.body =
      scan false true (count 0 numeral.whole) 0
        (fractionChars numeral.fraction) := by
    unfold body
    rw [whole] at whole_lt ⊢
    have room : 0 * 10 + k.val < mantissaBound :=
      Nat.lt_of_le_of_lt (le_count _ ks) whole_lt
    rw [List.map_cons, List.cons_append, scan_digit_of_lt room]
    exact scan_whole whole_lt
  rw [first]
  unfold mantissa decimals at digits
  cases fraction : numeral.fraction with
  | none => exact ⟨_, _, rfl, whole_lt, Nat.zero_le _⟩
  | some behind =>
    rw [fraction, Option.getD_some, count_append,
      ← Nat.zero_add behind.length] at digits
    exact exists_scan_fraction d.mantissa_lt d.scale_le digits whole_lt
      (Nat.zero_le _)

/-- A numeral is read, and exactly, if it starts with a digit and a decimal is
worth it. -/
theorem exists_ofText? (starts : numeral.whole ≠ [])
    (same : d.value = numeral.value) :
    ∃ read, ofText? numeral.text = some read ∧ read.value = d.value := by
  obtain ⟨m, s, scanned, m_lt, s_le⟩ := exists_scan_body starts same
  have read : ofText? numeral.text =
      some (signed numeral.negative m s m_lt s_le) := by
    rw [ofText?_text, unsigned?, scanned, Option.bind_some]
    exact dif_pos ⟨m_lt, s_le⟩
  have exactly := (value_of_ofText? read).2 ⟨d, same⟩
  exact ⟨_, read, exactly.trans same.symm⟩

end

/-! ## The digits that are written -/

/-- The digits of a number are written as digits, and count up to it. -/
theorem exists_toDigits (n : Nat) : ∃ digits : List (Fin 10),
    Nat.toDigits 10 n = digits.map digit ∧ count 0 digits = n := by
  induction n using Nat.strongRecOn with
  | ind n ih =>
    rw [Nat.toDigits_eq_if (by decide)]
    split
    case isTrue single => exact ⟨[⟨n, single⟩], rfl, Nat.zero_add n⟩
    case isFalse more =>
      obtain ⟨digits, written, counted⟩ := ih (n / 10) (by omega)
      have last : n % 10 < 10 := Nat.mod_lt _ (by decide)
      refine ⟨digits ++ [⟨n % 10, last⟩], ?_, ?_⟩
      · rw [List.map_append, written]
        rfl
      · rw [count_append, counted]
        exact Nat.div_add_mod' n 10

theorem count_replicate_zero (n z : Nat) :
    count n (List.replicate z 0) = n * tens z := by
  induction z generalizing n with
  | zero => exact (Nat.mul_one n).symm
  | succ z ih =>
    rw [List.replicate_succ, count_cons, ih, tens_succ, Nat.mul_comm (tens z),
      ← Nat.mul_assoc]
    rfl

/-! ## Cutting off and filling up -/

section

variable {p : Nat} {whole behind : List (Fin 10)}

/-- The first `p` digits, with others to fill up if there are fewer. -/
def cutTo (p : Nat) (fill : Fin 10) (digits : List (Fin 10)) : List (Fin 10) :=
  digits.take p ++ List.replicate (p - (digits.take p).length) fill

theorem length_cutTo (p : Nat) (fill : Fin 10) (digits : List (Fin 10)) :
    (cutTo p fill digits).length = p := by
  rw [cutTo, List.length_append, List.length_replicate, List.length_take]
  omega

theorem map_digit_cutTo (p : Nat) (fill : Fin 10) (digits : List (Fin 10)) :
    (cutTo p fill digits).map digit = (digits.map digit).take p ++
      List.replicate (p - ((digits.map digit).take p).length) (digit fill) := by
  rw [cutTo, List.map_append, List.map_take, List.map_replicate,
    List.length_take, List.length_take, List.length_map]

/-- Filling up with zeros multiplies, and cutting off divides. -/
theorem count_append_cutTo :
    count 0 (whole ++ cutTo p 0 behind) =
      count 0 (whole ++ behind) * tens (p - behind.length) /
        tens (behind.length - p) := by
  rcases Nat.le_total behind.length p with fill | cut
  · rw [cutTo, List.take_of_length_le fill, ← List.append_assoc, count_append,
      count_replicate_zero, Nat.sub_eq_zero_of_le fill, tens_zero, Nat.div_one]
  · have kept : (behind.take p).length = p := by
      rw [List.length_take]
      omega
    have parts : count 0 (whole ++ behind) =
        tens (behind.length - p) * count 0 (whole ++ behind.take p) +
          count 0 (behind.drop p) := by
      rw [Nat.mul_comm, ← List.length_drop, ← count_eq, ← count_append,
        List.append_assoc, List.take_append_drop]
    have small := count_lt (behind.drop p)
    rw [List.length_drop] at small
    rw [cutTo, kept, Nat.sub_self, List.replicate_zero, List.append_nil, parts,
      Nat.sub_eq_zero_of_le cut, tens_zero, Nat.mul_one,
      Nat.mul_add_div (tens_pos _), Nat.div_eq_of_lt small, Nat.add_zero]

end

end Numeral

namespace Decimal

open Numeral

variable {d : Decimal} {p : Nat} {text : String}

theorem exists_paddedDigits (d : Decimal) : ∃ digits : List (Fin 10),
    d.paddedDigits = digits.map digit ∧ count 0 digits = d.mantissa := by
  obtain ⟨digits, written, counted⟩ := exists_toDigits d.mantissa
  refine ⟨List.replicate (d.scale + 1 - (digits.map digit).length) 0 ++ digits,
    ?_, ?_⟩
  · unfold paddedDigits
    rw [written, List.map_append, List.map_replicate]
    rfl
  · rw [count_append, count_replicate_zero, Nat.zero_mul, counted]

/-- The digits before and behind the point. -/
theorem exists_digits (d : Decimal) : ∃ whole behind : List (Fin 10),
    d.wholeDigits = whole.map digit ∧ d.fractionDigits = behind.map digit ∧
      whole ≠ [] ∧ behind.length = d.scale ∧
      count 0 (whole ++ behind) = d.mantissa := by
  obtain ⟨digits, padded, counted⟩ := exists_paddedDigits d
  have long := d.length_paddedDigits
  rw [padded, List.length_map] at long
  refine ⟨digits.take (digits.length - d.scale),
    digits.drop (digits.length - d.scale), ?_, ?_, ?_, ?_, ?_⟩
  · rw [wholeDigits, padded, List.length_map, List.map_take]
  · rw [fractionDigits, padded, List.length_map, List.map_drop]
  · apply List.ne_nil_of_length_pos
    rw [List.length_take]
    omega
  · rw [List.length_drop]
    omega
  · rw [List.take_append_drop, counted]

/-- What is written with fixed places is a numeral with so many, and what there
is beyond them is cut off. -/
theorem exists_numeral_of_fixed? (written : d.fixed? p = some text) :
    ∃ numeral : Numeral, text = numeral.text ∧ numeral.whole ≠ [] ∧
      numeral.negative = d.negative ∧ numeral.decimals.length = p ∧
      numeral.mantissa =
        d.mantissa * tens (p - d.scale) / tens (d.scale - p) := by
  obtain ⟨whole, behind, whole_eq, behind_eq, starts, length, counted⟩ :=
    exists_digits d
  refine ⟨⟨if d.negative then some .minus else none, whole,
    some (cutTo p 0 behind)⟩, ?_, starts, ?_, length_cutTo p 0 behind, ?_⟩
  · have sign : signText d =
        signChars (if d.negative then some .minus else none) := by
      unfold signText
      cases d.negative <;> rfl
    unfold fixed? at written
    split at written
    · cases written
      have kept := map_digit_cutTo p 0 behind
      rw [show digit 0 = '0' from rfl] at kept
      rw [sign, whole_eq, behind_eq, ← kept, List.append_assoc]
      rfl
    · cases written
  · cases sign : d.negative <;> rfl
  · rw [← counted, ← length]
    exact count_append_cutTo

/-! ## Writing and reading back -/

/-- On the grid of the places that are written nothing but zeros is cut off. -/
theorem value_eq_of_fixed? (on : OnGrid p d.units)
    (written : d.fixed? p = some text) :
    ∃ numeral : Numeral, text = numeral.text ∧ numeral.whole ≠ [] ∧
      d.value = numeral.value := by
  obtain ⟨numeral, text_eq, starts, sign, length, digits⟩ :=
    exists_numeral_of_fixed? written
  refine ⟨numeral, text_eq, starts, ?_⟩
  have exact_digits : numeral.mantissa * tens d.scale = d.mantissa * tens p := by
    rcases Nat.le_total d.scale p with fill | cut
    · rw [digits, Nat.sub_eq_zero_of_le fill, tens_zero, Nat.div_one,
        Nat.mul_assoc, ← tens_add, Nat.sub_add_cancel fill]
    · rw [units_eq_worth, onGrid_worth_iff] at on
      obtain ⟨k, zeros⟩ := exists_digits_of_dvd cut d.scale_le on
      rw [digits, Nat.sub_eq_zero_of_le cut, tens_zero, Nat.mul_one, zeros,
        Nat.mul_div_cancel _ (tens_pos _), Nat.mul_assoc, ← tens_add,
        Nat.sub_add_cancel cut]
  have exact_digits : (numeral.mantissa : Int) * tens d.scale =
      d.mantissa * tens p := by
    exact_mod_cast exact_digits
  rw [value_eq_iff, sign, length, coefficient]
  cases d.negative with
  | false => exact exact_digits.symm
  | true =>
    show -(d.mantissa : Int) * _ = -(numeral.mantissa : Int) * _
    rw [Int.neg_mul, Int.neg_mul, exact_digits]

/-- What is written on a grid is read back. -/
theorem exists_ofText?_of_fixed? (on : OnGrid p d.units)
    (written : d.fixed? p = some text) :
    ∃ read, ofText? text = some read ∧ read.value = d.value := by
  obtain ⟨numeral, rfl, starts, same⟩ := value_eq_of_fixed? on written
  exact exists_ofText? starts same

/-! ## Room -/

/-- Whether the digits before the point leave room for so many places. -/
def FitsColumn (places : Nat) (d : Decimal) : Prop :=
  d.units.natAbs < tens (28 + (fieldWidth - 1 - places))

instance (places : Nat) (d : Decimal) : Decidable (d.FitsColumn places) :=
    inferInstanceAs (Decidable (_ < _))

theorem length_wholeDigits_le_iff {w : Nat} (w_pos : 0 < w) :
    d.wholeDigits.length ≤ w ↔ d.mantissa < tens (w + d.scale) := by
  have digits : (Nat.toDigits 10 d.mantissa).length ≤ w + d.scale ↔
      d.mantissa < tens (w + d.scale) :=
    Nat.length_toDigits_le_iff (by decide) (by omega)
  rw [← digits, wholeDigits, List.length_take, paddedDigits,
    List.length_append, List.length_replicate]
  omega

/-- A decimal is written exactly if there is room for the digits before the
point. -/
theorem exists_fixed?_iff (p_lt : p + 1 < fieldWidth) :
    (∃ text, d.fixed? p = some text) ↔ d.FitsColumn p := by
  have room : d.wholeDigits.length + 1 + p ≤ fieldWidth ↔ d.FitsColumn p := by
    have fewer := @length_wholeDigits_le_iff d (fieldWidth - 1 - p) (by omega)
    have scale_le := d.scale_le
    rw [FitsColumn, natAbs_units,
      show 28 + (fieldWidth - 1 - p) =
        fieldWidth - 1 - p + d.scale + (28 - d.scale) by omega,
      tens_add, Nat.mul_lt_mul_right (tens_pos _), ← fewer]
    omega
  rw [← room]
  unfold fixed?
  split
  case isTrue fits => exact iff_of_true ⟨_, rfl⟩ fits
  case isFalse wide => exact iff_of_false nofun wide

end Decimal

end Passbook
