import Mathlib.Data.List.TakeWhile
import Passbook.Decimal.Numeral
import Passbook.Text.Blank

/-!
# What is read of a numeral

A numeral may have any number of digits, a decimal may not. Digits before the
point are all kept, or nothing is read. Behind the point the first digit that
there is no room for rounds the rest away, and nothing tells that it did. So
what is read is what the numeral says exactly if some decimal is worth that: if
one is, there is room for all digits but zeros.

## Main results

* `Numeral.tail_eq_zero` — what there is no room for are zeros, if a decimal is
  worth the numeral.
* `Numeral.drop_decimals_eq_zero` — behind the places that a worth needs there
  are zeros.
* `Numeral.value_of_ofText?` — which numerals are read exactly.
-/

namespace Passbook

/-- What a decimal is worth. -/
def Decimal.value (d : Decimal) : Rat :=
  mkRat d.coefficient (Decimal.tens d.scale)

namespace Decimal

theorem value_eq_units (d : Decimal) : d.value = mkRat d.units (tens 28) := by
  have pos (n : Nat) : tens n ≠ 0 := Nat.ne_of_gt (tens_pos n)
  have split_tens : (tens 28 : Int) = tens (28 - d.scale) * tens d.scale := by
    rw [← Int.natCast_mul, ← tens_add, Nat.sub_add_cancel d.scale_le]
  unfold value units
  rw [Rat.mkRat_eq_iff (pos _) (pos _), split_tens, Int.mul_assoc]

theorem value_normalize (d : Decimal) : d.normalize.value = d.value := by
  rw [value_eq_units, units_normalize, ← value_eq_units]

end Decimal

/-- A sign in front of a numeral. -/
inductive Sign where
  | plus
  | minus

/-- A decimal numeral of any length. -/
structure Numeral where
  sign : Option Sign
  /-- The digits before the point. -/
  whole : List (Fin 10)
  /-- The digits behind the point, if there is a point. -/
  fraction : Option (List (Fin 10))

namespace Numeral

open Decimal

/-! ## Digits -/

/-- How a digit is written. -/
def digit (k : Fin 10) : Char := Nat.digitChar k

theorem isDigit_digit : ∀ k, (digit k).isDigit = true := by decide

theorem toNat_digit : ∀ k, (digit k).toNat - '0'.toNat = k.val := by decide

/-- Reads digits onto a number. -/
def count (n : Nat) (digits : List (Fin 10)) : Nat :=
  digits.foldl (fun n k => n * 10 + k.val) n

theorem count_cons (n : Nat) (k : Fin 10) (digits : List (Fin 10)) :
    count n (k :: digits) = count (n * 10 + k.val) digits := rfl

theorem count_append (n : Nat) (first second : List (Fin 10)) :
    count n (first ++ second) = count (count n first) second :=
  List.foldl_append

theorem count_eq (n : Nat) (digits : List (Fin 10)) :
    count n digits = n * tens digits.length + count 0 digits := by
  induction digits generalizing n with
  | nil => simp [count]
  | cons k rest ih =>
    rw [count_cons, count_cons, Nat.zero_mul, Nat.zero_add, ih, ih k.val,
      List.length_cons, tens_succ, Nat.add_mul, Nat.mul_assoc, Nat.mul_comm 10,
      Nat.add_assoc]

theorem count_zero_cons (k : Fin 10) (digits : List (Fin 10)) :
    count 0 (k :: digits) = k.val * tens digits.length + count 0 digits := by
  rw [count_cons, Nat.zero_mul, Nat.zero_add, count_eq]

theorem count_lt (digits : List (Fin 10)) :
    count 0 digits < tens digits.length := by
  induction digits with
  | nil => exact Nat.one_pos
  | cons k rest ih =>
    have k_lt := k.isLt
    have bound : (k.val + 1) * tens rest.length ≤ 10 * tens rest.length :=
      Nat.mul_le_mul_right _ k_lt
    rw [Nat.add_mul] at bound
    rw [count_zero_cons, List.length_cons, tens_succ]
    omega

theorem eq_zero_of_count {digits : List (Fin 10)} (zero : count 0 digits = 0) :
    ∀ k ∈ digits, k = 0 := by
  induction digits with
  | nil => exact nofun
  | cons k rest ih =>
    rw [count_zero_cons, Nat.add_eq_zero_iff, Nat.mul_eq_zero] at zero
    have pos := tens_pos rest.length
    have k_zero : k = 0 := by omega
    exact List.forall_mem_cons.2 ⟨k_zero, ih zero.2⟩

/-- If a worth has no more than `s` places, then the digits behind these are
zeros. -/
theorem count_eq_zero_of_le {M m s t : Nat} {digits : List (Fin 10)}
    (t_le : t ≤ s)
    (same : M * tens (s + digits.length) = count m digits * tens t) :
    count 0 digits = 0 := by
  have shifted : M * tens (s - t) * tens digits.length = count m digits := by
    apply Nat.eq_of_mul_eq_mul_right (tens_pos t)
    rw [← same, Nat.mul_assoc, Nat.mul_assoc, ← tens_add, ← tens_add,
      show s - t + (digits.length + t) = s + digits.length by omega]
  have remainder : M * tens (s - t) * tens digits.length %
      tens digits.length = count m digits % tens digits.length := by
    rw [shifted]
  rw [Nat.mul_mod_left, count_eq, Nat.add_comm, Nat.add_mul_mod_self_right,
    Nat.mod_eq_of_lt (count_lt _)] at remainder
  exact remainder.symm

/-! ## Numerals -/

/-- The digits behind the point. -/
def decimals (numeral : Numeral) : List (Fin 10) := numeral.fraction.getD []

/-- How a sign is written. -/
def signChars : Option Sign → List Char
  | none => []
  | some .plus => ['+']
  | some .minus => ['-']

/-- How a fraction is written. -/
def fractionChars : Option (List (Fin 10)) → List Char
  | none => []
  | some digits => '.' :: digits.map digit

/-- The numeral without its sign. -/
def body (numeral : Numeral) : List Char :=
  numeral.whole.map digit ++ fractionChars numeral.fraction

/-- How a numeral is written. -/
def text (numeral : Numeral) : String :=
  String.ofList (signChars numeral.sign ++ numeral.body)

/-- All digits, read as one natural number. -/
def mantissa (numeral : Numeral) : Nat :=
  count 0 (numeral.whole ++ numeral.decimals)

/-- Whether there is a minus sign. -/
def negative (numeral : Numeral) : Bool :=
  match numeral.sign with
  | some .minus => true
  | _ => false

/-- What a numeral says, exactly. -/
def value (numeral : Numeral) : Rat :=
  mkRat (if numeral.negative then -(numeral.mantissa : Int)
    else numeral.mantissa) (tens numeral.decimals.length)

/-! ## Scanning -/

section

variable {point seen : Bool} {m s k : Nat} {digits : List (Fin 10)}
  {rest : List Char} {read : Nat × Nat}

/-- What becomes of a digit: it is kept, or it is the first one that is not. -/
theorem scan_digit (point seen : Bool) (m s : Nat) (k : Fin 10)
    (rest : List Char) :
    scan point seen m s (digit k :: rest) =
      if (point && s == 28) || mantissaBound ≤ m * 10 + k.val then
        if point && rest.all isTail then roundUp? m s k.val else none
      else
        scan point true (m * 10 + k.val) (if point then s + 1 else 0) rest := by
  rw [scan, isDigit_digit, toNat_digit]
  rfl

/-- Digits before the point are all kept. -/
theorem exists_scan_whole
    (scanned : scan false seen m 0 (digits.map digit ++ rest) = some read) :
    ∃ seen', scan false seen' (count m digits) 0 rest = some read := by
  induction digits generalizing seen m with
  | nil => exact ⟨seen, scanned⟩
  | cons k digits ih =>
    rw [List.map_cons, List.cons_append, scan_digit] at scanned
    split at scanned
    · cases scanned
    · exact ih scanned

/-- If a decimal is worth the digits, then all are zeros from the first one on
that there is no room for. -/
theorem tail_eq_zero {k : Fin 10} {M t : Nat} (M_lt : M < mantissaBound)
    (t_le : t ≤ 28)
    (same : M * tens (s + (k :: digits).length) =
      count m (k :: digits) * tens t)
    (full : s = 28 ∨ mantissaBound ≤ m * 10 + k.val) :
    count 0 (k :: digits) = 0 := by
  rcases Nat.lt_or_ge s t with finer | coarser
  · -- the worth would need at least as many digits as there is no room for
    have no_room : mantissaBound ≤ m * 10 + k.val := by omega
    exfalso
    have more : (m * 10 + k.val) * tens digits.length ≤
        count m (k :: digits) := by
      rw [count_cons, count_eq]
      exact Nat.le_add_right _ _
    have shifted : M * tens (k :: digits).length =
        count m (k :: digits) * tens (t - s) := by
      apply Nat.eq_of_mul_eq_mul_right (tens_pos s)
      rw [Nat.mul_assoc, ← tens_add, Nat.add_comm _ s, same, Nat.mul_assoc,
        ← tens_add, Nat.sub_add_cancel (Nat.le_of_lt finer)]
    have bounded : mantissaBound * tens (k :: digits).length ≤
        M * tens (k :: digits).length := by
      calc mantissaBound * tens (k :: digits).length
          = mantissaBound * tens digits.length * 10 := by
            rw [List.length_cons, tens_succ, Nat.mul_assoc]
        _ ≤ count m (k :: digits) * tens (t - s) :=
            Nat.mul_le_mul
              (Nat.le_trans (Nat.mul_le_mul_right _ no_room) more)
              (ten_le_tens (by omega))
        _ = M * tens (k :: digits).length := shifted.symm
    have M_ge := Nat.le_of_mul_le_mul_right bounded (tens_pos _)
    omega
  · exact count_eq_zero_of_le coarser same

/-- Digits behind the point are read exactly if a decimal is worth them. -/
theorem scan_fraction {M t : Nat} (M_lt : M < mantissaBound) (t_le : t ≤ 28)
    (same : M * tens (s + digits.length) = count m digits * tens t)
    (scanned : scan true seen m s (digits.map digit) = some read) :
    read.1 * tens (s + digits.length) = count m digits * tens read.2 := by
  induction digits generalizing seen m s with
  | nil =>
    rw [List.map_nil, scan] at scanned
    split at scanned
    · cases scanned
      rfl
    · cases scanned
  | cons k digits ih =>
    rw [List.map_cons, scan_digit] at scanned
    split at scanned
    case isTrue full =>
      have full : s = 28 ∨ mantissaBound ≤ m * 10 + k.val := by
        simpa using full
      have zeros := tail_eq_zero M_lt t_le same full
      have k_zero : k = 0 := eq_zero_of_count zeros k List.mem_cons_self
      split at scanned
      · rw [k_zero] at scanned
        cases scanned
        rw [count_eq, zeros, Nat.add_zero, Nat.mul_assoc, ← tens_add,
          Nat.add_comm s]
      · cases scanned
    case isFalse =>
      rw [if_pos rfl] at scanned
      rw [List.length_cons, show s + (digits.length + 1) =
        s + 1 + digits.length by omega] at same ⊢
      exact ih same scanned

/-- All digits are read exactly if a decimal is worth them. -/
theorem scan_body {numeral : Numeral} {M t : Nat} (M_lt : M < mantissaBound)
    (t_le : t ≤ 28)
    (same : M * tens numeral.decimals.length = numeral.mantissa * tens t)
    (scanned : scan false false 0 0 numeral.body = some read) :
    read.1 * tens numeral.decimals.length =
      numeral.mantissa * tens read.2 := by
  obtain ⟨seen, scanned⟩ := exists_scan_whole scanned
  unfold mantissa decimals at same ⊢
  cases fraction : numeral.fraction with
  | none =>
    rw [fraction, fractionChars, scan] at scanned
    split at scanned
    · cases scanned
      rw [Option.getD_none, List.append_nil]
      rfl
    · cases scanned
  | some digits =>
    rw [fraction, fractionChars, scan] at scanned
    rw [fraction, Option.getD_some, count_append] at same
    rw [Option.getD_some, count_append, ← Nat.zero_add digits.length]
    rw [← Nat.zero_add digits.length] at same
    exact scan_fraction M_lt t_le same scanned

end

/-! ## Reading -/

section

variable {numeral : Numeral} {cs : List Char} {d : Decimal}

theorem plain?_cons_of_ne {c : Char} (not_minus : c ≠ '-')
    (not_plus : c ≠ '+') : plain? (c :: cs) = unsigned? false (c :: cs) := by
  unfold plain?
  split
  case h_1 eq => exact absurd (List.cons.inj eq).1 not_minus
  case h_2 eq => exact absurd (List.cons.inj eq).1 not_plus
  case h_3 => rfl

theorem digit_ne_minus : ∀ k, digit k ≠ '-' := by decide

theorem digit_ne_plus : ∀ k, digit k ≠ '+' := by decide

theorem plain?_chars (numeral : Numeral) :
    plain? (signChars numeral.sign ++ numeral.body) =
      unsigned? numeral.negative numeral.body := by
  obtain ⟨sign, whole, fraction⟩ := numeral
  match sign, whole, fraction with
  | some .plus, _, _ => rfl
  | some .minus, _, _ => rfl
  | none, k :: _, _ =>
    exact plain?_cons_of_ne (digit_ne_minus k) (digit_ne_plus k)
  | none, [], some _ => rfl
  | none, [], none => rfl

/-- What holds of digits, signs and the point holds of every character. -/
theorem forall_mem_chars {P : Char → Prop} (digits : ∀ k, P (digit k))
    (plus : P '+') (minus : P '-') (point : P '.') (numeral : Numeral) :
    ∀ c ∈ signChars numeral.sign ++ numeral.body, P c := by
  obtain ⟨sign, whole, fraction⟩ := numeral
  have all : ∀ ks : List (Fin 10), ∀ c ∈ ks.map digit, P c :=
    fun ks => List.forall_mem_map.2 fun k _ => digits k
  refine List.forall_mem_append.2
    ⟨?_, List.forall_mem_append.2 ⟨all whole, ?_⟩⟩
  · match sign with
    | none => exact nofun
    | some .plus => exact List.forall_mem_singleton.2 plus
    | some .minus => exact List.forall_mem_singleton.2 minus
  · cases fraction with
    | none => exact nofun
    | some ks => exact List.forall_mem_cons.2 ⟨point, all ks⟩

/-- A numeral has no exponent. -/
theorem scientific?_chars (numeral : Numeral) :
    scientific? (signChars numeral.sign ++ numeral.body) = none := by
  have unmarked := forall_mem_chars
    (P := fun c => (!isExponentMark c) = true) (by decide) (by decide)
    (by decide) (by decide) numeral
  unfold scientific?
  rw [List.dropWhile_eq_nil_iff.2 unmarked]

/-- There are no blanks around a numeral. -/
theorem trim_text (numeral : Numeral) :
    Text.trim numeral.text = numeral.text := by
  have marked := forall_mem_chars (P := fun c => ¬ Text.isBlank c = true)
    (by decide) (by decide) (by decide) (by decide) numeral
  have keeps : ∀ cs : List Char, (∀ c ∈ cs, ¬ Text.isBlank c = true) →
      cs.dropWhile Text.isBlank = cs := by
    intro cs unblank
    cases cs with
    | nil => rfl
    | cons c cs =>
      exact List.dropWhile_cons_of_neg (unblank c List.mem_cons_self)
  unfold Text.trim Text.trimChars text
  rw [String.toList_ofList, keeps _ marked, keeps, List.reverse_reverse]
  intro c mem
  exact marked c (List.mem_reverse.1 mem)

theorem ofText?_text (numeral : Numeral) :
    ofText? numeral.text = unsigned? numeral.negative numeral.body := by
  unfold ofText? ofChars? text
  rw [String.toList_ofList, scientific?_chars, Option.or_none, plain?_chars]

theorem coefficient_signed {negative : Bool} {m s : Nat}
    (m_lt : m < mantissaBound) (s_le : s ≤ 28) :
    (signed negative m s m_lt s_le).coefficient =
      if negative then -(m : Int) else m := by
  unfold coefficient signed
  cases negative <;> by_cases none : m = 0 <;> simp [none]

theorem value_eq_iff :
    d.value = numeral.value ↔
      d.coefficient * tens numeral.decimals.length =
        (if numeral.negative then -(numeral.mantissa : Int)
          else numeral.mantissa) * tens d.scale :=
  Rat.mkRat_eq_iff (Nat.ne_of_gt (tens_pos _)) (Nat.ne_of_gt (tens_pos _))

/-- A decimal has the digits of a numeral if it is worth it. -/
theorem mantissa_of_value_eq (same : d.value = numeral.value) :
    d.mantissa * tens numeral.decimals.length =
      numeral.mantissa * tens d.scale := by
  have sizes := congrArg Int.natAbs (value_eq_iff.1 same)
  rw [Int.natAbs_mul, Int.natAbs_mul, Int.natAbs_natCast,
    Int.natAbs_natCast] at sizes
  have left : d.coefficient.natAbs = d.mantissa := by
    unfold coefficient
    split <;> omega
  have right : (if numeral.negative then -(numeral.mantissa : Int)
      else numeral.mantissa).natAbs = numeral.mantissa := by
    split <;> omega
  rwa [left, right] at sizes

/-- What is worth no more than `p` places is written with zeros behind them. -/
theorem drop_decimals_eq_zero {p : Nat} (same : d.value = numeral.value)
    (le : d.places ≤ p) : ∀ k ∈ numeral.decimals.drop p, k = 0 := by
  rcases Nat.le_total numeral.decimals.length p with short | long
  · rw [List.drop_eq_nil_of_le short]
    exact nofun
  · rw [← value_normalize] at same
    have digits := mantissa_of_value_eq same
    have mantissa_eq : numeral.mantissa =
        count (count 0 (numeral.whole ++ numeral.decimals.take p))
          (numeral.decimals.drop p) := by
      rw [← count_append, List.append_assoc, List.take_append_drop]
      rfl
    have length_eq : numeral.decimals.length =
        p + (numeral.decimals.drop p).length := by
      rw [List.length_drop]
      omega
    rw [mantissa_eq, length_eq] at digits
    exact eq_zero_of_count (count_eq_zero_of_le le digits)

/-- What is read of a numeral is worth it exactly if some decimal is. -/
theorem value_of_ofText? (read : ofText? numeral.text = some d) :
    d.value = numeral.value ↔ ∃ d' : Decimal, d'.value = numeral.value := by
  constructor
  · intro same
    exact ⟨d, same⟩
  · rintro ⟨d', same⟩
    rw [ofText?_text] at read
    obtain ⟨⟨m, s⟩, scanned, parts⟩ := Option.bind_eq_some_iff.1 read
    have digits := scan_body d'.mantissa_lt d'.scale_le
      (mantissa_of_value_eq same) scanned
    have parts : ofParts? numeral.negative m s = some d := parts
    unfold ofParts? at parts
    split at parts
    · cases parts
      rw [value_eq_iff, coefficient_signed]
      have digits : (m : Int) * tens numeral.decimals.length =
          numeral.mantissa * tens s := by exact_mod_cast digits
      cases numeral.negative with
      | false => exact digits
      | true =>
        show -(m : Int) * _ = -(numeral.mantissa : Int) * _
        rw [Int.neg_mul, Int.neg_mul, digits]
        rfl
    · cases parts

end

end Numeral

end Passbook
