import Mathlib.Data.List.Basic
import Passbook.Account.Kind
import Passbook.Principal
import Passbook.Proofs.Decimal.Fixed

/-!
# How ids, principals and kinds of account are written

Each reader is compared with what it is to read. An id has one text, three
digits behind its letters, and its reader takes that text alone. Principals and
kinds have several, as letter case does not matter to keywords, and a kind is
written along with a parameter that may be left out.

## Main results

* `threeDigits?_eq_some_iff` — three digits are a number with leading zeros.
* `AccountId.parse_eq_ok_iff`, `OwnerId.parse_eq_ok_iff`,
  `Principal.parse_eq_ok_iff`, `AccountKind.parse_eq_ok_iff` — what each reader
  takes, and what it makes of it.
-/

namespace Passbook

open Decimal (tens tens_pos)
open Numeral

/-! ## Three digits -/

namespace Numeral

theorem exists_digit {c : Char} (is_digit : c.isDigit = true) :
    ∃ k : Fin 10, c = digit k := by
  have bounds : 48 ≤ c.toNat ∧ c.toNat ≤ 57 := by
    simpa [Char.isDigit, UInt32.le_iff_toNat_le] using is_digit
  have of_code : ∀ k : Fin 10, Char.ofNat (48 + k.val) = digit k := by decide
  refine ⟨⟨c.toNat - 48, by omega⟩, ?_⟩
  rw [← of_code, Nat.add_sub_cancel' bounds.1, Char.ofNat_toNat]

/-- As many digits that make the same number are the same digits. -/
theorem eq_of_count_eq {first second : List (Fin 10)}
    (length_eq : first.length = second.length)
    (count_eq : count 0 first = count 0 second) : first = second := by
  induction first generalizing second with
  | nil => exact (List.eq_nil_of_length_eq_zero length_eq.symm).symm
  | cons k rest ih =>
    cases second with
    | nil => cases length_eq
    | cons j others =>
      have rest_eq : rest.length = others.length := Nat.succ.inj length_eq
      have rest_lt := count_lt rest
      have others_lt := count_lt others
      rw [count_zero_cons, count_zero_cons, rest_eq] at count_eq
      rw [rest_eq] at rest_lt
      have quotient (q : Fin 10) {r : Nat} (small : r < tens others.length) :
          (q.val * tens others.length + r) / tens others.length = q.val := by
        rw [Nat.mul_comm, Nat.mul_add_div (tens_pos _), Nat.div_eq_of_lt small,
          Nat.add_zero]
      have k_eq : k.val = j.val := by
        rw [← quotient k rest_lt, count_eq, quotient j others_lt]
      rw [k_eq] at count_eq
      rw [ih rest_eq (Nat.add_left_cancel count_eq), Fin.ext k_eq]

end Numeral

theorem all_isDigit_digits (x y z : Fin 10) :
    [digit x, digit y, digit z].all Char.isDigit = true := by
  simp only [List.all_cons, List.all_nil, isDigit_digit, Bool.and_self]

theorem threeDigits?_digits (x y z : Fin 10) :
    threeDigits? [digit x, digit y, digit z] = some (count 0 [x, y, z]) := by
  rw [threeDigits?, if_pos (all_isDigit_digits x y z)]
  simp only [Nat.ofDigitChars, List.foldl_cons, List.foldl_nil, toNat_digit,
    count, Nat.mul_comm 10]

theorem exists_zeroPadded {n : Nat} (lt : n < 1000) : ∃ x y z : Fin 10,
    Text.zeroPadded 3 n = [digit x, digit y, digit z] ∧
      count 0 [x, y, z] = n := by
  obtain ⟨digits, written, counted⟩ := exists_toDigits n
  have short : digits.length ≤ 3 := by
    rw [← List.length_map digit, ← written]
    exact (Nat.length_toDigits_le_iff (by decide) (by decide)).2 lt
  have padded : Text.zeroPadded 3 n =
      (List.replicate (3 - digits.length) 0 ++ digits).map digit := by
    rw [List.map_append, List.map_replicate, ← written,
      ← List.length_map digit, ← written]
    rfl
  have three : (List.replicate (3 - digits.length) 0 ++ digits).length = 3 := by
    rw [List.length_append, List.length_replicate]
    omega
  obtain ⟨x, y, z, digits_eq⟩ := List.length_eq_three.1 three
  refine ⟨x, y, z, by rw [padded, digits_eq]; rfl, ?_⟩
  rw [← digits_eq, count_append, count_replicate_zero, Nat.zero_mul, counted]

/-- Three digits are a number below 1000 with leading zeros. -/
theorem threeDigits?_eq_some_iff {cs : List Char} {n : Nat} :
    threeDigits? cs = some n ↔ n < 1000 ∧ cs = Text.zeroPadded 3 n := by
  constructor
  · intro read
    unfold threeDigits? at read
    split at read
    case h_1 a b c =>
      split at read
      case isTrue digits =>
        simp only [List.all_cons, List.all_nil, Bool.and_true,
          Bool.and_eq_true] at digits
        obtain ⟨x, rfl⟩ := exists_digit digits.1
        obtain ⟨y, rfl⟩ := exists_digit digits.2.1
        obtain ⟨z, rfl⟩ := exists_digit digits.2.2
        have counted : count 0 [x, y, z] = n := by
          have again := threeDigits?_digits x y z
          rw [threeDigits?, if_pos (all_isDigit_digits x y z)] at again
          exact Option.some.inj (again.symm.trans read)
        have lt : n < tens 3 := by
          rw [← counted]
          exact count_lt [x, y, z]
        obtain ⟨x', y', z', padded, same⟩ := exists_zeroPadded lt
        have digits_eq : [x, y, z] = [x', y', z'] :=
          eq_of_count_eq rfl (counted.trans same.symm)
        refine ⟨lt, ?_⟩
        rw [padded]
        exact congrArg (List.map digit) digits_eq
      case isFalse => cases read
    case h_2 => cases read
  · rintro ⟨lt, rfl⟩
    obtain ⟨x, y, z, padded, counted⟩ := exists_zeroPadded lt
    rw [padded, threeDigits?_digits, counted]

/-! ## Ids -/

theorem AccountId.ofText?_eq_some_iff {s : String} {id : AccountId} :
    ofText? s = some id ↔ s = id.text := by
  have text_iff : s = id.text ↔
      s.toList = 'A' :: 'C' :: 'C' :: Text.zeroPadded 3 id.number := by
    rw [← String.toList_inj, text, String.toList_ofList]
    rfl
  rw [text_iff]
  unfold ofText?
  split
  case h_1 digits chars =>
    rw [chars, Option.bind_eq_some_iff]
    simp only [threeDigits?_eq_some_iff, ofNumber?_eq_some_iff, List.cons.injEq,
      true_and]
    exact ⟨fun ⟨n, ⟨_, written⟩, number_eq⟩ => number_eq ▸ written,
      fun written => ⟨id.number, ⟨id.number_lt, written⟩, rfl⟩⟩
  case h_2 other =>
    exact iff_of_false nofun fun chars => other _ chars

theorem AccountId.parse_eq_ok_iff {s : String} {id : AccountId} :
    parse s = .ok id ↔ s = id.text := by
  rw [← ofText?_eq_some_iff]
  unfold parse
  cases ofText? s <;> simp

theorem OwnerId.ofNumber?_eq_some_iff {n : Nat} {owner : OwnerId} :
    ofNumber? n = some owner ↔ owner.number = n := by
  constructor
  · intro found
    unfold ofNumber? at found
    split at found
    · cases found
      rfl
    · cases found
  · rintro rfl
    exact dif_pos owner.number_lt

theorem OwnerId.ofText?_eq_some_iff {s : String} {owner : OwnerId} :
    ofText? s = some owner ↔ s = owner.text := by
  have text_iff : s = owner.text ↔
      s.toList = 'C' :: Text.zeroPadded 3 owner.number := by
    rw [← String.toList_inj, text, String.toList_ofList]
  rw [text_iff]
  unfold ofText?
  split
  case h_1 digits chars =>
    rw [chars, Option.bind_eq_some_iff]
    simp only [threeDigits?_eq_some_iff, ofNumber?_eq_some_iff, List.cons.injEq,
      true_and]
    exact ⟨fun ⟨n, ⟨_, written⟩, number_eq⟩ => number_eq ▸ written,
      fun written => ⟨owner.number, ⟨owner.number_lt, written⟩, rfl⟩⟩
  case h_2 other =>
    exact iff_of_false nofun fun chars => other _ chars

theorem OwnerId.parse_eq_ok_iff {s : String} {owner : OwnerId} :
    parse s = .ok owner ↔ s = owner.text := by
  rw [← ofText?_eq_some_iff]
  unfold parse
  cases ofText? s <;> simp

/-! ## Principals -/

namespace Principal

/-- How a principal can be written, blanks around it aside. -/
inductive Written : List Char → Principal → Prop
  | nobody : Written [] anonymous
  | anonymous {cs : List Char}
      (word : Text.lowerChars cs = "anonymous".toList) :
      Written cs anonymous
  | administrator {cs : List Char}
      (word : Text.lowerChars cs = "admin".toList ∨
        Text.lowerChars cs = "administrator".toList) :
      Written cs administrator
  /-- Blanks are allowed around the owner, and none in front of the colon. -/
  | holder {role behind : List Char} {owner : OwnerId}
      (word : Text.lowerChars role = "holder".toList)
      (named : String.ofList (Text.trimChars behind) = owner.text) :
      Written (role ++ ':' :: behind) (holder owner)

theorem ofChars_eq_ok {cs : List Char} {principal : Principal}
    (read : ofChars cs = .ok principal) : Written cs principal := by
  unfold ofChars at read
  dsimp only at read
  split at read
  case isTrue word =>
    cases read
    rcases word with nothing | word
    · cases List.map_eq_nil_iff.1 nothing
      exact .nobody
    · exact .anonymous word
  case isFalse =>
    split at read
    case isTrue word =>
      cases read
      exact .administrator word
    case isFalse =>
      split at read
      case h_1 colon behind split_eq =>
        split at read
        case isTrue word =>
          cases named : OwnerId.parse (String.ofList (Text.trimChars behind)) with
          | error fault =>
            rw [named] at read
            cases read
          | ok owner =>
            rw [named] at read
            cases read
            have colon_eq : colon = ':' := by
              simpa using Text.dropWhile_head_not split_eq
            have parts := List.takeWhile_append_dropWhile (p := (· != ':'))
              (l := cs)
            rw [split_eq, colon_eq] at parts
            rw [← parts]
            exact .holder word (OwnerId.parse_eq_ok_iff.1 named)
        case isFalse => cases read
      case h_2 => cases read

theorem mem_lowerChars_of_colon {cs : List Char} (mem : ':' ∈ cs) :
    ':' ∈ Text.lowerChars cs :=
  List.mem_map.2 ⟨':', mem, rfl⟩

/-- The role of a holder ends where the colon is. -/
theorem ofChars_holder {role : List Char} (behind : List Char)
    (word : Text.lowerChars role = "holder".toList) :
    ofChars (role ++ ':' :: behind) =
      (OwnerId.parse (String.ofList (Text.trimChars behind))).map holder := by
  have colon := mem_lowerChars_of_colon
    (List.mem_append_right role (List.mem_cons_self (a := ':') (l := behind)))
  have no_word {keyword : List Char} (none : ':' ∉ keyword) :
      Text.lowerChars (role ++ ':' :: behind) ≠ keyword :=
    fun eq => none (eq ▸ colon)
  have no_colon : ∀ c ∈ role, (c != ':') = true := by
    intro c mem
    rw [bne_iff_ne]
    rintro rfl
    have lower_mem := mem_lowerChars_of_colon mem
    rw [word] at lower_mem
    exact absurd lower_mem (by decide)
  have role_eq : (role ++ ':' :: behind).takeWhile (· != ':') = role := by
    rw [List.takeWhile_append_of_pos no_colon]
    exact List.append_nil role
  have rest_eq : (role ++ ':' :: behind).dropWhile (· != ':') =
      ':' :: behind := by
    rw [List.dropWhile_append_of_pos no_colon]
    rfl
  unfold ofChars
  dsimp only
  rw [if_neg (not_or.2 ⟨no_word List.not_mem_nil, no_word (by decide)⟩),
    if_neg (not_or.2 ⟨no_word (by decide), no_word (by decide)⟩), rest_eq,
    role_eq]
  exact if_pos word

theorem ofChars_of_written {cs : List Char} {principal : Principal}
    (written : Written cs principal) : ofChars cs = .ok principal := by
  cases written with
  | nobody => rfl
  | anonymous word => exact if_pos (Or.inr word)
  | administrator word =>
    have other : ¬ (Text.lowerChars cs = [] ∨
        Text.lowerChars cs = "anonymous".toList) := by
      rcases word with word | word <;> rw [word] <;> decide
    unfold ofChars
    exact (if_neg other).trans (if_pos word)
  | holder word named =>
    rw [ofChars_holder _ word, OwnerId.parse_eq_ok_iff.2 named]
    rfl

/-- What is read as a principal. -/
theorem parse_eq_ok_iff {s : String} {principal : Principal} :
    parse s = .ok principal ↔ Written (Text.trimChars s.toList) principal :=
  ⟨ofChars_eq_ok, ofChars_of_written⟩

end Principal

/-! ## Kinds of account -/

namespace AccountKind

/-- How a kind can be written, with its parameter if there is one. -/
inductive Written (name : String) (parameter : Option Decimal) :
    AccountKind → Prop
  /-- The rate is between 0 and 1. -/
  | savings
      (word : Text.lower (Text.trim name) ∈
        ["non_overdraft", "nonoverdraft", "savings"])
      (not_negative : 0 ≤ (parameter.getD defaultRate).units)
      (le_one : (parameter.getD defaultRate).units ≤ Decimal.one.units) :
      Written name parameter (savings (parameter.getD defaultRate))
  /-- The limit is an amount of money, and not negative. -/
  | checking
      (word : Text.lower (Text.trim name) ∈ ["overdraft", "checking"])
      (not_negative : 0 ≤ (parameter.getD defaultLimit).units)
      (precise : (parameter.getD defaultLimit).places ≤ moneyPlaces) :
      Written name parameter (checking (parameter.getD defaultLimit))

theorem parse_eq_ok_iff {name : String} {parameter : Option Decimal}
    {kind : AccountKind} :
    parse name parameter = .ok kind ↔ Written name parameter kind := by
  have saves_iff : (Text.lower (Text.trim name) = "non_overdraft" ∨
      Text.lower (Text.trim name) = "nonoverdraft" ∨
        Text.lower (Text.trim name) = "savings") ↔
      Text.lower (Text.trim name) ∈
        ["non_overdraft", "nonoverdraft", "savings"] := by
    simp
  have checks_iff : (Text.lower (Text.trim name) = "overdraft" ∨
      Text.lower (Text.trim name) = "checking") ↔
      Text.lower (Text.trim name) ∈ ["overdraft", "checking"] := by
    simp
  unfold parse
  dsimp only
  constructor
  · intro read
    split at read
    case isTrue word =>
      obtain ⟨rfl, bounds⟩ := validate_savings_eq_ok_iff.1 read
      exact .savings (saves_iff.1 word) bounds.1 bounds.2
    case isFalse =>
      split at read
      case isTrue word =>
        obtain ⟨rfl, bounds⟩ := validate_checking_eq_ok_iff.1 read
        exact .checking (checks_iff.1 word) bounds.1 bounds.2
      case isFalse => cases read
  · intro written
    cases written with
    | savings word not_negative le_one =>
      rw [if_pos (saves_iff.2 word)]
      exact validate_savings_eq_ok_iff.2 ⟨rfl, not_negative, le_one⟩
    | checking word not_negative precise =>
      have other : ¬ Text.lower (Text.trim name) ∈
          ["non_overdraft", "nonoverdraft", "savings"] := by
        intro saves
        simp only [List.mem_cons, List.not_mem_nil, or_false] at word saves
        rcases word with word | word <;> rw [word] at saves <;>
          exact absurd saves (by decide)
      rw [if_neg fun saves => other (saves_iff.1 saves),
        if_pos (checks_iff.2 word)]
      exact validate_checking_eq_ok_iff.2 ⟨rfl, not_negative, precise⟩

end AccountKind

end Passbook
