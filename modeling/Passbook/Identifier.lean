import Passbook.Fault
import Passbook.Text.Blank

/-!
# Account and owner ids

An account id is `ACC` and three digits, an owner id `C` and three digits. An id
*is* its number below 1000; the text is a way to write it, and text order is
number order since all texts of one kind are equally long.

## Main results

* `AccountId.ofNumber?_eq_some_iff` — ids and numbers below 1000 are the same
  thing.
* `AccountId.ext_number` — an id is determined by its number.
* `AccountId.issue_eq_ok_iff` — the id of a number is issued unless there is
  none.
-/

namespace Passbook

/-- Names an account. -/
structure AccountId where
  number : Nat
  number_lt : number < 1000
deriving DecidableEq

/-- Names a customer. -/
structure OwnerId where
  number : Nat
  number_lt : number < 1000
deriving DecidableEq

/-- Reads exactly three digits. -/
def threeDigits? : List Char → Option Nat
  | [a, b, c] =>
    if [a, b, c].all Char.isDigit then
      some (Nat.ofDigitChars 10 [a, b, c] 0) else none
  | _ => none

namespace AccountId

theorem ext_number {a b : AccountId} (h : a.number = b.number) : a = b := by
  cases a; cases b; simp_all

/-- Ids are ordered by number. -/
instance : LT AccountId := ⟨fun a b => a.number < b.number⟩

instance : LE AccountId := ⟨fun a b => a.number ≤ b.number⟩

theorem lt_iff {a b : AccountId} : a < b ↔ a.number < b.number := Iff.rfl

instance (a b : AccountId) : Decidable (a < b) :=
    inferInstanceAs (Decidable (a.number < b.number))

instance (a b : AccountId) : Decidable (a ≤ b) :=
    inferInstanceAs (Decidable (a.number ≤ b.number))

/-- The largest number an id can carry. -/
def maxNumber : Nat := 999

/-- The id with this number. -/
def ofNumber? (n : Nat) : Option AccountId :=
  if h : n < 1000 then some ⟨n, h⟩ else none

theorem ofNumber?_eq_some_iff {n : Nat} {id : AccountId} :
    ofNumber? n = some id ↔ id.number = n := by
  constructor
  · intro h
    unfold ofNumber? at h
    split at h
    · simp only [Option.some.injEq] at h
      rw [← h]
    · simp at h
  · rintro rfl
    simp [ofNumber?, id.number_lt]

theorem ofNumber?_eq_none_iff {n : Nat} : ofNumber? n = none ↔ 1000 ≤ n := by
  simp [ofNumber?]

/-- The id with this number, or the fault that there are no more ids. -/
def issue (n : Nat) : Except Fault AccountId :=
  match ofNumber? n with
  | some id => .ok id
  | none => .error .idsExhausted

theorem issue_eq_ok_iff {n : Nat} {id : AccountId} :
    issue n = .ok id ↔ id.number = n := by
  rw [← ofNumber?_eq_some_iff]
  unfold issue
  cases ofNumber? n <;> simp

theorem issue_eq_error_iff {n : Nat} {fault : Fault} :
    issue n = .error fault ↔ maxNumber < n ∧ fault = .idsExhausted := by
  have none_iff : ofNumber? n = none ↔ maxNumber < n := ofNumber?_eq_none_iff
  rw [← none_iff]
  unfold issue
  cases ofNumber? n <;> simp [eq_comm]

/-- `ACC` and the number in three digits. -/
def text (id : AccountId) : String :=
  String.ofList ("ACC".toList ++ Text.zeroPadded 3 id.number)

instance : ToString AccountId := ⟨text⟩

/-- Reads `ACC` and three digits, and nothing else. -/
def ofText? (s : String) : Option AccountId :=
  match s.toList with
  | 'A' :: 'C' :: 'C' :: digits => (threeDigits? digits).bind ofNumber?
  | _ => none

/-- Reads an account id. -/
def parse (s : String) : Except Fault AccountId :=
  match ofText? s with
  | some id => .ok id
  | none => .error (.malformedAccountId s)

end AccountId

namespace OwnerId

/-- The id with this number. -/
def ofNumber? (n : Nat) : Option OwnerId :=
  if h : n < 1000 then some ⟨n, h⟩ else none

/-- `C` and the number in three digits. -/
def text (id : OwnerId) : String :=
    String.ofList ('C' :: Text.zeroPadded 3 id.number)

instance : ToString OwnerId := ⟨text⟩

/-- Reads `C` and three digits, and nothing else. -/
def ofText? (s : String) : Option OwnerId :=
  match s.toList with
  | 'C' :: digits => (threeDigits? digits).bind ofNumber?
  | _ => none

/-- Reads an owner id. -/
def parse (s : String) : Except Fault OwnerId :=
  match ofText? s with
  | some id => .ok id
  | none => .error (.malformedOwnerId s)

end OwnerId

end Passbook
