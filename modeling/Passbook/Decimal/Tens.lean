/-!
# Powers of ten

Each place of a numeral is worth ten of the place behind it, so moving a number
by `n` places is multiplying by `tens n`.

## Main results

* `tens_add` — moving by `m` and then by `n` places is moving by `m + n` places.
-/

namespace Passbook.Decimal

/-- A one and `n` zeros. -/
def tens (n : Nat) : Nat := Nat.pow 10 n

@[simp] theorem tens_zero : tens 0 = 1 := rfl

theorem tens_succ (n : Nat) : tens (n + 1) = tens n * 10 := rfl

theorem tens_pos (n : Nat) : 0 < tens n := by
  induction n with
  | zero => exact Nat.one_pos
  | succ n ih => rw [tens_succ]; omega

theorem tens_add (m n : Nat) : tens (m + n) = tens m * tens n := by
  induction n with
  | zero => rw [Nat.add_zero, tens_zero, Nat.mul_one]
  | succ n ih => rw [← Nat.add_assoc, tens_succ, ih, tens_succ, Nat.mul_assoc]

theorem ten_le_tens {n : Nat} (h : 0 < n) : 10 ≤ tens n := by
  obtain ⟨k, rfl⟩ : ∃ k, n = k + 1 := ⟨n - 1, by omega⟩
  have := tens_pos k
  rw [tens_succ]
  omega

end Passbook.Decimal
