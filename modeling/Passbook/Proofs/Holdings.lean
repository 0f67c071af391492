import Mathlib
import Passbook.Proofs.Rewrite

/-!
# The sum over all open accounts

What the open accounts hold together is a sum of integers, exact whatever the
balances are. It changes with the register by what is put in, taken out or
rewritten.

## Main results

* `sum_insert`, `sum_erase` — the sum after an account is opened or closed.
* `sum_congr_one`, `sum_congr_two` — two weights that differ on one account, or
  on two.
-/

namespace Passbook.Register

variable {register : Register} {v w : Account → Int}

/-- The sum of a weight over all open accounts. -/
def sum (w : Account → Int) (register : Register) : Int :=
    (register.toList.map w).sum

/-- The exact sum of all balances, in units. -/
def holdings (register : Register) : Int := register.sum (·.balance.units)

theorem sum_map (w : Account → Int) (register : Register)
    (f : Account → Account) (keeps : ∀ a, (f a).id = a.id) :
    (register.map f keeps).sum w = register.sum fun a => w (f a) := by
  unfold sum map
  rw [List.map_map]
  rfl

theorem sum_congr (same : register.Every fun a => v a = w a) :
    register.sum v = register.sum w := by
  unfold sum
  congr 1
  apply List.map_congr_left
  intro a mem
  exact same a.id a (find?_of_mem mem)

theorem sum_insertInto (w : Account → Int) {account : Account}
    {accounts : List Account}
    (fresh : accounts.find? (·.id = account.id) = none) :
    ((insertInto account accounts).map w).sum =
      w account + (accounts.map w).sum := by
  induction accounts with
  | nil => rfl
  | cons other rest ih =>
    rw [List.find?_eq_none] at fresh
    have other_ne : account.id ≠ other.id := by
      intro eq
      exact fresh other List.mem_cons_self (by simp [eq])
    have rest_fresh : rest.find? (·.id = account.id) = none := by
      rw [List.find?_eq_none]
      intro a mem
      exact fresh a (List.mem_cons_of_mem other mem)
    unfold insertInto
    by_cases lt : account.id < other.id
    · rw [if_pos lt, List.map_cons, List.sum_cons]
    · rw [if_neg lt, if_neg other_ne, List.map_cons, List.sum_cons,
        ih rest_fresh, List.map_cons, List.sum_cons]
      omega

/-- An account that is opened adds its weight. -/
theorem sum_insert (w : Account → Int) {account : Account}
    (fresh : register.find? account.id = none) :
    (register.insert account).sum w = w account + register.sum w :=
  sum_insertInto w fresh

/-- The weights of a list differ by the difference on its one account under an
id. -/
theorem sum_map_congr_one {accounts : List Account} {id : AccountId}
    {account : Account} (ascending : accounts.Pairwise fun a b => a.id < b.id)
    (found : accounts.find? (·.id = id) = some account)
    (others : ∀ a, a.id ≠ id → v a = w a) :
    (accounts.map v).sum = (accounts.map w).sum + (v account - w account) := by
  induction accounts with
  | nil => cases found
  | cons other rest ih =>
    obtain ⟨other_lt, rest_ascending⟩ := List.pairwise_cons.1 ascending
    rw [List.map_cons, List.sum_cons, List.map_cons, List.sum_cons]
    by_cases here : other.id = id
    · have eq : other = account := by
        rw [List.find?_cons_of_pos (by simp [here])] at found
        exact Option.some.inj found
      have rest_same : rest.map v = rest.map w := by
        apply List.map_congr_left
        intro a mem
        apply others
        intro a_id
        have lt := other_lt a mem
        rw [here, a_id, AccountId.lt_iff] at lt
        omega
      rw [rest_same, eq]
      omega
    · rw [List.find?_cons_of_neg (by simp [here])] at found
      rw [ih rest_ascending found, others other here]
      omega

/-- Two weights that differ on one account only. -/
theorem sum_congr_one {id : AccountId} {account : Account}
    (found : register.find? id = some account)
    (others : ∀ a, a.id ≠ id → v a = w a) :
    register.sum v = register.sum w + (v account - w account) :=
  sum_map_congr_one register.ascending found others

/-- Two weights that differ on two accounts only. -/
theorem sum_congr_two {source destination : AccountId} {a b : Account}
    (different : source ≠ destination)
    (a_found : register.find? source = some a)
    (b_found : register.find? destination = some b)
    (others : ∀ c, c.id ≠ source → c.id ≠ destination → v c = w c) :
    register.sum v = register.sum w + (v a - w a) + (v b - w b) := by
  have a_id : a.id = source := find?_id a_found
  have b_id : b.id = destination := find?_id b_found
  -- on the way the first account has its new weight and the second its old one
  let u : Account → Int := fun c => if c.id = source then v c else w c
  have first : register.sum u = register.sum w + (u a - w a) := by
    apply sum_congr_one a_found
    intro c ne
    exact if_neg ne
  have second : register.sum v = register.sum u + (v b - u b) := by
    apply sum_congr_one b_found
    intro c ne
    by_cases same : c.id = source
    · exact (if_pos same).symm
    · exact (others c same ne).trans (if_neg same).symm
  have u_a : u a = v a := if_pos a_id
  have u_b : u b = w b := if_neg fun eq => different (eq.symm.trans b_id)
  rw [second, first, u_a, u_b]

/-- An account that is closed takes its weight away. -/
theorem sum_erase (w : Account → Int) {id : AccountId} {account : Account}
    (found : register.find? id = some account) :
    (register.erase id).sum w = register.sum w - w account := by
  have account_id : account.id = id := find?_id found
  -- taking an account out is giving it no weight
  have weightless : (register.erase id).sum w =
      register.sum fun a => if a.id = id then 0 else w a := by
    show ((register.toList.filter (·.id ≠ id)).map w).sum =
      (register.toList.map fun a => if a.id = id then 0 else w a).sum
    induction register.toList with
    | nil => rfl
    | cons other rest ih =>
      by_cases here : other.id = id
      · rw [List.filter_cons_of_neg (by simp [here]), List.map_cons,
          List.sum_cons, ih, if_pos here]
        omega
      · rw [List.filter_cons_of_pos (by simp [here]), List.map_cons,
          List.sum_cons, ih, List.map_cons, List.sum_cons, if_neg here]
  have differ := sum_congr_one (v := fun a => if a.id = id then
    0 else w a) (w := w) found
    fun a ne => if_neg ne
  rw [weightless, differ, if_pos account_id]
  omega

end Passbook.Register
