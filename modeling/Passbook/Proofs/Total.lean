import Passbook.Proofs.Conservation
import Passbook.Proofs.Decimal.Range
import Passbook.Proofs.Denomination

/-!
# The total in any order

The total of all balances is added up from one account to the next, and every
sum on the way has to be a decimal. So it depends on the order of the accounts:
a sum that is out of range ends the addition, though what a later account owes
would have brought it back.

What the order changes is the rounding and nothing else. Balances are money, so
as long as all that is held and all that is owed are each less than a mantissa
can count in the smallest pieces of money, no sum on the way is rounded in any
order.

## Main results

* `units_totalOf?` — a total is the exact sum and what rounding has added.
* `totals_of_moderate` — all orders have the exact total if little is held and
  little is owed.
* `totals_iff` — when all orders have the same total.
* `not_totals` — they need not.
-/

namespace Passbook

/-! ## Adding up decimals -/

namespace Decimal

/-- What rounding adds when decimals are added to a sum one after the other,
unless a sum is out of range. -/
def drift? (sum : Decimal) : List Decimal → Option Int
  | [] => some 0
  | d :: rest => (sum.add? d).bind fun next =>
    (drift? next rest).map (sum.sumError d + ·)

theorem units_foldlM_add? (sum : Decimal) (ds : List Decimal) :
    (ds.foldlM add? sum).map units =
      (drift? sum ds).map (sum.units + (ds.map units).sum + ·) := by
  induction ds generalizing sum with
  | nil => simp [drift?]
  | cons d rest ih =>
    rw [List.foldlM_cons, drift?]
    cases added : sum.add? d with
    | none => rfl
    | some next =>
      have regroup (rounded : Int) :
          next.units + (rest.map units).sum + rounded =
            sum.units + ((d :: rest).map units).sum +
              (sum.sumError d + rounded) := by
        rw [List.map_cons, List.sum_cons, units_of_add? added]
        omega
      show (rest.foldlM add? next).map units = ((drift? next rest).map _).map _
      rw [ih, Option.map_map]
      exact congrArg (Option.map · _) (funext regroup)

/-- What those of some decimals that are not negative come to. -/
def held (ds : List Decimal) : Int := (ds.map fun d => max d.units 0).sum

/-- What the negative ones come to, without the sign. -/
def owed (ds : List Decimal) : Int := (ds.map fun d => max (-d.units) 0).sum

theorem held_cons (d : Decimal) (ds : List Decimal) :
    held (d :: ds) = max d.units 0 + held ds := List.sum_cons

theorem owed_cons (d : Decimal) (ds : List Decimal) :
    owed (d :: ds) = max (-d.units) 0 + owed ds := List.sum_cons

theorem held_nonneg (ds : List Decimal) : 0 ≤ held ds :=
  List.sum_nonneg (List.forall_mem_map.2 fun _ _ => le_max_right _ _)

theorem owed_nonneg (ds : List Decimal) : 0 ≤ owed ds :=
  List.sum_nonneg (List.forall_mem_map.2 fun _ _ => le_max_right _ _)

/-- On a grid nothing is rounded, if neither what is held nor what is owed can
take a sum out of the mantissas of the grid. -/
theorem drift?_eq_zero {p : Nat} {sum : Decimal} {ds : List Decimal}
    (p_le : p ≤ 28) (on : OnGrid p sum.units)
    (all_on : ∀ d ∈ ds, OnGrid p d.units)
    (above : sum.units + held ds < (mantissaBound * tens (28 - p) : Nat))
    (below : -sum.units + owed ds < (mantissaBound * tens (28 - p) : Nat)) :
    drift? sum ds = some 0 := by
  -- what is still to come only shrinks, so both bounds hold of the next sum
  induction ds generalizing sum with
  | nil => rfl
  | cons d rest ih =>
    rw [held_cons] at above
    rw [owed_cons] at below
    have held_rest := held_nonneg rest
    have owed_rest := owed_nonneg rest
    have next_on : OnGrid p (sum.units + d.units) :=
      Int.dvd_add on (all_on d List.mem_cons_self)
    obtain ⟨c, worth_sum⟩ :=
      exists_units_eq_of_onGrid next_on p_le (by omega)
    obtain ⟨next, added, next_eq⟩ := exists_add?_of_worth worth_sum
    have rest_exact : drift? next rest = some 0 := by
      apply ih (next_eq ▸ next_on)
      · exact fun other mem => all_on other (List.mem_cons_of_mem d mem)
      · omega
      · omega
    rw [drift?, added, Option.bind_some, rest_exact, Option.map_some,
      sumError_eq_zero worth_sum]
    rfl

end Decimal

/-! ## Adding up accounts -/

/-- The total of accounts in the order in which they come. -/
def totalOf? (order : List Account) : Option Decimal :=
  Decimal.sum? (order.map (·.balance))

/-- What rounding adds to their total. -/
def driftOf? (order : List Account) : Option Int :=
  Decimal.drift? .zero (order.map (·.balance))

namespace Register

/-- Whether a register has the same total in every order, and the exact one if a
decimal is worth that. The total of a register is the one in ascending order of
ids. -/
structure Totals (register : Register) : Prop where
  same : ∀ order : List Account, order.Perm register.toList →
    (totalOf? order).map Decimal.units = register.total?.map Decimal.units
  exactly : (∃ d : Decimal, d.units = register.holdings) →
    ∀ order : List Account, order.Perm register.toList →
      ∃ total, totalOf? order = some total ∧ total.units = register.holdings

/-- Whether all that is held in a register and all that is owed are each fewer
of the smallest pieces of money than a mantissa can count. -/
def Moderate (register : Register) : Prop :=
  register.sum (fun account => max account.balance.units 0) <
      (Decimal.mantissaBound * Decimal.tens (28 - moneyPlaces) : Nat) ∧
    register.sum (fun account => max (-account.balance.units) 0) <
      (Decimal.mantissaBound * Decimal.tens (28 - moneyPlaces) : Nat)

instance (register : Register) : Decidable register.Moderate :=
    inferInstanceAs (Decidable (_ ∧ _))

variable {register : Register} {order : List Account}

theorem sum_perm (w : Account → Int) (lists : order.Perm register.toList) :
    (order.map w).sum = register.sum w :=
  (lists.map w).sum_eq

/-- In whatever order, a total is the exact sum and what rounding has added. -/
theorem units_totalOf? (lists : order.Perm register.toList) :
    (totalOf? order).map Decimal.units =
      (driftOf? order).map (register.holdings + ·) := by
  have exact_sum : Decimal.zero.units +
      ((order.map (·.balance)).map Decimal.units).sum = register.holdings := by
    rw [Decimal.units_zero, Int.zero_add, List.map_map]
    exact sum_perm (·.balance.units) lists
  rw [totalOf?, Decimal.sum?, Decimal.units_foldlM_add?, exact_sum]
  rfl

theorem totalOf?_exact_iff (lists : order.Perm register.toList) :
    (∃ total, totalOf? order = some total ∧
      total.units = register.holdings) ↔ driftOf? order = some 0 := by
  have parts := units_totalOf? lists
  constructor
  · rintro ⟨total, added, exactly⟩
    rw [added, Option.map_some, exactly] at parts
    obtain ⟨rounded, drifts, eq⟩ := Option.map_eq_some_iff.1 parts.symm
    rw [drifts]
    congr 1
    omega
  · intro drifts
    rw [drifts, Option.map_some, Int.add_zero] at parts
    exact Option.map_eq_some_iff.1 parts

/-- All orders have the same total exactly if rounding adds the same in each,
and nothing if a decimal is worth the exact sum. -/
theorem totals_iff_drift : register.Totals ↔
    ∀ order : List Account, order.Perm register.toList →
      driftOf? order = driftOf? register.toList ∧
        ((∃ d : Decimal, d.units = register.holdings) →
          driftOf? order = some 0) := by
  have same_iff {order : List Account} (lists : order.Perm register.toList) :
      (totalOf? order).map Decimal.units =
          register.total?.map Decimal.units ↔
        driftOf? order = driftOf? register.toList := by
    show _ = (totalOf? register.toList).map Decimal.units ↔ _
    rw [units_totalOf? lists, units_totalOf? (.refl _)]
    exact (Option.map_injective (add_right_injective _)).eq_iff
  constructor
  · intro totals order lists
    exact ⟨(same_iff lists).1 (totals.same order lists), fun worth =>
      (totalOf?_exact_iff lists).1 (totals.exactly worth order lists)⟩
  · intro drifts
    exact ⟨fun order lists => (same_iff lists).2 (drifts order lists).1,
      fun worth order lists =>
        (totalOf?_exact_iff lists).2 ((drifts order lists).2 worth)⟩

/-- In moderate registers nothing is rounded, in whatever order. -/
theorem totals_of_moderate (money : register.Every fun account =>
      account.balance.IsMoney)
    (moderate : register.Moderate) : register.Totals := by
  have drifts {order : List Account} (lists : order.Perm register.toList) :
      driftOf? order = some 0 := by
    have held_eq : Decimal.held (order.map (·.balance)) =
        register.sum fun account => max account.balance.units 0 := by
      rw [Decimal.held, List.map_map]
      exact sum_perm _ lists
    have owed_eq : Decimal.owed (order.map (·.balance)) =
        register.sum fun account => max (-account.balance.units) 0 := by
      rw [Decimal.owed, List.map_map]
      exact sum_perm _ lists
    have nothing_on : Decimal.OnGrid moneyPlaces Decimal.zero.units :=
      Decimal.isMoney_iff_onGrid.1 Decimal.isMoney_zero
    apply Decimal.drift?_eq_zero (by decide) nothing_on
    · rw [List.forall_mem_map]
      intro account mem
      exact Decimal.isMoney_iff_onGrid.1
        (money account.id account (find?_of_mem (lists.mem_iff.1 mem)))
    · rw [held_eq, Decimal.units_zero, Int.zero_add]
      exact moderate.1
    · rw [owed_eq, Decimal.units_zero, Int.neg_zero, Int.zero_add]
      exact moderate.2
  apply totals_iff_drift.2
  intro order lists
  exact ⟨(drifts lists).trans (drifts (.refl _)).symm, fun _ => drifts lists⟩

end Register

/--
Whatever was done to a ledger, its accounts have the same total in every order,
and the exact one if a decimal is worth that, exactly if rounding adds the same
in each order, and nothing if a decimal is worth the exact sum. That is so if
all that is held and all that is owed are moderate.
-/
theorem totals_iff {ledger : Ledger} (reached : Bookkeeping.Reachable ledger) :
    (ledger.accounts.Totals ↔
      ∀ order : List Account, order.Perm ledger.accounts.toList →
        driftOf? order = driftOf? ledger.accounts.toList ∧
          ((∃ d : Decimal, d.units = ledger.accounts.holdings) →
            driftOf? order = some 0)) ∧
      (ledger.accounts.Moderate → ledger.accounts.Totals) :=
  ⟨Register.totals_iff_drift,
    Register.totals_of_moderate reached.denominated.balances⟩

/-- A run that leaves an amount in one account, one in the next, and an
overdraft of one on the last. -/
def offsetting (first second third : AccountId) (owner : OwnerId)
    (amount : Decimal) : List Operation :=
  [.openAccount (some first) owner (.savings .zero),
    .deposit first amount,
    .openAccount (some second) owner (.savings .zero),
    .deposit second .one,
    .openAccount (some third) owner (.checking .one),
    .withdraw third .one]

/-- The order does not matter for tenths. -/
theorem totals_iff_offsetting :
    let ledger := Bookkeeping.after (.still default) Ledger.empty
      (offsetting ⟨1, by decide⟩ ⟨2, by decide⟩ ⟨3, by decide⟩ ⟨1, by decide⟩
        (.tenths 3 (by decide)))
    ledger.accounts.Moderate ∧ ledger.accounts.Totals := by
  intro ledger
  have moderate : ledger.accounts.Moderate := by decide
  have reached : Bookkeeping.Reachable ledger :=
    Bookkeeping.Reachable.empty.after (.still default) _
  exact ⟨moderate, (totals_iff reached).2 moderate⟩

/-- Next to the largest decimal, one more is too much unless the debt of one
comes before it. -/
theorem not_totals : ¬ ∀ ledger : Ledger, Bookkeeping.Reachable ledger →
    ledger.accounts.Totals := by
  intro always
  have reached := Bookkeeping.Reachable.empty.after (β := Ledger)
    (.still default)
    (offsetting ⟨1, by decide⟩ ⟨2, by decide⟩ ⟨3, by decide⟩ ⟨1, by decide⟩
      .largest)
  have same := (always _ reached).same _ (List.reverse_perm _)
  exact absurd same (by decide)

end Passbook
