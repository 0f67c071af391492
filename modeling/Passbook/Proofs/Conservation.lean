import Passbook.Proofs.Decimal.Bracket
import Passbook.Proofs.Holdings
import Passbook.Proofs.Lawful

/-!
# Where money is kept and where it is lost

What the open accounts hold, together with what was handed out at closings, is
meant to be what the journal says was paid in. Both sides are exact sums, but
the balances are not: a sum or a difference that needs more than 96 bits is
rounded, and the record of the movement still has the full amount. The rounding
errors of the balances are the only leak.

## Main results

* `surplus_next` — what one operation does to the difference of the two sides.
* `conserves_take_iff` — money is conserved all through a run precisely if the
  rounding errors of every operation cancel out.
-/

namespace Passbook

open Bookkeeping Transact

/-! ## Rounding errors -/

namespace Decimal

/-- What rounding adds to a sum. -/
def sumError (a b : Decimal) : Int :=
  match a.add? b with
  | some sum => sum.units - (a.units + b.units)
  | none => 0

/-- What rounding adds to a difference. -/
def differenceError (a b : Decimal) : Int :=
  match a.sub? b with
  | some difference => difference.units - (a.units - b.units)
  | none => 0

theorem units_of_add? {a b sum : Decimal} (added : a.add? b = some sum) :
    sum.units = a.units + b.units + a.sumError b := by
  have error_eq : a.sumError b = sum.units - (a.units + b.units) := by
    unfold sumError
    rw [added]
  omega

theorem units_of_sub? {a b difference : Decimal}
    (subtracted : a.sub? b = some difference) :
    difference.units = a.units - b.units + a.differenceError b := by
  have error_eq : a.differenceError b = difference.units -
      (a.units - b.units) := by
    unfold differenceError
    rw [subtracted]
  omega

/-- A sum that some decimal is worth is not rounded. -/
theorem sumError_eq_zero {a b c : Decimal}
    (worth_sum : c.units = a.units + b.units) :
    a.sumError b = 0 := by
  unfold sumError
  cases added : a.add? b with
  | none => rfl
  | some sum =>
    have sum_exact := (add?_eq_exact_iff added).2 ⟨c, worth_sum⟩
    dsimp only
    omega

/-- A difference that some decimal is worth is not rounded. -/
theorem differenceError_eq_zero {a b c : Decimal}
    (worth_difference : c.units = a.units - b.units) :
    a.differenceError b = 0 := by
  unfold differenceError
  cases subtracted : a.sub? b with
  | none => rfl
  | some difference =>
    have difference_exact :=
      (sub?_eq_exact_iff subtracted).2 ⟨c, worth_difference⟩
    dsimp only
    omega

end Decimal

/-! ## The two sides -/

namespace Record

/-- What a record says was paid into the bank; what was paid out counts against
it. -/
def paidIn (record : Record) : Int :=
  if record.status = .completed then
    match record.movement with
    | .deposit _ | .interest _ => record.amount.units
    | .withdrawal _ => -record.amount.units
    | .transfer .. => 0
  else 0

/-- What rounding added to the balances that a record has moved, as they were
before. -/
def error (balance? : AccountId → Option Decimal) (record : Record) : Int :=
  if record.status = .completed then
    ((record.movement.destination?.bind balance?).elim 0 fun b =>
      b.sumError record.amount) +
      ((record.movement.source?.bind balance?).elim 0 fun a =>
        a.differenceError record.amount)
  else 0

/-- Whether decimals are worth the exact balances after a movement. -/
def Exact (balance? : AccountId → Option Decimal) (record : Record) : Prop :=
  (∀ b, record.movement.destination?.bind balance? = some b →
      ∃ c : Decimal, c.units = b.units + record.amount.units) ∧
    ∀ a, record.movement.source?.bind balance? = some a →
      ∃ c : Decimal, c.units = a.units - record.amount.units

theorem error_eq_zero {balance? : AccountId → Option Decimal} {record : Record}
    (exact_balances : record.Exact balance?) : record.error balance? = 0 := by
  unfold error
  by_cases completed : record.status = .completed
  · have no_gain : ((record.movement.destination?.bind balance?).elim 0 fun b =>
        b.sumError record.amount) = 0 := by
      cases taken : record.movement.destination?.bind balance? with
      | none => rfl
      | some b =>
        obtain ⟨c, worth_sum⟩ := exact_balances.1 b taken
        exact Decimal.sumError_eq_zero worth_sum
    have no_loss : ((record.movement.source?.bind balance?).elim 0 fun a =>
        a.differenceError record.amount) = 0 := by
      cases given : record.movement.source?.bind balance? with
      | none => rfl
      | some a =>
        obtain ⟨c, worth_difference⟩ := exact_balances.2 a given
        exact Decimal.differenceError_eq_zero worth_difference
    rw [if_pos completed, no_gain, no_loss]
    rfl
  · rw [if_neg completed]

end Record

/-- The balance of an open account. -/
def Register.balance? (accounts : Register) (id : AccountId) : Option Decimal :=
  (accounts.find? id).map (·.balance)

/-- What the journal says was paid in. -/
def Journal.paidIn (journal : Journal) : Int :=
    (journal.records.toList.map Record.paidIn).sum

/-- What the accounts hold beyond what the journal says was paid in. -/
def Books.surplus (books : Books) : Int :=
    books.accounts.holdings - books.journal.paidIn

/-- What an answer hands out: the balance of an account that was closed. -/
def handedOut : Except Fault Outcome → Int
  | .ok (.closed account) => account.balance.units
  | _ => 0

/-- What rounding added to all balances that an operation has moved. -/
def roundingError (accounts : Register) : Except Fault Outcome → Int
  | .ok outcome => (outcome.records.map (Record.error accounts.balance?)).sum
  | .error _ => 0

theorem roundingError_eq_zero {accounts : Register} {outcome : Outcome}
    (exact_balances : ∀ record ∈ outcome.records,
      record.Exact accounts.balance?) :
    roundingError accounts (.ok outcome) = 0 := by
  unfold roundingError
  dsimp only
  generalize outcome.records = records at exact_balances ⊢
  induction records with
  | nil => rfl
  | cons record rest ih =>
    have first :=
      Record.error_eq_zero (exact_balances record List.mem_cons_self)
    have others := ih fun other mem =>
      exact_balances other (List.mem_cons_of_mem record mem)
    rw [List.map_cons, List.sum_cons, first, others]
    rfl

theorem Journal.paidIn_commit (journal : Journal) (now : Instant)
    (transaction : Transaction) (status : Status) :
    (journal.commit now transaction status).2.paidIn =
      journal.paidIn + (journal.commit now transaction status).1.paidIn := by
  unfold paidIn
  rw [records_commit, Array.toList_push, List.map_append, List.sum_append,
    List.map_singleton, List.sum_singleton]

/-! ## One change -/

namespace Books

open Posting

variable {clock : Clock} {books : Books} {transaction : Transaction}
  {status : Status}

/-- What the accounts hold after a movement on one of them. -/
theorem holdings_moved_one {id : AccountId} {account : Account}
    {balance : Decimal} (found : books.accounts.find? id = some account) :
    ((moved [(id, balance)] transaction status).write clock
      books).accounts.holdings =
      books.accounts.holdings + (balance.units - account.balance.units) := by
  have account_id : account.id = id := Register.find?_id found
  have one := Register.sum_congr_one (w := (·.balance.units))
    (v := fun a => (settle [(id, balance)]
      (sealed clock books.journal transaction status)
      a).balance.units) found (by
    intro a ne
    rw [balance_settle, List.lookup_cons, beq_false_of_ne ne]
    rfl)
  rw [balance_settle, account_id, List.lookup_cons_self] at one
  exact (Register.sum_map _ _ _ (settle_id _ _)).trans one

/-- What the accounts hold after a movement between two of them. -/
theorem holdings_moved_two {source destination : AccountId} {a b : Account}
    {x y : Decimal} (different : source ≠ destination)
    (a_found : books.accounts.find? source = some a)
    (b_found : books.accounts.find? destination = some b) :
    ((moved [(source, x), (destination, y)] transaction status).write clock
      books).accounts.holdings =
      books.accounts.holdings + (x.units - a.balance.units) +
        (y.units - b.balance.units) := by
  have a_id : a.id = source := Register.find?_id a_found
  have b_id : b.id = destination := Register.find?_id b_found
  have two := Register.sum_congr_two (w := (·.balance.units))
    (v := fun c => (settle [(source, x), (destination, y)]
      (sealed clock books.journal transaction status) c).balance.units)
        different a_found b_found (by
    intro c first second
    rw [balance_settle, List.lookup_cons, beq_false_of_ne first,
      List.lookup_cons, beq_false_of_ne second]
    rfl)
  rw [balance_settle, a_id, List.lookup_cons_self, balance_settle, b_id,
    List.lookup_cons, beq_false_of_ne (Ne.symm different),
    List.lookup_cons_self] at two
  exact (Register.sum_map _ _ _ (settle_id _ _)).trans two

/-- Amending an account leaves the surplus alone if the balance is worth the
same. -/
theorem surplus_amended {id : AccountId} {account : Account}
    {kind : AccountKind} {balance : Decimal} {outcome : Outcome}
    (found : books.accounts.find? id = some account)
    (same : balance.units = account.balance.units) :
    ((amended id kind balance outcome).write clock books).surplus =
      books.surplus := by
  have held :
      ((amended id kind balance outcome).write clock books).accounts.holdings =
      books.accounts.holdings := by
    refine (Register.sum_map _ _ _
      (Register.only_id id (amend_id kind balance))).trans ?_
    apply Register.sum_congr
    intro other a a_found
    have a_id : a.id = other := Register.find?_id a_found
    unfold Register.only
    by_cases here : a.id = id
    · rw [← a_id, here, found] at a_found
      cases a_found
      rw [if_pos here]
      exact same
    · rw [if_neg here]
  unfold surplus
  rw [held]
  rfl

theorem surplus_moved (balances : List (AccountId × Decimal)) :
    ((moved balances transaction status).write clock books).surplus =
      ((moved balances transaction status).write clock
        books).accounts.holdings -
        (books.journal.paidIn +
          (sealed clock books.journal transaction status).paidIn) := by
  unfold surplus sealed
  rw [← Journal.paidIn_commit]
  rfl

theorem handedOut_moved (balances : List (AccountId × Decimal)) :
    handedOut (.ok ((moved balances transaction status).outcome clock books)) =
      0 := by
  unfold outcome
  dsimp only
  split <;> rfl

theorem roundingError_moved (balances : List (AccountId × Decimal)) :
    roundingError books.accounts
      (.ok ((moved balances transaction status).outcome clock books)) =
      (sealed clock books.journal transaction status).error
        books.accounts.balance? := by
  unfold outcome
  dsimp only
  split <;> simp [roundingError, Outcome.records]

theorem balance?_eq {id : AccountId} {account : Account}
    (found : books.accounts.find? id = some account) :
    books.accounts.balance? id = some account.balance := by
  unfold Register.balance?
  rw [found]
  rfl

theorem error_completed (journal : Journal)
    (balance? : AccountId → Option Decimal) :
    (sealed clock journal transaction .completed).error balance? =
      ((transaction.movement.destination?.bind balance?).elim 0 fun b =>
          b.sumError transaction.amount) +
        ((transaction.movement.source?.bind balance?).elim 0 fun a =>
          a.differenceError transaction.amount) := rfl

theorem error_failed (journal : Journal)
    (balance? : AccountId → Option Decimal) :
    (sealed clock journal transaction .failed).error balance? = 0 := rfl

theorem paidIn_failed (journal : Journal) :
    (sealed clock journal transaction .failed).paidIn = 0 := rfl

/-- A movement moves the surplus by its rounding error if it moves what the
accounts hold by that more than what it pays in. -/
theorem surplus_of_holdings {balances : List (AccountId × Decimal)}
    (held : ((moved balances transaction status).write clock
      books).accounts.holdings =
      books.accounts.holdings +
        (sealed clock books.journal transaction status).paidIn +
        (sealed clock books.journal transaction status).error
          books.accounts.balance?) :
    ((moved balances transaction status).write clock books).surplus +
        handedOut
          (.ok ((moved balances transaction status).outcome clock books)) =
      books.surplus +
        roundingError books.accounts
          (.ok ((moved balances transaction status).outcome clock books)) := by
  rw [surplus_moved, handedOut_moved, roundingError_moved, held, surplus]
  omega

/-- A change moves the surplus by what it hands out and by its rounding
error. -/
theorem surplus_change {operation : Operation} {posting : Posting}
    (change : Change books.accounts.find? operation posting) :
    (posting.write clock books).surplus +
      handedOut (.ok (posting.outcome clock books)) =
      books.surplus + roundingError books.accounts
        (.ok (posting.outcome clock books)) := by
  cases change with
  | @opened given owner kind id asked free valid =>
    have added :
        (books.accounts.insert ⟨id, owner, kind, .zero, #[]⟩).holdings =
        Decimal.zero.units + books.accounts.holdings :=
          Register.sum_insert _ free
    rw [Decimal.units_zero, Int.zero_add] at added
    show (books.accounts.insert ⟨id, owner, kind, .zero, #[]⟩).holdings -
      books.journal.paidIn + 0 =
      books.surplus + 0
    rw [added]
    rfl
  | @closed id account found =>
    have taken : (books.accounts.erase id).holdings =
        books.accounts.holdings - account.balance.units :=
          Register.sum_erase _ found
    show (books.accounts.erase id).holdings - books.journal.paidIn +
      account.balance.units =
      books.accounts.holdings - books.journal.paidIn + 0
    omega
  | @deposited id amount balance account valid found sum =>
    have paid :
        (sealed clock books.journal ⟨.deposit id, amount⟩ .completed).paidIn =
        amount.units := rfl
    apply surplus_of_holdings
    rw [holdings_moved_one found, error_completed, paid,
      Decimal.units_of_add? sum]
    simp only [Movement.source?, Movement.destination?, Option.bind_some,
      Option.bind_none, balance?_eq found, Option.elim_some, Option.elim_none]
    omega
  | @withdrawn id amount balance account valid found covered difference =>
    have paid : (sealed clock books.journal ⟨.withdrawal id, amount⟩
        .completed).paidIn =
        -amount.units := rfl
    apply surplus_of_holdings
    rw [holdings_moved_one found, error_completed, paid,
      Decimal.units_of_sub? difference]
    simp only [Movement.source?, Movement.destination?, Option.bind_some,
      Option.bind_none, balance?_eq found, Option.elim_some, Option.elim_none]
    omega
  | notWithdrawn _ found =>
    apply surplus_of_holdings
    rw [holdings_moved_one found, error_failed, paidIn_failed]
    omega
  | @transferred source destination amount x y a b valid different a_found
    b_found covered difference
      sum =>
    have paid :
        (sealed clock books.journal ⟨.transfer source destination, amount⟩
        .completed).paidIn = 0 := rfl
    apply surplus_of_holdings
    rw [holdings_moved_two different a_found b_found, error_completed, paid,
      Decimal.units_of_sub? difference, Decimal.units_of_add? sum]
    simp only [Movement.source?, Movement.destination?, Option.bind_some,
      balance?_eq a_found, balance?_eq b_found, Option.elim_some]
    omega
  | notTransferred _ different a_found b_found =>
    apply surplus_of_holdings
    rw [holdings_moved_two different a_found b_found, error_failed,
      paidIn_failed]
    omega
  | @credited id rate interest balance account found saves earned
    something sum =>
    have paid : (sealed clock books.journal ⟨.interest id, interest⟩
        .completed).paidIn =
        interest.units := rfl
    apply surplus_of_holdings
    rw [holdings_moved_one found, error_completed, paid,
      Decimal.units_of_add? sum]
    simp only [Movement.source?, Movement.destination?, Option.bind_some,
      Option.bind_none, balance?_eq found, Option.elim_some, Option.elim_none]
    omega
  | notCredited found saves earned nothing sum =>
    have same := Decimal.units_add?_of_zero (Or.inr nothing) sum
    rw [(Decimal.units_eq_zero_iff _).2 nothing, Int.add_zero] at same
    rw [surplus_amended found same]
    rfl
  | limited found checks valid respected =>
    rw [surplus_amended found rfl]
    rfl

/-- Crediting one account leaves the balances of the others alone. -/
theorem balance?_credit {id other : AccountId} {posting : Posting}
    (change : Change books.accounts.find? (.creditInterest (some id)) posting)
    (apart : other ≠ id) :
    (posting.write clock books).accounts.balance? other =
      books.accounts.balance? other := by
  unfold Register.balance?
  cases change with
  | credited =>
    rw [find?_write_moved, Option.map_map]
    cases found : books.accounts.find? other with
    | none => rfl
    | some account =>
      have account_id : account.id = other := Register.find?_id found
      rw [Option.map_some, Option.map_some, Function.comp_apply, balance_settle,
        account_id, List.lookup_cons, beq_false_of_ne apart]
      rfl
  | notCredited =>
    rw [find?_write_amended, Option.map_map]
    cases found : books.accounts.find? other with
    | none => rfl
    | some account =>
      have account_id : account.id = other := Register.find?_id found
      have ne : account.id ≠ id := by rwa [account_id]
      rw [Option.map_some, Option.map_some, Function.comp_apply, Register.only,
        if_neg ne]

/-- The rounding errors of a credit, seen from anyone who knows the balance
before. -/
theorem surplus_credit (clock : Clock) {id : AccountId} {posting : Posting}
    {balance? : AccountId → Option Decimal}
    (change : Change books.accounts.find? (.creditInterest (some id)) posting)
    (same : books.accounts.balance? id = balance? id) :
    (posting.write clock books).surplus =
      books.surplus + ((posting.outcome clock books).records.map
        (Record.error balance?)).sum := by
  have step : (posting.write clock books).surplus + _ = books.surplus + _ :=
    surplus_change change
  cases change with
  | credited found =>
    have records_eq : ∀ record, (Outcome.credited [record]).records =
        [record] := fun _ => rfl
    rw [handedOut_moved, roundingError_moved, error_completed] at step
    show _ =
      _ + ((Outcome.credited [sealed clock books.journal _ _]).records.map
        _).sum
    rw [records_eq, List.map_singleton, List.sum_singleton, error_completed]
    simp only [Movement.destination?, Option.bind_some, same] at step ⊢
    rw [Int.add_zero] at step
    exact step
  | notCredited => exact (Int.add_zero _).symm.trans step

/-- Crediting several accounts moves the surplus by the rounding errors of all
credits. -/
theorem surplus_credits {books books' : Books} {ids : List AccountId}
    {records : List Record} {balance? : AccountId → Option Decimal}
    (credits : Credits clock books ids records books') (nodup : ids.Nodup)
    (same : ∀ id ∈ ids, books.accounts.balance? id = balance? id) :
    books'.surplus = books.surplus +
      (records.map (Record.error balance?)).sum := by
  induction credits with
  | done =>
    rw [List.map_nil, List.sum_nil, Int.add_zero]
  | passed _ ih =>
    exact ih (List.nodup_cons.1 nodup).2 fun id mem =>
      same id (List.mem_cons_of_mem _ mem)
  | credited change _ ih =>
    obtain ⟨not_mem, rest_nodup⟩ := List.nodup_cons.1 nodup
    have first := surplus_credit clock change (same _ List.mem_cons_self)
    have rest := ih rest_nodup (by
      intro other mem
      rw [balance?_credit change fun eq => not_mem (eq ▸ mem)]
      exact same other (List.mem_cons_of_mem _ mem))
    rw [List.map_append, List.sum_append, rest, first]
    omega

end Books

/-- The savings accounts are listed in ascending order of their ids. -/
theorem Register.pairwise_savingsIds (accounts : Register) :
    accounts.savingsIds.Pairwise (· < ·) := by
  unfold savingsIds
  rw [List.pairwise_filterMap]
  refine accounts.ascending.imp fun {a b} lt id a_id other b_id => ?_
  split at a_id
  · split at b_id
    · cases a_id
      cases b_id
      exact lt
    · cases b_id
  · cases a_id

/-- No account is listed twice among the savings accounts. -/
theorem Register.nodup_savingsIds (accounts : Register) :
    accounts.savingsIds.Nodup := by
  refine accounts.pairwise_savingsIds.imp fun {a b} lt eq => ?_
  rw [eq, AccountId.lt_iff] at lt
  omega

/-- An operation moves the surplus by what it hands out and by its rounding
errors. -/
theorem Performs.surplus_eq {clock : Clock} {books books' : Books}
    {operation : Operation} {answer : Except Fault Outcome}
    (performs : Performs clock books operation answer books') :
    books'.surplus + handedOut answer =
      books.surplus + roundingError books.accounts answer := by
  cases performs with
  | refused fault => rfl
  | posted change => exact Books.surplus_change change
  | creditedAll credits =>
    have credited := Books.surplus_credits credits
      books.accounts.nodup_savingsIds fun _ _ => rfl
    rw [credited]
    exact Int.add_zero _

/-! ## Runs -/

section

variable {β : Type} [Bookkeeping β] (clock : Clock)

/-- What the closings among some operations hand out. -/
def handedOutBy (ledger : β) : List Operation → Int
  | [] => 0
  | operation :: rest =>
    handedOut (answer ((perform clock operation).run ledger)) +
      handedOutBy (next clock ledger operation) rest

theorem handedOutBy_append (ledger : β) (first second : List Operation) :
    handedOutBy clock ledger (first ++ second) =
      handedOutBy clock ledger first + handedOutBy clock
        (after clock ledger first) second := by
  induction first generalizing ledger with
  | nil =>
    show _ = 0 + _
    rw [Int.zero_add]
    rfl
  | cons operation rest ih =>
    rw [List.cons_append, handedOutBy, handedOutBy, ih, Int.add_assoc]
    rfl

/-- What rounding adds to all balances that an operation moves. -/
def drift (ledger : β) (operation : Operation) : Int :=
  roundingError (accounts ledger)
    (answer ((perform clock operation).run ledger))

/-- Whether decimals are worth the exact balances after an operation. -/
def Exact (ledger : β) (operation : Operation) : Prop :=
  ∀ outcome, answer ((perform clock operation).run ledger) = .ok outcome →
    ∀ record ∈ outcome.records, record.Exact (accounts ledger).balance?

/-- Whether all that was paid in and not paid out is in open accounts or was
handed out. -/
def Conserves (operations : List Operation) : Prop :=
  (after clock Ledger.empty operations).accounts.holdings +
      handedOutBy clock Ledger.empty operations =
    (after clock Ledger.empty operations).journal.paidIn

/-- An operation moves the surplus by what it hands out and by its drift. -/
theorem surplus_next [Lawful β] (ledger : β) (operation : Operation) :
    (books (next clock ledger operation)).surplus +
        handedOut (answer ((perform clock operation).run ledger)) =
      (books ledger).surplus + drift clock ledger operation :=
  (Lawful.performs clock operation ledger).surplus_eq

end

theorem conserves_iff (clock : Clock) (operations : List Operation) :
    Conserves clock operations ↔
      (books (after clock Ledger.empty operations)).surplus +
        handedOutBy clock Ledger.empty operations = 0 := by
  unfold Conserves Books.surplus
  show (after clock Ledger.empty operations).accounts.holdings + _ = _ ↔
    (after clock Ledger.empty operations).accounts.holdings -
      (after clock Ledger.empty operations).journal.paidIn + _ = 0
  omega

/-- If money is conserved so far, the next operation conserves it precisely if
it does not drift. -/
theorem conserves_succ_iff {clock : Clock}
    {operations : List Operation} {n : Nat} (inside : n < operations.length)
    (conserved : Conserves clock (operations.take n)) :
    Conserves clock (operations.take (n + 1)) ↔
      drift clock (after clock Ledger.empty (operations.take n)) operations[n] =
        0 := by
  rw [conserves_iff] at conserved ⊢
  have moved := surplus_next clock
    (after clock Ledger.empty (operations.take n)) operations[n]
  rw [after_take_succ clock _ _ inside, List.take_succ_eq_append_getElem inside,
    handedOutBy_append]
  show _ + (_ + (handedOut _ + 0)) = 0 ↔ _
  omega

/-- Money is conserved all through a run in which no operation drifts. -/
theorem conserves_of_drift {clock : Clock} {operations : List Operation}
    (no_drift : ∀ n (inside : n < operations.length),
      drift clock (after clock Ledger.empty (operations.take n)) operations[n] =
        0) (n : Nat) :
    Conserves clock (operations.take n) := by
  induction n with
  | zero => exact (conserves_iff clock []).2 rfl
  | succ n ih =>
    by_cases inside : n < operations.length
    · exact (conserves_succ_iff inside ih).2 (no_drift n inside)
    · rw [List.take_of_length_le (by omega)] at ih ⊢
      exact ih

/-- An operation does not drift if decimals are worth the exact balances. -/
theorem drift_eq_zero {β : Type} [Bookkeeping β] {clock : Clock} {ledger : β}
    {operation : Operation}
    (exact_balances : Exact clock ledger operation) :
    drift clock ledger operation = 0 := by
  unfold drift
  cases answered : answer ((perform clock operation).run ledger) with
  | error fault => rfl
  | ok outcome => exact roundingError_eq_zero (exact_balances outcome answered)

/--
Money is conserved after every operation of a run from an empty ledger precisely
if no operation of the run drifts. None does as long as decimals are worth the
exact balances.
-/
theorem conserves_take_iff (clock : Clock) (operations : List Operation) :
    ((∀ n, Conserves clock (operations.take n)) ↔
      ∀ n (inside : n < operations.length),
        drift clock (after clock Ledger.empty (operations.take n))
          operations[n] = 0) ∧
      ∀ n (inside : n < operations.length),
        Exact clock (after clock Ledger.empty (operations.take n))
          operations[n] →
        drift clock (after clock Ledger.empty (operations.take n))
          operations[n] = 0 := by
  refine ⟨⟨?_, conserves_of_drift⟩, fun n inside => drift_eq_zero⟩
  intro conserved n inside
  exact (conserves_succ_iff inside (conserved n)).1 (conserved (n + 1))

/-- Money is conserved when an account is filled to the brim. -/
theorem conserves_take_iff_brim :
    let clock : Clock := .still default
    let id : AccountId := ⟨1, by decide⟩
    let run : List Operation :=
      [.openAccount (some id) ⟨1, by decide⟩ (.savings .zero),
        .deposit id .largest]
    (∀ n (inside : n < run.length),
      Exact clock (after clock Ledger.empty (run.take n)) run[n]) ∧
      ∀ n, Conserves clock (run.take n) := by
  intro clock id run
  have exact_balances : ∀ n (inside : n < run.length),
      Exact clock (after clock Ledger.empty (run.take n)) run[n] := by
    intro n inside
    rcases n with _ | _ | n
    · intro outcome answered record mem
      cases answered
      cases mem
    · intro outcome answered record mem
      cases answered
      cases List.mem_singleton.1 mem
      refine ⟨fun b b_eq => ?_, nofun⟩
      cases b_eq
      exact ⟨.largest, by decide⟩
    · exact absurd inside (Nat.not_lt.2 (Nat.le_add_left 2 n))
  obtain ⟨conserved, no_drift⟩ := conserves_take_iff clock run
  exact ⟨exact_balances,
    conserved.2 fun n inside => no_drift n inside (exact_balances n inside)⟩

/-- A run in which a deposit of four tenths is lost on a balance of 96 bits. -/
def drifting (id : AccountId) (owner : OwnerId) : List Operation :=
  [.openAccount (some id) owner (.savings .zero),
    .deposit id .largest,
    .deposit id (.tenths 4 (by decide))]

theorem not_conserves : ¬ ∀ (clock : Clock) (operations : List Operation),
    Conserves clock operations := by
  intro conserved
  have kept :=
    conserved (.still default) (drifting ⟨1, by decide⟩ ⟨1, by decide⟩)
  exact absurd kept (by unfold Conserves; decide)

end Passbook
