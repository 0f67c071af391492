import Mathlib.Data.List.Forall2
import Passbook.Proofs.Decimal.Worth
import Passbook.Proofs.Posting

/-!
# Accounts that match are treated alike

Two accounts match if they have the same id and owner, and kinds and balances
that match in a relation of decimals; what is in their histories does not
matter. Whatever an operation asks of one account it is answered alike by the
other: two runs go on together, or they end with the same fault, be it about
decimals that match. So what an operation posts matches as well.

Everything here is for any relation that arithmetic keeps, so it is for equal
figures and for figures of equal worth.

## Main results

* `Parallel.bind` — runs that go in parallel do so step by step.
* `Account.Matches.withdraw`, `Account.Matches.creditInterest` and others — what
  is asked of an account.
* `Operation.posting?_parallel` — what an operation posts.
-/

namespace Passbook

open Decimal (Congruence)

/-! ## What matches -/

section

variable (R : Decimal → Decimal → Prop)

/-- Whether two kinds are the same but for their parameters, which match. -/
inductive AccountKind.Matches : AccountKind → AccountKind → Prop
  | savings {rate rate' : Decimal} (rates : R rate rate') :
      Matches (.savings rate) (.savings rate')
  | checking {limit limit' : Decimal} (limits : R limit limit') :
      Matches (.checking limit) (.checking limit')

/-- Whether two accounts are the same but for their figures, which match, and
their histories. -/
structure Account.Matches (a a' : Account) : Prop where
  id : a.id = a'.id
  owner : a.owner = a'.owner
  kind : a.kind.Matches R a'.kind
  balance : R a.balance a'.balance

/-- Whether two faults are the same but for figures that match. -/
inductive Fault.Matches : Fault → Fault → Prop
  | same (fault : Fault) : Matches fault fault
  | limitBelowBalance (account : String) (limit : Decimal)
      {balance balance' : Decimal} (balances : R balance balance') :
      Matches (.limitBelowBalance account limit balance)
        (.limitBelowBalance account limit balance')
  | insufficientFunds (account : String) (requested : Decimal)
      {balance balance' : Decimal} (balances : R balance balance') :
      Matches (.insufficientFunds account balance requested)
        (.insufficientFunds account balance' requested)
  | overdraftExceeded (account : String) (requested : Decimal)
      {available available' : Decimal} (figures : R available available') :
      Matches (.overdraftExceeded account available requested)
        (.overdraftExceeded account available' requested)

/-- Whether two answers are given in parallel: either both are values, which are
related, or both are faults, which match. -/
inductive Parallel {α β : Type} (V : α → β → Prop) :
    Except Fault α → Except Fault β → Prop
  | ok {a : α} {b : β} (values : V a b) : Parallel V (.ok a) (.ok b)
  | error {f g : Fault} (faults : f.Matches R g) :
      Parallel V (.error f) (.error g)

/-- Whether two lists have matching balances for the same accounts. -/
def MatchBalances : List (AccountId × Decimal) → List (AccountId × Decimal) →
    Prop :=
  List.Forall₂ fun entry entry' => entry.1 = entry'.1 ∧ R entry.2 entry'.2

/-- Whether two postings are the same but for figures that match, and for the
histories of accounts that are taken out. -/
inductive Posting.Matches : Posting → Posting → Prop
  | opened (account : Account) : Matches (.opened account) (.opened account)
  | closed (id : AccountId) {a a' : Account} (accounts : a.Matches R a') :
      Matches (.closed id a) (.closed id a')
  | amended (id : AccountId) {kind kind' : AccountKind}
      {balance balance' : Decimal} (outcome : Outcome)
      (kinds : kind.Matches R kind') (balances : R balance balance') :
      Matches (.amended id kind balance outcome)
        (.amended id kind' balance' outcome)
  | moved {balances balances' : List (AccountId × Decimal)}
      (movement : Movement) {amount amount' : Decimal} (status : Status)
      (each : MatchBalances R balances balances') (amounts : R amount amount') :
      Matches (.moved balances ⟨movement, amount⟩ status)
        (.moved balances' ⟨movement, amount'⟩ status)

end

variable {R : Decimal → Decimal → Prop}

theorem AccountKind.Matches.refl (cong : Congruence R) :
    ∀ kind : AccountKind, kind.Matches R kind
  | .savings rate => .savings (cong.refl rate)
  | .checking limit => .checking (cong.refl limit)

theorem Fault.Matches.isRefusal_eq {f g : Fault} (faults : f.Matches R g) :
    f.isRefusal = g.isRefusal := by
  cases faults <;> rfl

/-! ## Runs in parallel -/

namespace Parallel

variable {α β γ δ : Type} {V : α → β → Prop} {W : γ → δ → Prop}

/-- The same answer given twice. -/
theorem refl {V : α → α → Prop} (values : ∀ a, V a a) :
    ∀ answer : Except Fault α, Parallel R V answer answer
  | .ok a => .ok (values a)
  | .error fault => .error (.same fault)

theorem bind {x : Except Fault α} {y : Except Fault β}
    {f : α → Except Fault γ} {g : β → Except Fault δ}
    (first : Parallel R V x y)
    (next : ∀ a b, V a b → Parallel R W (f a) (g b)) :
    Parallel R W (x >>= f) (y >>= g) := by
  cases first with
  | ok values => exact next _ _ values
  | error faults => exact .error faults

/-- The same step taken in both runs. -/
theorem bind_same {x : Except Fault α} {f : α → Except Fault γ}
    {g : α → Except Fault δ} (next : ∀ a, Parallel R W (f a) (g a)) :
    Parallel R W (x >>= f) (x >>= g) :=
  bind (refl (V := fun a b => a = b) (fun _ => rfl) x) fun a _ same =>
    same ▸ next a

/-- A question that both runs answer alike. -/
theorem ite {p q : Prop} [Decidable p] [Decidable q] (same : p ↔ q)
    {x x' : Except Fault α} {y y' : Except Fault β}
    (isTrue : Parallel R V x y) (isFalse : Parallel R V x' y') :
    Parallel R V (if p then x else x') (if q then y else y') := by
  by_cases holds : p
  · rw [if_pos holds, if_pos (same.1 holds)]
    exact isTrue
  · rw [if_neg holds, if_neg (mt same.2 holds)]
    exact isFalse

end Parallel

/-! ## Accounts -/

namespace Account.Matches

variable {a a' b b' : Account}

theorem refl (cong : Congruence R) (a : Account) : a.Matches R a :=
  ⟨rfl, rfl, .refl cong a.kind, cong.refl a.balance⟩

theorem withBalance (same : a.Matches R a') {balance balance' : Decimal}
    (balances : R balance balance') :
    { a with balance }.Matches R { a' with balance := balance' } :=
  ⟨same.id, same.owner, same.kind, balances⟩

theorem overflow_eq (same : a.Matches R a') (operation : String) :
    a.overflow operation = a'.overflow operation := by
  unfold overflow
  rw [same.id]

variable (cong : Congruence R)
include cong

theorem lt_iff {x x' y y' : Decimal} (left : R x x') (right : R y y') :
    x < y ↔ x' < y' := by
  rw [Decimal.lt_iff, Decimal.lt_iff, cong.sameWorth left,
    cong.sameWorth right]

theorem raised (same : a.Matches R a') (amount : Decimal) :
    Parallel R R (a.raised amount) (a'.raised amount) := by
  have sums := cong.add? same.balance (cong.refl amount)
  unfold Account.raised
  rw [same.overflow_eq]
  generalize a.balance.add? amount = sum at sums
  generalize a'.balance.add? amount = sum' at sums
  cases sums with
  | none => exact .error (.same _)
  | some sums => exact .ok sums

theorem canAccept (same : a.Matches R a') (amount : Decimal) :
    Parallel R (fun _ _ => True) (a.canAccept amount) (a'.canAccept amount) :=
  (raised cong same amount).bind fun _ _ _ => .ok trivial

theorem deposit (same : a.Matches R a') (amount : Decimal) :
    Parallel R (Account.Matches R) (a.deposit amount) (a'.deposit amount) :=
  .bind_same fun _ => (raised cong same amount).bind fun _ _ balances =>
    .ok (same.withBalance balances)

theorem checkCover (same : a.Matches R a') (amount : Decimal) :
    Parallel R (fun _ _ => True) (a.checkCover amount)
      (a'.checkCover amount) := by
  have kinds := same.kind
  unfold Account.checkCover
  rw [same.id, same.overflow_eq]
  generalize a.kind = kind at kinds
  generalize a'.kind = kind' at kinds
  cases kinds with
  | savings rates =>
    exact .ite (lt_iff cong same.balance (cong.refl amount))
      (.error (.insufficientFunds _ _ same.balance)) (.ok trivial)
  | @checking limit limit' limits =>
    have sums := cong.add? same.balance limits
    dsimp only
    generalize a.balance.add? limit = sum at sums
    generalize a'.balance.add? limit' = sum' at sums
    cases sums with
    | none => exact .error (.same _)
    | some sums =>
      exact .ite (lt_iff cong sums (cong.refl amount))
        (.error (.overdraftExceeded _ _ sums)) (.ok trivial)

theorem withdraw (same : a.Matches R a') (amount : Decimal) :
    Parallel R (Account.Matches R) (a.withdraw amount)
      (a'.withdraw amount) := by
  have differences := cong.sub? same.balance (cong.refl amount)
  refine .bind_same fun _ => (checkCover cong same amount).bind fun _ _ _ => ?_
  rw [same.overflow_eq]
  generalize a.balance.sub? amount = difference at differences
  generalize a'.balance.sub? amount = difference' at differences
  cases differences with
  | none => exact .error (.same _)
  | some balances => exact .ok (same.withBalance balances)

/-- Whether two results are the same but for the accounts, which match. -/
def Settled (R : Decimal → Decimal → Prop) (r r' : Status × Account) : Prop :=
  r.1 = r'.1 ∧ r.2.Matches R r'.2

theorem settleWithdrawal (same : a.Matches R a') (amount : Decimal) :
    Parallel R (Settled R) (settleWithdrawal a amount)
      (settleWithdrawal a' amount) := by
  have withdrawals := withdraw cong same amount
  unfold Passbook.settleWithdrawal
  generalize a.withdraw amount = result at withdrawals
  generalize a'.withdraw amount = result' at withdrawals
  cases withdrawals with
  | ok accounts => exact .ok ⟨rfl, accounts⟩
  | error faults =>
    dsimp only
    rw [faults.isRefusal_eq]
    exact .ite Iff.rfl (.ok ⟨rfl, same⟩) (.error faults)

theorem settlingTransfer (a_same : a.Matches R a') (b_same : b.Matches R b')
    (amount : Decimal) :
    Parallel R
      (fun r r' => r.1 = r'.1 ∧ r.2.1.Matches R r'.2.1 ∧
        r.2.2.Matches R r'.2.2)
      (Operation.settlingTransfer a b amount)
      (Operation.settlingTransfer a' b' amount) := by
  refine (canAccept cong b_same amount).bind fun _ _ _ => ?_
  refine (settleWithdrawal cong a_same amount).bind ?_
  rintro ⟨status, x⟩ ⟨status', x'⟩ ⟨rfl, x_same⟩
  cases status with
  | completed =>
    exact (deposit cong b_same amount).bind fun _ _ y_same =>
      .ok ⟨rfl, x_same, y_same⟩
  | failed => exact .ok ⟨rfl, x_same, b_same⟩

theorem interestOn {balance balance' rate rate' : Decimal}
    (balances : R balance balance') (rates : R rate rate') :
    Option.Rel R (Account.interestOn balance rate)
      (Account.interestOn balance' rate') := by
  have products := cong.mul? balances rates
  unfold Account.interestOn
  generalize balance.mul? rate = product at products
  generalize balance'.mul? rate' = product' at products
  cases products with
  | none => exact .none
  | some products => exact .some (cong.roundTo products moneyPlaces)

theorem creditInterest (same : a.Matches R a') :
    Parallel R (fun r r' => R r.1 r'.1 ∧ r.2.Matches R r'.2)
      a.creditInterest a'.creditInterest := by
  have kinds := same.kind
  unfold Account.creditInterest
  rw [same.id, same.overflow_eq]
  generalize a.kind = kind at kinds
  generalize a'.kind = kind' at kinds
  cases kinds with
  | checking limits => exact .error (.same _)
  | @savings rate rate' rates =>
    have earned := interestOn cong same.balance rates
    dsimp only
    generalize Account.interestOn a.balance rate = interest at earned
    generalize Account.interestOn a'.balance rate' = interest' at earned
    cases earned with
    | none => exact .error (.same _)
    | @some interest interest' interests =>
      have sums := cong.add? same.balance interests
      dsimp only
      generalize a.balance.add? interest = sum at sums
      generalize a'.balance.add? interest' = sum' at sums
      cases sums with
      | none => exact .error (.same _)
      | some sums =>
        exact .ok ⟨interests, rfl, same.owner, .savings rates, sums⟩

theorem setLimit (same : a.Matches R a') (limit : Decimal) :
    Parallel R (Account.Matches R) (a.setLimit limit) (a'.setLimit limit) := by
  have kinds := same.kind
  unfold Account.setLimit
  rw [same.id]
  generalize a.kind = kind at kinds
  generalize a'.kind = kind' at kinds
  cases kinds with
  | savings rates => exact .error (.same _)
  | checking limits =>
    refine .bind_same fun kind => ?_
    exact .ite (lt_iff cong same.balance (cong.refl kind.floor))
      (.error (.limitBelowBalance _ _ same.balance))
      (.ok ⟨rfl, same.owner, .refl cong kind, same.balance⟩)

end Account.Matches

theorem MatchBalances.refl (cong : Congruence R) :
    ∀ balances, MatchBalances R balances balances
  | [] => .nil
  | entry :: rest => .cons ⟨rfl, cong.refl entry.2⟩ (refl cong rest)

theorem Posting.Matches.refl (cong : Congruence R) :
    ∀ posting : Posting, posting.Matches R posting
  | .opened account => .opened account
  | .closed id account => .closed id (.refl cong account)
  | .amended id kind balance outcome =>
    .amended id outcome (.refl cong kind) (cong.refl balance)
  | .moved balances ⟨movement, amount⟩ status =>
    .moved movement status (.refl cong balances) (cong.refl amount)

/-! ## Operations -/

namespace Operation

variable {find? find?' : AccountId → Option Account}

theorem seek_parallel {id : AccountId}
    (found : Option.Rel (Account.Matches R) (find? id) (find?' id)) :
    Parallel R (Account.Matches R) (seek find? id) (seek find?' id) := by
  unfold seek
  generalize find? id = account at found
  generalize find?' id = account' at found
  cases found with
  | none => exact .error (.same _)
  | some same => exact .ok same

theorem closing_parallel {id : AccountId}
    (found : Option.Rel (Account.Matches R) (find? id) (find?' id)) :
    Parallel R (Posting.Matches R) (closing find? id) (closing find?' id) :=
  (seek_parallel found).bind fun _ _ same => .ok (.closed id same)

variable (cong : Congruence R)
include cong

theorem depositing_parallel {id : AccountId} (amount : Decimal)
    (found : Option.Rel (Account.Matches R) (find? id) (find?' id)) :
    Parallel R (Posting.Matches R) (depositing find? id amount)
      (depositing find?' id amount) :=
  .bind_same fun _ => (seek_parallel found).bind fun _ _ same =>
    (same.deposit cong amount).bind fun _ _ result =>
      .ok (.moved _ _ (.cons ⟨rfl, result.balance⟩ .nil) (cong.refl amount))

theorem withdrawing_parallel {id : AccountId} (amount : Decimal)
    (found : Option.Rel (Account.Matches R) (find? id) (find?' id)) :
    Parallel R (Posting.Matches R) (withdrawing find? id amount)
      (withdrawing find?' id amount) := by
  refine .bind_same fun _ => (seek_parallel found).bind fun _ _ same => ?_
  refine (same.settleWithdrawal cong amount).bind ?_
  rintro ⟨status, x⟩ ⟨_, x'⟩ ⟨rfl, result⟩
  exact .ok (.moved _ _ (.cons ⟨rfl, result.balance⟩ .nil) (cong.refl amount))

theorem transferring_parallel {source destination : AccountId}
    (amount : Decimal)
    (a_found : Option.Rel (Account.Matches R) (find? source) (find?' source))
    (b_found : Option.Rel (Account.Matches R) (find? destination)
      (find?' destination)) :
    Parallel R (Posting.Matches R)
      (transferring find? source destination amount)
      (transferring find?' source destination amount) := by
  refine .bind_same fun _ => .ite Iff.rfl (.error (.same _)) ?_
  refine (seek_parallel a_found).bind fun _ _ a_same => ?_
  refine (seek_parallel b_found).bind fun _ _ b_same => ?_
  refine (a_same.settlingTransfer cong b_same amount).bind ?_
  rintro ⟨status, x, y⟩ ⟨_, x', y'⟩ ⟨rfl, x_same, y_same⟩
  exact .ok (.moved _ _
    (.cons ⟨rfl, x_same.balance⟩ (.cons ⟨rfl, y_same.balance⟩ .nil))
    (cong.refl amount))

theorem crediting_parallel {id : AccountId}
    (found : Option.Rel (Account.Matches R) (find? id) (find?' id)) :
    Parallel R (Posting.Matches R) (crediting find? id)
      (crediting find?' id) := by
  refine (seek_parallel found).bind fun _ _ same => ?_
  refine (same.creditInterest cong).bind ?_
  rintro ⟨interest, x⟩ ⟨interest', x'⟩ ⟨interests, result⟩
  exact .ite (cong.sameWorth interests).mantissa_eq_zero_iff
    (.ok (.amended _ _ result.kind result.balance))
    (.ok (.moved _ _ (.cons ⟨rfl, result.balance⟩ .nil) interests))

theorem limiting_parallel {id : AccountId} (limit : Decimal)
    (found : Option.Rel (Account.Matches R) (find? id) (find?' id)) :
    Parallel R (Posting.Matches R) (limiting find? id limit)
      (limiting find?' id limit) :=
  (seek_parallel found).bind fun _ _ same =>
    (same.setLimit cong limit).bind fun _ _ result =>
      .ok (.amended _ _ result.kind result.balance)

/-- Operations post alike if the accounts of their footprints match. -/
theorem posting?_parallel {operation : Operation}
    {opening opening' : AccountId → OwnerId → AccountKind →
      Except Fault Posting}
    (found : ∀ id ∈ operation.accounts,
      Option.Rel (Account.Matches R) (find? id) (find?' id))
    (openings : ∀ id owner kind,
      operation = .openAccount (some id) owner kind →
        opening id owner kind = opening' id owner kind) :
    Option.Rel (Parallel R (Posting.Matches R))
      (operation.posting? find? opening)
      (operation.posting? find?' opening') := by
  cases operation with
  | openAccount given owner kind =>
    cases given with
    | none => exact .none
    | some id =>
      refine .some ?_
      rw [openings id owner kind rfl]
      exact .refl (Posting.Matches.refl cong) _
  | closeAccount id =>
    exact .some (closing_parallel (found id List.mem_cons_self))
  | deposit id amount =>
    exact .some
      (depositing_parallel cong amount (found id List.mem_cons_self))
  | withdraw id amount =>
    exact .some
      (withdrawing_parallel cong amount (found id List.mem_cons_self))
  | transfer source destination amount =>
    exact .some (transferring_parallel cong amount
      (found source List.mem_cons_self)
      (found destination (List.mem_cons_of_mem source List.mem_cons_self)))
  | creditInterest given =>
    cases given with
    | none => exact .none
    | some id =>
      exact .some (crediting_parallel cong (found id List.mem_cons_self))
  | setLimit id limit =>
    exact .some (limiting_parallel cong limit (found id List.mem_cons_self))

end Operation

end Passbook
