import Passbook.Proofs.Decimal.Bracket
import Passbook.Proofs.Lawful

/-!
# A refused operation changes nothing

A refusal undoes nothing, so whatever an operation did before it stays done.
The ledger of one owner gets by without undoing: everything is checked before
the first change is made, but for a transfer, which takes the money out of one
account before it is paid into another. There the question whether the other
account can accept the amount, asked first, is the same sum as the payment, so
the payment is not refused.

## Main results

* `run_settleTransfer_of_canAccept` — a transfer that has taken the money out
  pays it in.
* `Ledger.eq_of_refused` — a refused operation leaves the ledger as it was.
* `Ledger.after_granted` — a run comes to the same without its refusals.
-/

namespace Passbook

open Bookkeeping Transact

/-! ## Transfers -/

/-- Once the destination can accept an amount and the source has let it go, the
destination takes it. -/
theorem run_settleTransfer_of_canAccept {source destination rest : Account}
    {amount : Decimal} (accepts : destination.canAccept amount = .ok ())
    (taken : source.withdraw amount = .ok rest) :
    ∃ paid, destination.deposit amount = .ok paid ∧
      (settleTransfer amount).run (source, destination) =
        .ok .completed (rest, paid) := by
  have valid : checkAmount amount = .ok () :=
    (Account.withdraw_eq_ok_iff.1 taken).1
  obtain ⟨balance, -, paid⟩ := deposit_of_canAccept accepts valid
  have settled : settleWithdrawal source amount = .ok (.completed, rest) :=
    settleWithdrawal_completed_iff.2 taken
  refine ⟨_, paid, ?_⟩
  rw [run_settleTransfer _ _ valid]
  unfold Operation.settlingTransfer
  simp only [accepts, settled, ok_bind, if_true, paid, pure_eq_ok]

/-! ## Refusals -/

namespace Posting

/-- What carries out a posting changes nothing if there is none. -/
theorem eq_of_carryOut_refused {β : Type} [Bookkeeping β]
    {withBooks : β → Books → β} {clock : Clock} {ledger reached : β}
    {posting : Except Fault Posting} {fault : Fault}
    (refused : carryOut withBooks clock ledger posting = .error fault reached) :
    reached = ledger := by
  cases posting with
  | error _ =>
    cases refused
    rfl
  | ok _ => cases refused

end Posting

namespace Ledger

variable {ledger reached : Ledger} {fault : Fault}

theorem eq_of_openAs_refused {id : AccountId} {owner : OwnerId}
    {kind : AccountKind}
    (refused : (openAs id owner kind).run ledger = .error fault reached) :
    reached = ledger := by
  -- no time is read, so any clock will do
  rw [run_openAs (.still default)] at refused
  cases posts : opening ledger.accounts.find? id owner kind with
  | error _ =>
    rw [posts] at refused
    cases refused
    rfl
  | ok _ =>
    rw [posts] at refused
    cases refused

theorem eq_of_openAccount_refused {given : Option AccountId} {owner : OwnerId}
    {kind : AccountKind}
    (refused : (openAccount given owner kind).run ledger =
      .error fault reached) :
    reached = ledger := by
  cases given with
  | some id => exact eq_of_openAs_refused refused
  | none =>
    have next : (openNext owner kind).run ledger = .error fault reached :=
      refused
    rw [run_openNext] at next
    cases free : ledger.nextId with
    | error _ =>
      rw [free] at next
      cases next
      rfl
    | ok id =>
      rw [free] at next
      exact eq_of_openAs_refused next

/-- A refused operation leaves the ledger as it was: the accounts, the journal
and the id that is next. -/
theorem eq_of_refused {clock : Clock} {operation : Operation}
    (refused : (perform clock operation).run ledger = .error fault reached) :
    reached = ledger := by
  by_cases opens : ∃ given owner kind, operation = .openAccount given owner kind
  · obtain ⟨given, owner, kind, rfl⟩ := opens
    have opening : (Outcome.opened <$> openAccount given owner kind :
        Transact Ledger Outcome).run ledger = .error fault reached := refused
    rw [run_map] at opening
    cases opened : (openAccount given owner kind).run ledger with
    | ok _ _ =>
      rw [opened] at opening
      cases opening
    | error _ _ =>
      rw [opened] at opening
      cases opening
      exact eq_of_openAccount_refused opened
  · have opens_none : ∀ given owner kind,
        operation ≠ .openAccount given owner kind :=
      fun given owner kind eq => opens ⟨given, owner, kind, eq⟩
    cases posts : operation.posting? ledger.accounts.find?
      (Ledger.opening ledger.accounts.find?) with
    | some posting =>
      rw [run_perform opens_none posts] at refused
      exact Posting.eq_of_carryOut_refused refused
    | none =>
      rw [Operation.posting?_eq_none_iff,
        Operation.footprint_eq_none_iff] at posts
      rcases posts with ⟨owner, kind, rfl⟩ | rfl
      · exact absurd rfl (opens_none none owner kind)
      · -- crediting all is never refused
        cases refused

/-! ## Runs -/

/-- The operations of a run that are not refused. -/
def granted (clock : Clock) : Ledger → List Operation → List Operation
  | _, [] => []
  | ledger, operation :: rest =>
    match answer ((perform clock operation).run ledger) with
    | .ok _ => operation :: granted clock (next clock ledger operation) rest
    | .error _ => granted clock (next clock ledger operation) rest

/-- A run comes to the same without the operations that are refused. -/
theorem after_granted (clock : Clock) (ledger : Ledger)
    (operations : List Operation) :
    after clock ledger (granted clock ledger operations) =
      after clock ledger operations := by
  induction operations generalizing ledger with
  | nil => rfl
  | cons operation rest ih =>
    have rest_eq := ih (next clock ledger operation)
    unfold granted
    cases done : (perform clock operation).run ledger with
    | ok outcome reached => exact rest_eq
    | error fault reached =>
      have same : next clock ledger operation = ledger := by
        unfold next
        rw [done]
        exact eq_of_refused done
      rw [same] at rest_eq
      show after clock ledger (granted clock (next clock ledger operation)
        rest) = after clock (next clock ledger operation) rest
      rw [same]
      exact rest_eq

end Ledger

/-- A refused operation changes nothing, so a run comes to the same without its
refusals. A transfer is not refused any more once the money has been taken
out. -/
theorem unchanged_of_refused :
    (∀ (clock : Clock) (operation : Operation) (ledger reached : Ledger)
      (fault : Fault),
      (perform clock operation).run ledger = .error fault reached →
        reached = ledger) ∧
      (∀ (source destination rest : Account) (amount : Decimal),
        destination.canAccept amount = .ok () →
          source.withdraw amount = .ok rest →
          ∃ paid, destination.deposit amount = .ok paid ∧
            (settleTransfer amount).run (source, destination) =
              .ok .completed (rest, paid)) ∧
      ∀ (clock : Clock) (ledger : Ledger) (operations : List Operation),
        after clock ledger (Ledger.granted clock ledger operations) =
          after clock ledger operations :=
  ⟨fun _ _ _ _ _ => Ledger.eq_of_refused,
    fun _ _ _ _ => run_settleTransfer_of_canAccept, Ledger.after_granted⟩

/-- A ledger whose accounts hold all that an account can hold. -/
def brimful (first second : AccountId) (owner : OwnerId) : Ledger :=
  after (.still default) .empty
    [.openAccount (some first) owner (.savings .zero),
      .openAccount (some second) owner (.savings .zero),
      .deposit first .largest,
      .deposit second .largest]

/-- A savings account without interest and without a record. -/
def Account.plain (id : AccountId) (owner : OwnerId) (balance : Decimal) :
    Account :=
  ⟨id, owner, .savings .zero, balance, #[]⟩

/-- A full account has no room for a transfer, and what comes after the transfer
comes to the same without it. An empty account takes all that another can
hold. -/
theorem unchanged_of_refused_brimful :
    state ((perform (.still default)
      (.transfer ⟨1, by decide⟩ ⟨2, by decide⟩ .one)).run
        (brimful ⟨1, by decide⟩ ⟨2, by decide⟩ ⟨1, by decide⟩)) =
      brimful ⟨1, by decide⟩ ⟨2, by decide⟩ ⟨1, by decide⟩ ∧
    (∃ paid,
      (Account.plain ⟨2, by decide⟩ ⟨1, by decide⟩ .zero).deposit .largest =
        .ok paid ∧
      (settleTransfer .largest).run
        (.plain ⟨1, by decide⟩ ⟨1, by decide⟩ .largest,
          .plain ⟨2, by decide⟩ ⟨1, by decide⟩ .zero) =
        .ok .completed (.plain ⟨1, by decide⟩ ⟨1, by decide⟩ .zero, paid)) ∧
    after (.still default)
        (brimful ⟨1, by decide⟩ ⟨2, by decide⟩ ⟨1, by decide⟩)
        [.withdraw ⟨1, by decide⟩ .one] =
      after (.still default)
        (brimful ⟨1, by decide⟩ ⟨2, by decide⟩ ⟨1, by decide⟩)
        [.transfer ⟨1, by decide⟩ ⟨2, by decide⟩ .one,
          .withdraw ⟨1, by decide⟩ .one] := by
  have granted_eq : Ledger.granted (.still default)
      (brimful ⟨1, by decide⟩ ⟨2, by decide⟩ ⟨1, by decide⟩)
      [.transfer ⟨1, by decide⟩ ⟨2, by decide⟩ .one,
        .withdraw ⟨1, by decide⟩ .one] =
        [.withdraw ⟨1, by decide⟩ .one] := by
    decide +kernel
  refine ⟨unchanged_of_refused.1 (.still default)
      (.transfer ⟨1, by decide⟩ ⟨2, by decide⟩ .one) _ _
      (.overflow "deposit" "ACC002") rfl,
    unchanged_of_refused.2.1 _ _ _ _ rfl rfl, ?_⟩
  rw [← granted_eq]
  exact unchanged_of_refused.2.2 _ _ _

end Passbook
