import Passbook.Proofs.Lawful

/-!
# What a ledger refuses

A fault that a ledger answers with is one of the request, or of the accounts it
names. It is never a matter of rights, which a ledger knows nothing of, and
never a refusal by an account's rule, since that settles as a failed movement.
That there are no ids left is answered only where one has to be found.

The steps that lead to a posting are gone through one by one: `Yields` is kept
by a sequence of steps, so a step that calls another refers to it.

## Main results

* `yields_posting?` — what an operation with a posting is refused for.
* `Impartial` — what a ledger refuses any operation for; both ledgers have it.
-/

namespace Passbook

/-- Whether a fault is neither a matter of rights nor of an account's rule. -/
def Fault.IsPlain (fault : Fault) : Prop :=
  fault.category ≠ .accessDenied ∧ fault.category ≠ .businessRule

theorem Fault.isPlain_idsExhausted : IsPlain .idsExhausted :=
  ⟨by decide, by decide⟩

/-- Whether a fault is plain and comes of the request or the accounts it names,
and not of how many ids there are. -/
def Fault.OfRequest (fault : Fault) : Prop :=
  fault ≠ .idsExhausted ∧ fault.IsPlain

/-- Whether a step that is refused is refused for one of some faults. -/
def Yields {α : Type} (allowed : Fault → Prop) (step : Except Fault α) : Prop :=
  ∀ fault, step = .error fault → allowed fault

namespace Yields

variable {α β : Type} {allowed : Fault → Prop}

theorem ok (a : α) : Yields allowed (.ok a) := nofun

theorem error {fault : Fault} (holds : allowed fault) :
    Yields allowed (.error fault : Except Fault α) := by
  intro other eq
  cases eq
  exact holds

theorem bind {step : Except Fault α} {next : α → Except Fault β}
    (first : Yields allowed step) (later : ∀ a, Yields allowed (next a)) :
    Yields allowed (step >>= next) := by
  cases step with
  | error fault => exact error (first fault rfl)
  | ok a => exact later a

theorem map {step : Except Fault α} (first : Yields allowed step) (f : α → β) :
    Yields allowed (step.map f) := by
  cases step with
  | error fault => exact error (first fault rfl)
  | ok a => exact ok (f a)

theorem ite {condition : Prop} [Decidable condition] {a b : Except Fault α}
    (yes : Yields allowed a) (no : Yields allowed b) :
    Yields allowed (if condition then a else b) := by
  split
  · exact yes
  · exact no

theorem imp {allowed' : Fault → Prop} {step : Except Fault α}
    (yields : Yields allowed step)
    (implies : ∀ fault, allowed fault → allowed' fault) :
    Yields allowed' step :=
  fun fault eq => implies fault (yields fault eq)

end Yields

/-! ## Amounts and accounts -/

theorem yields_checkPlaces (amount : Decimal) :
    Yields Fault.OfRequest (checkPlaces amount) :=
  .ite (.ok _) (.error ⟨nofun, nofun, nofun⟩)

theorem yields_checkAmount (amount : Decimal) :
    Yields Fault.OfRequest (checkAmount amount) :=
  .ite (.error ⟨nofun, nofun, nofun⟩) (yields_checkPlaces amount)

theorem AccountKind.yields_ofLimit (limit : Decimal) :
    Yields Fault.OfRequest (ofLimit limit) :=
  .ite (.error ⟨nofun, nofun, nofun⟩)
    ((yields_checkPlaces limit).bind fun _ => .ok _)

theorem AccountKind.yields_validate (kind : AccountKind) :
    Yields Fault.OfRequest kind.validate := by
  cases kind with
  | savings rate => exact .ite (.error ⟨nofun, nofun, nofun⟩) (.ok _)
  | checking limit => exact yields_ofLimit limit

theorem AccountId.yields_issue (n : Nat) : Yields Fault.IsPlain (issue n) := by
  unfold issue
  cases ofNumber? n with
  | none => exact .error Fault.isPlain_idsExhausted
  | some id => exact .ok id

namespace Account

variable (account : Account) (amount : Decimal)

theorem yields_new (id : AccountId) (owner : OwnerId) (kind : AccountKind) :
    Yields Fault.OfRequest (new id owner kind) :=
  kind.yields_validate.bind fun _ => .ok _

theorem yields_raised : Yields Fault.OfRequest (account.raised amount) := by
  unfold raised
  cases account.balance.add? amount with
  | none => exact .error ⟨nofun, nofun, nofun⟩
  | some balance => exact .ok balance

theorem yields_canAccept : Yields Fault.OfRequest (account.canAccept amount) :=
  (account.yields_raised amount).bind fun _ => .ok _

theorem yields_deposit : Yields Fault.OfRequest (account.deposit amount) :=
  (yields_checkAmount amount).bind fun _ =>
    (account.yields_raised amount).bind fun _ => .ok _

/-- A withdrawal may be refused by rule, though not for want of rights or
ids. -/
theorem yields_withdraw :
    Yields (fun fault => fault ≠ .idsExhausted ∧
      fault.category ≠ .accessDenied) (account.withdraw amount) := by
  have covered : Yields (fun fault => fault ≠ .idsExhausted ∧
      fault.category ≠ .accessDenied) (account.checkCover amount) := by
    unfold checkCover
    cases account.kind with
    | savings rate => exact .ite (.error ⟨nofun, nofun⟩) (.ok _)
    | checking limit =>
      dsimp only
      cases account.balance.add? limit with
      | none => exact .error ⟨nofun, nofun⟩
      | some available => exact .ite (.error ⟨nofun, nofun⟩) (.ok _)
  have checked := (yields_checkAmount amount).imp fun _ ⟨left, plain⟩ =>
    And.intro left plain.1
  refine checked.bind fun _ => covered.bind fun _ => ?_
  cases account.balance.sub? amount with
  | none => exact .error ⟨nofun, nofun⟩
  | some balance => exact .ok _

theorem yields_creditInterest :
    Yields Fault.OfRequest account.creditInterest := by
  unfold creditInterest
  cases account.kind with
  | checking limit => exact .error ⟨nofun, nofun, nofun⟩
  | savings rate =>
    dsimp only
    cases interestOn account.balance rate with
    | none => exact .error ⟨nofun, nofun, nofun⟩
    | some interest =>
      dsimp only
      cases account.balance.add? interest with
      | none => exact .error ⟨nofun, nofun, nofun⟩
      | some balance => exact .ok _

theorem yields_setLimit (limit : Decimal) :
    Yields Fault.OfRequest (account.setLimit limit) := by
  unfold setLimit
  cases account.kind with
  | savings rate => exact .error ⟨nofun, nofun, nofun⟩
  | checking old =>
    refine (AccountKind.yields_ofLimit limit).bind fun kind => ?_
    exact .ite (.error ⟨nofun, nofun, nofun⟩) (.ok _)

end Account

/-- What an account's rule refuses is settled, and everything else is plain. -/
theorem yields_settleWithdrawal (account : Account) (amount : Decimal) :
    Yields Fault.OfRequest (settleWithdrawal account amount) := by
  have yields := account.yields_withdraw amount
  unfold settleWithdrawal
  cases taken : account.withdraw amount with
  | ok rest => exact .ok _
  | error fault =>
    dsimp only
    by_cases refusal : fault.isRefusal = true
    · rw [if_pos refusal]
      exact .ok _
    · rw [if_neg refusal]
      have not_by_rule : fault.category ≠ .businessRule :=
        fun eq => refusal (beq_iff_eq.2 eq)
      obtain ⟨left, not_denied⟩ := yields fault taken
      exact .error ⟨left, not_denied, not_by_rule⟩

/-! ## Postings -/

namespace Operation

variable {find? : AccountId → Option Account}

theorem yields_seek (id : AccountId) :
    Yields Fault.OfRequest (seek find? id) := by
  unfold seek
  cases find? id with
  | none => exact .error ⟨nofun, nofun, nofun⟩
  | some account => exact .ok account

theorem yields_settlingTransfer (a b : Account) (amount : Decimal) :
    Yields Fault.OfRequest (settlingTransfer a b amount) := by
  refine (b.yields_canAccept amount).bind fun _ => ?_
  refine (yields_settleWithdrawal a amount).bind fun settled => ?_
  obtain ⟨status, rest⟩ := settled
  exact .ite ((b.yields_deposit amount).bind fun _ => .ok _) (.ok _)

theorem yields_transferring (source destination : AccountId)
    (amount : Decimal) :
    Yields Fault.OfRequest (transferring find? source destination amount) := by
  refine (yields_checkAmount amount).bind fun _ => ?_
  refine .ite (.error ⟨nofun, nofun, nofun⟩) ?_
  refine (yields_seek source).bind fun a => ?_
  refine (yields_seek destination).bind fun b => ?_
  exact (yields_settlingTransfer a b amount).bind fun _ => .ok _

theorem yields_crediting (id : AccountId) :
    Yields Fault.OfRequest (crediting find? id) := by
  refine (yields_seek id).bind fun account => ?_
  exact account.yields_creditInterest.bind fun _ => .ite (.ok _) (.ok _)

/-- What an operation with a posting is refused for, if that is so for the
opening of an account. -/
theorem yields_posting?
    {opening : AccountId → OwnerId → AccountKind → Except Fault Posting}
    (opens : ∀ id owner kind, Yields Fault.OfRequest (opening id owner kind))
    {operation : Operation} {posting : Except Fault Posting}
    (posts : operation.posting? find? opening = some posting) :
    Yields Fault.OfRequest posting := by
  cases operation with
  | openAccount given owner kind =>
    cases given with
    | none => cases posts
    | some id =>
      cases posts
      exact opens id owner kind
  | closeAccount id =>
    cases posts
    exact (yields_seek id).bind fun _ => .ok _
  | deposit id amount =>
    cases posts
    exact (yields_checkAmount amount).bind fun _ =>
      (yields_seek id).bind fun account =>
        (account.yields_deposit amount).bind fun _ => .ok _
  | withdraw id amount =>
    cases posts
    exact (yields_checkAmount amount).bind fun _ =>
      (yields_seek id).bind fun account =>
        (yields_settleWithdrawal account amount).bind fun _ => .ok _
  | transfer source destination amount =>
    cases posts
    exact yields_transferring source destination amount
  | creditInterest given =>
    cases given with
    | none => cases posts
    | some id =>
      cases posts
      exact yields_crediting id
  | setLimit id limit =>
    cases posts
    exact (yields_seek id).bind fun account =>
      (account.yields_setLimit limit).bind fun _ => .ok _

end Operation

/-! ## Ledgers -/

namespace Bookkeeping

open Transact

/-- A ledger whose refusals are plain, and which runs out of ids only when it
has to find one. -/
class Impartial (β : Type) [Bookkeeping β] : Prop where
  yields_given : ∀ (clock : Clock) (operation : Operation) (ledger : β),
    (∀ owner kind, operation ≠ .openAccount none owner kind) →
      Yields Fault.OfRequest (answer ((perform clock operation).run ledger))
  yields_openNext : ∀ (owner : OwnerId) (kind : AccountKind) (ledger : β),
    Yields Fault.IsPlain (answer ((openAccount none owner kind).run ledger))

theorem Impartial.yields_perform {β : Type} [Bookkeeping β] [Impartial β]
    (clock : Clock) (operation : Operation) (ledger : β) :
    Yields Fault.IsPlain (answer ((perform clock operation).run ledger)) := by
  by_cases opens_next : ∃ owner kind, operation = .openAccount none owner kind
  · obtain ⟨owner, kind, rfl⟩ := opens_next
    rw [answer_perform_openAccount]
    exact (yields_openNext owner kind ledger).map _
  · have given : ∀ owner kind, operation ≠ .openAccount none owner kind :=
      fun owner kind eq => opens_next ⟨owner, kind, eq⟩
    exact (yields_given clock operation ledger given).imp fun _ => And.right

/-- A posting that is carried out is refused for what there is instead of
it. -/
theorem yields_carryOut {β : Type} [Bookkeeping β] {withBooks : β → Books → β}
    (clock : Clock) (ledger : β) {posting : Except Fault Posting}
    (yields : Yields Fault.OfRequest posting) :
    Yields Fault.OfRequest
      (answer (Posting.carryOut withBooks clock ledger posting)) := by
  cases posting with
  | error fault => exact .error (yields fault rfl)
  | ok p => exact .ok _

/-- A ledger that carries out postings, and never refuses to credit all, has the
same reasons to refuse an operation as it has when it opens an account under a
given id. -/
theorem yields_perform_of {β : Type} [Bookkeeping β]
    {withBooks : β → Books → β} {clock : Clock} {ledger : β}
    {opening : AccountId → OwnerId → AccountKind → Except Fault Posting}
    (carries : ∀ {operation : Operation} {posting : Except Fault Posting},
      (∀ given owner kind, operation ≠ .openAccount given owner kind) →
      operation.posting? (accounts ledger).find? opening = some posting →
        (perform clock operation).run ledger =
          Posting.carryOut withBooks clock ledger posting)
    (opening_yields : ∀ id owner kind,
      Yields Fault.OfRequest (opening id owner kind))
    (opens : ∀ id owner kind, Yields Fault.OfRequest
      (answer ((openAccount (some id) owner kind).run ledger)))
    (credits_all : Yields Fault.OfRequest
      (answer ((perform clock (.creditInterest none)).run ledger)))
    {operation : Operation}
    (given : ∀ owner kind, operation ≠ .openAccount none owner kind) :
    Yields Fault.OfRequest
      (answer ((perform clock operation).run ledger)) := by
  by_cases opening_asked : ∃ id owner kind,
    operation = .openAccount (some id) owner kind
  · obtain ⟨id, owner, kind, rfl⟩ := opening_asked
    rw [answer_perform_openAccount]
    exact (opens id owner kind).map _
  · have opens_none : ∀ given owner kind,
        operation ≠ .openAccount given owner kind
      | none, owner, kind => given owner kind
      | some id, owner, kind => fun eq => opening_asked ⟨id, owner, kind, eq⟩
    cases posts : operation.posting? (accounts ledger).find? opening with
    | some posting =>
      rw [carries opens_none posts]
      exact yields_carryOut clock ledger
        (Operation.yields_posting? opening_yields posts)
    | none =>
      rw [Operation.posting?_eq_none_iff,
        Operation.footprint_eq_none_iff] at posts
      rcases posts with ⟨owner, kind, rfl⟩ | rfl
      · exact absurd rfl (given owner kind)
      · exact credits_all

end Bookkeeping

namespace Ledger

open Bookkeeping Transact

theorem yields_opening (find? : AccountId → Option Account) (id : AccountId)
    (owner : OwnerId) (kind : AccountKind) :
    Yields Fault.OfRequest (opening find? id owner kind) :=
  .ite (.error ⟨nofun, nofun, nofun⟩)
    ((Account.yields_new id owner kind).bind fun _ => .ok _)

theorem yields_openAs (id : AccountId) (owner : OwnerId) (kind : AccountKind)
    (ledger : Ledger) :
    Yields Fault.OfRequest (answer ((openAs id owner kind).run ledger)) := by
  have opens := yields_opening ledger.accounts.find? id owner kind
  rw [run_openAs (.still default)]
  cases posts : opening ledger.accounts.find? id owner kind with
  | error fault => exact .error (opens fault posts)
  | ok posting => exact .ok id

theorem yields_openNext (owner : OwnerId) (kind : AccountKind)
    (ledger : Ledger) :
    Yields Fault.IsPlain (answer ((openNext owner kind).run ledger)) := by
  have issues : Yields Fault.IsPlain ledger.nextId := AccountId.yields_issue _
  rw [run_openNext]
  cases next : ledger.nextId with
  | error fault => exact .error (issues fault next)
  | ok id => exact (yields_openAs id owner kind ledger).imp fun _ => And.right

instance : Impartial Ledger where
  yields_given _ _ ledger :=
    yields_perform_of run_perform (yields_opening _)
      (fun id owner kind => yields_openAs id owner kind ledger) (.ok _)
  yields_openNext := yields_openNext

end Ledger

namespace SharedLedger

open Bookkeeping Transact

theorem yields_opening (find? : AccountId → Option Account) (id : AccountId)
    (owner : OwnerId) (kind : AccountKind) :
    Yields Fault.OfRequest (opening find? id owner kind) :=
  (Account.yields_new id owner kind).bind fun _ =>
    .ite (.error ⟨nofun, nofun, nofun⟩) (.ok _)

theorem yields_openAs (id : AccountId) (owner : OwnerId) (kind : AccountKind)
    (ledger : SharedLedger) :
    Yields Fault.OfRequest (answer ((openAs id owner kind).run ledger)) := by
  have opens := yields_opening ledger.accounts.find? id owner kind
  rw [run_openAs (.still default)]
  cases posts : opening ledger.accounts.find? id owner kind with
  | error fault => exact .error (opens fault posts)
  | ok posting => exact .ok id

theorem yields_openNextFrom (owner : OwnerId) (kind : AccountKind)
    (ledger : SharedLedger) :
    Yields Fault.IsPlain (answer (openNextFrom owner kind ledger)) := by
  fun_induction openNextFrom owner kind ledger with
  | case1 ledger advanced in_range fault s occupied ih => exact ih
  | case2 ledger advanced in_range not_occupied =>
    exact (yields_openAs _ owner kind advanced).imp fun _ => And.right
  | case3 ledger advanced out_of_range =>
    exact .error Fault.isPlain_idsExhausted

instance : Impartial SharedLedger where
  yields_given _ _ ledger :=
    yields_perform_of run_perform (yields_opening _)
      (fun id owner kind => yields_openAs id owner kind ledger) (.ok _)
  yields_openNext := yields_openNextFrom

end SharedLedger

end Passbook
