import Passbook.Proofs.Change
import Passbook.Proofs.LedgerPosting
import Passbook.Proofs.SharedLedgerPosting

/-!
# Ledgers that do no more than they are asked

`Performs` says what an operation can make of the books: a refused one nothing
at all, a successful one what its `Change` posts, and crediting all one such
change after the other. Both ledgers obey it, each by its own way of getting at
the accounts, so an invariant of the books is proved once, by a case for each
constructor of `Change`, and holds of both.

## Main results

* `Ledger.performs`, `SharedLedger.performs` — both ledgers do what `Performs`
  allows.
* `mark_next` — what has nothing to do with the books, only the opening of an
  account moves.
* `Reachable.books_induction` — what every change preserves holds in every
  reachable state.
-/

namespace Passbook

/-- The records that an outcome hands out. -/
def Outcome.records : Outcome → List Record
  | recorded record => [record]
  | credited records => records
  | opened _ | closed _ | limited .. => []

/-- The account that was opened, if one was. -/
def openedBy : Except Fault Outcome → Option AccountId
  | .ok (.opened id) => some id
  | .ok (.closed _) | .ok (.recorded _) | .ok (.credited _) | .ok (.limited ..)
  | .error _ => none

/-- What crediting interest to some accounts, one after the other, can make of
the books. -/
inductive Credits (clock : Clock) :
    Books → List AccountId → List Record → Books → Prop
  | done {books : Books} : Credits clock books [] [] books
  | passed {books books' : Books} {id : AccountId} {ids : List AccountId}
      {records : List Record}
      (rest : Credits clock books ids records books') :
      Credits clock books (id :: ids) records books'
  | credited {books books' : Books} {id : AccountId} {ids : List AccountId}
      {records : List Record} {posting : Posting}
      (change : Change books.accounts.find? (.creditInterest (some id)) posting)
      (rest : Credits clock (posting.write clock books) ids records books') :
      Credits clock books (id :: ids)
        ((posting.outcome clock books).records ++ records) books'

/-- What an operation can answer, and make of the books. -/
inductive Performs (clock : Clock) (books : Books) :
    Operation → Except Fault Outcome → Books → Prop
  | refused {operation : Operation} (fault : Fault) :
      Performs clock books operation (.error fault) books
  | posted {operation : Operation} {posting : Posting}
      (change : Change books.accounts.find? operation posting) :
      Performs clock books operation (.ok (posting.outcome clock books))
        (posting.write clock books)
  | creditedAll {records : List Record} {books' : Books}
      (credits : Credits clock books books.accounts.savingsIds records books') :
      Performs clock books (.creditInterest none)
        (.ok (.credited records)) books'

namespace Bookkeeping

open Transact

/-- A ledger that starts with empty books and does to them what `Performs`
allows. -/
class Lawful (β : Type) [Bookkeeping β] : Prop where
  books_empty : books (empty : β) = ⟨.empty, .empty⟩
  performs : ∀ (clock : Clock) (operation : Operation) (ledger : β),
    Performs clock (books ledger) operation
      (answer ((perform clock operation).run ledger))
      (books (state ((perform clock operation).run ledger)))

section

variable {β : Type} [Bookkeeping β] {withBooks : β → Books → β}

theorem answer_perform_openAccount (clock : Clock) (given : Option AccountId)
    (owner : OwnerId) (kind : AccountKind) (ledger : β) :
    answer ((perform clock (.openAccount given owner kind)).run ledger) =
      (answer ((openAccount given owner kind).run ledger)).map .opened :=
  answer_map _ _ _

theorem state_perform_openAccount (clock : Clock) (given : Option AccountId)
    (owner : OwnerId) (kind : AccountKind) (ledger : β) :
    state ((perform clock (.openAccount given owner kind)).run ledger) =
      state ((openAccount given owner kind).run ledger) :=
  state_map _ _ _

/-- An operation that carries out a posting performs it. -/
theorem performs_carryOut {clock : Clock} {ledger : β} {operation : Operation}
    {posting : Except Fault Posting} (books_withBooks : ∀ books,
      Bookkeeping.books (withBooks ledger books) = books)
    (changes : ∀ p, posting = .ok p →
      Change (accounts ledger).find? operation p) :
    Performs clock (books ledger) operation
      (answer (Posting.carryOut withBooks clock ledger posting))
      (books (state (Posting.carryOut withBooks clock ledger posting))) := by
  cases posting with
  | error fault => exact .refused fault
  | ok p =>
    rw [Posting.carryOut, answer_ok, state_ok, books_withBooks]
    exact .posted (changes p rfl)

/-- Crediting accounts in turn credits each, or passes it over. -/
theorem credits_gather {clock : Clock}
    {credit : AccountId → Transact β (Option Record)}
    (books_withBooks : ∀ ledger books,
      Bookkeeping.books (withBooks ledger books) = books)
    (run_credit : ∀ (ledger : β) (id : AccountId),
      ((fun record => Outcome.credited record.toList) <$> credit id :
        Transact β Outcome).run ledger =
        Posting.carryOut withBooks clock ledger
          (Operation.crediting (accounts ledger).find? id))
    (ids : List AccountId) (ledger : β) :
    Credits clock (books ledger) ids (gather credit ids ledger).1
      (books (gather credit ids ledger).2) := by
  induction ids generalizing ledger with
  | nil => exact .done
  | cons id rest ih =>
    have answered := answer_map (fun record => Outcome.credited record.toList)
      (credit id) ledger
    have reached := state_map (fun record => Outcome.credited record.toList)
      (credit id) ledger
    rw [run_credit] at answered reached
    rw [gather_cons]
    have rest_credits := ih (state ((credit id).run ledger))
    rw [← reached] at rest_credits ⊢
    cases posts : Operation.crediting (accounts ledger).find? id with
    | error fault =>
      rw [posts, Posting.carryOut, answer_error] at answered
      rw [posts] at rest_credits
      cases given : answer ((credit id).run ledger) with
      | error _ => exact .passed rest_credits
      | ok record =>
        rw [given] at answered
        cases answered
    | ok posting =>
      have change : Change (books ledger).accounts.find? _ posting :=
        Change.of_crediting posts
      rw [posts, Posting.carryOut, answer_ok] at answered
      rw [posts, Posting.carryOut, state_ok, books_withBooks] at rest_credits
      cases given : answer ((credit id).run ledger) with
      | error _ =>
        rw [given] at answered
        cases answered
      | ok record =>
        rw [given] at answered
        have same : posting.outcome clock (books ledger) =
            .credited record.toList :=
          Except.ok.inj answered
        have credits := Credits.credited change rest_credits
        rw [same] at credits
        exact credits

end

end Bookkeeping

/-! ## The two ledgers -/

namespace Ledger

open Bookkeeping Transact

theorem performs_openAs (clock : Clock) (ledger : Ledger)
    {given : Option AccountId} (id : AccountId)
    (asked : ∀ other, given = some other → other = id) (owner : OwnerId)
    (kind : AccountKind) :
    Performs clock (books ledger) (.openAccount given owner kind)
      ((answer ((openAs id owner kind).run ledger)).map .opened)
      (books (state ((openAs id owner kind).run ledger))) := by
  rw [run_openAs clock]
  cases posts : opening ledger.accounts.find? id owner kind with
  | error fault => exact .refused fault
  | ok posting =>
    obtain ⟨free, valid, rfl⟩ := opening_eq_ok posts
    exact .posted (.opened asked free valid)

theorem performs (clock : Clock) (operation : Operation) (ledger : Ledger) :
    Performs clock (books ledger) operation
      (answer ((perform clock operation).run ledger))
      (books (state ((perform clock operation).run ledger))) := by
  cases posts : operation.posting? ledger.accounts.find?
    (opening ledger.accounts.find?) with
  | none =>
    rw [Operation.posting?_eq_none_iff,
      Operation.footprint_eq_none_iff] at posts
    rcases posts with ⟨owner, kind, rfl⟩ | rfl
    · rw [answer_perform_openAccount, state_perform_openAccount]
      show Performs clock (books ledger) (.openAccount none owner kind)
        ((answer ((openNext owner kind).run ledger)).map .opened)
        (books (state ((openNext owner kind).run ledger)))
      rw [run_openNext]
      cases ledger.nextId with
      | error fault => exact .refused fault
      | ok id => exact performs_openAs clock ledger id (by simp) owner kind
    · exact .creditedAll (credits_gather (fun _ _ => rfl)
        (fun _ id => run_creditInterest id) _ ledger)
  | some posting =>
    by_cases opens : ∃ given owner kind,
      operation = .openAccount given owner kind
    · obtain ⟨given, owner, kind, rfl⟩ := opens
      cases given with
      | none => cases posts
      | some id =>
        rw [answer_perform_openAccount, state_perform_openAccount]
        exact performs_openAs clock ledger id (by simp) owner kind
    · have opens_none : ∀ given owner kind,
          operation ≠ .openAccount given owner kind :=
        fun given owner kind eq => opens ⟨given, owner, kind, eq⟩
      rw [run_perform opens_none posts]
      exact performs_carryOut (fun _ => rfl) fun p eq =>
        Change.of_posting? opens_none (eq ▸ posts)

instance : Lawful Ledger := ⟨rfl, performs⟩

end Ledger

namespace SharedLedger

open Bookkeeping Transact

theorem performs_openAs (clock : Clock) (ledger : SharedLedger) (id : AccountId)
    (owner : OwnerId) (kind : AccountKind) :
    Performs clock (books ledger) (.openAccount (some id) owner kind)
      ((answer ((openAs id owner kind).run ledger)).map .opened)
      (books (state ((openAs id owner kind).run ledger))) := by
  rw [run_openAs clock]
  cases posts : opening ledger.accounts.find? id owner kind with
  | error fault => exact .refused fault
  | ok posting =>
    obtain ⟨free, valid, rfl⟩ := opening_eq_ok posts
    exact .posted (.opened (by simp) free valid)

theorem performs_openNext (clock : Clock) (ledger : SharedLedger)
    (owner : OwnerId) (kind : AccountKind) :
    Performs clock (books ledger) (.openAccount none owner kind)
      ((answer (openNextFrom owner kind ledger)).map .opened)
      (books (state (openNextFrom owner kind ledger))) := by
  rcases openNextFrom_cases owner kind ledger with
    ⟨fault, s, run, same⟩ | ⟨id, s, run, free, valid, written⟩
  · rw [run, answer_error, state_error, same]
    exact .refused fault
  · rw [run, answer_ok, state_ok, written]
    exact .posted (.opened (by simp) free valid)

theorem performs (clock : Clock) (operation : Operation)
    (ledger : SharedLedger) :
    Performs clock (books ledger) operation
      (answer ((perform clock operation).run ledger))
      (books (state ((perform clock operation).run ledger))) := by
  cases posts : operation.posting? ledger.accounts.find?
    (opening ledger.accounts.find?) with
  | none =>
    rw [Operation.posting?_eq_none_iff,
      Operation.footprint_eq_none_iff] at posts
    rcases posts with ⟨owner, kind, rfl⟩ | rfl
    · rw [answer_perform_openAccount, state_perform_openAccount]
      exact performs_openNext clock ledger owner kind
    · exact .creditedAll (credits_gather (fun _ _ => rfl)
        (fun _ id => run_creditInterest id) _ ledger)
  | some posting =>
    by_cases opens : ∃ given owner kind,
      operation = .openAccount given owner kind
    · obtain ⟨given, owner, kind, rfl⟩ := opens
      cases given with
      | none => cases posts
      | some id =>
        rw [answer_perform_openAccount, state_perform_openAccount]
        exact performs_openAs clock ledger id owner kind
    · have opens_none : ∀ given owner kind,
          operation ≠ .openAccount given owner kind :=
        fun given owner kind eq => opens ⟨given, owner, kind, eq⟩
      rw [run_perform opens_none posts]
      exact performs_carryOut (fun _ => rfl) fun p eq =>
        Change.of_posting? opens_none (eq ▸ posts)

instance : Lawful SharedLedger := ⟨rfl, performs⟩

end SharedLedger

/-! ## Reachable states -/

namespace Bookkeeping

open Transact

variable {β : Type} [Bookkeeping β]

/-- The ledger after an operation, whatever was answered. -/
def next (clock : Clock) (ledger : β) (operation : Operation) : β :=
  state ((perform clock operation).run ledger)

/-- The ledger after some operations. -/
def after (clock : Clock) (ledger : β) (operations : List Operation) : β :=
  operations.foldl (next clock) ledger

/-- The ledgers that operations can make of an empty one. -/
inductive Reachable : β → Prop
  | empty : Reachable empty
  | step (clock : Clock) (operation : Operation) {ledger : β}
    (reached : Reachable ledger) :
      Reachable (next clock ledger operation)

theorem Reachable.after (clock : Clock)
    (operations : List Operation) {ledger : β} (reached : Reachable ledger) :
    Reachable (Bookkeeping.after clock ledger operations) := by
  induction operations generalizing ledger with
  | nil => exact reached
  | cons operation rest ih => exact ih (reached.step clock operation)

theorem after_take_succ (clock : Clock) (ledger : β)
    (operations : List Operation) {n : Nat} (inside : n < operations.length) :
    after clock ledger (operations.take (n + 1)) =
      next clock (after clock ledger (operations.take n)) operations[n] := by
  unfold after
  rw [List.take_succ_eq_append_getElem inside, List.foldl_append]
  rfl

theorem after_append (clock : Clock) (ledger : β)
    (first second : List Operation) :
    after clock ledger (first ++ second) =
      after clock (after clock ledger first) second :=
  List.foldl_append

/-- What the operations of a run answer. -/
def answers (clock : Clock) :
    β → List Operation → List (Except Fault Outcome)
  | _, [] => []
  | ledger, operation :: rest =>
    answer ((perform clock operation).run ledger) ::
      answers clock (next clock ledger operation) rest

theorem answers_append (clock : Clock) (ledger : β)
    (first second : List Operation) :
    answers clock ledger (first ++ second) =
      answers clock ledger first ++
        answers clock (after clock ledger first) second := by
  induction first generalizing ledger with
  | nil => rfl
  | cons operation rest ih =>
    rw [List.cons_append, answers, answers, ih, List.cons_append]
    rfl

theorem answers_take_succ (clock : Clock) (ledger : β)
    {operations : List Operation} {n : Nat} (inside : n < operations.length) :
    answers clock ledger (operations.take (n + 1)) =
      answers clock ledger (operations.take n) ++
        [answer ((perform clock operations[n]).run
          (after clock ledger (operations.take n)))] := by
  rw [List.take_succ_eq_append_getElem inside, answers_append]
  rfl

/-! ## What only opening an account moves -/

section

variable {μ : Type} {mark : β → μ} {clock : Clock}
  (withBooks : β → Books → β)
  (opening : (AccountId → Option Account) → AccountId → OwnerId → AccountKind →
    Except Fault Posting)

/-- What has nothing to do with the books is left alone by an operation that
opens no account and concerns some accounts only. -/
theorem mark_next_of_confined
    (keeps : ∀ ledger books, mark (withBooks ledger books) = mark ledger)
    {ledger : β} {operation : Operation}
    (carries : ∀ posting,
      operation.posting? (accounts ledger).find?
        (opening (accounts ledger).find?) = some posting →
      (perform clock operation).run ledger =
        Posting.carryOut withBooks clock ledger posting)
    (confined : operation.footprint ≠ none) :
    mark (next clock ledger operation) = mark ledger := by
  cases posts : operation.posting? (accounts ledger).find?
    (opening (accounts ledger).find?) with
  | none => exact absurd (Operation.posting?_eq_none_iff.1 posts) confined
  | some posting =>
    unfold next
    rw [carries posting posts]
    cases posting with
    | error fault => rfl
    | ok p => exact keeps ledger _

/-- So it is by crediting accounts in turn. -/
theorem mark_gather
    (credits : ∀ (ledger : β) id,
      mark (next clock ledger (.creditInterest (some id))) = mark ledger)
    (ids : List AccountId) (ledger : β) :
    mark (gather (creditInterest clock) ids ledger).2 = mark ledger := by
  induction ids generalizing ledger with
  | nil => rfl
  | cons id rest ih =>
    have reached : next clock ledger (.creditInterest (some id)) =
        state ((creditInterest clock id).run ledger) :=
      state_map _ _ _
    rw [gather_cons, ih, ← reached, credits]

/-- What has nothing to do with the books is left alone by every operation that
opens no account. -/
theorem mark_next
    (keeps : ∀ ledger books, mark (withBooks ledger books) = mark ledger)
    (carries : ∀ ledger operation posting,
      (∀ given owner kind, operation ≠ .openAccount given owner kind) →
      operation.posting? (accounts ledger).find?
        (opening (accounts ledger).find?) = some posting →
      (perform clock operation).run ledger =
        Posting.carryOut withBooks clock ledger posting)
    (credits_all : ∀ ledger : β, next clock ledger (.creditInterest none) =
      (gather (creditInterest clock) (accounts ledger).savingsIds ledger).2)
    (ledger : β) {operation : Operation}
    (opens_none : ∀ given owner kind,
      operation ≠ .openAccount given owner kind) :
    mark (next clock ledger operation) = mark ledger := by
  by_cases confined : operation.footprint = none
  · rcases Operation.footprint_eq_none_iff.1 confined with
      ⟨owner, kind, rfl⟩ | rfl
    · exact absurd rfl (opens_none none owner kind)
    · rw [credits_all]
      apply mark_gather
      intro ledger id
      exact mark_next_of_confined withBooks opening keeps
        (carries ledger _ · fun _ _ _ => nofun) nofun
  · exact mark_next_of_confined withBooks opening keeps
      (carries ledger _ · opens_none) confined

end

end Bookkeeping

/-- Only opening an account moves the highest number. -/
theorem Ledger.highest_next (clock : Clock) (ledger : Ledger)
    {operation : Operation}
    (opens_none : ∀ given owner kind,
      operation ≠ .openAccount given owner kind) :
    (Bookkeeping.next clock ledger operation).highest = ledger.highest :=
  Bookkeeping.mark_next withBooks opening (fun _ _ => rfl)
    (fun _ _ _ => run_perform) (fun _ => rfl) ledger opens_none

/-- Only opening an account moves the counter. -/
theorem SharedLedger.counter_next (clock : Clock) (ledger : SharedLedger)
    {operation : Operation}
    (opens_none : ∀ given owner kind,
      operation ≠ .openAccount given owner kind) :
    (Bookkeeping.next clock ledger operation).counter = ledger.counter :=
  Bookkeeping.mark_next withBooks opening (fun _ _ => rfl)
    (fun _ _ _ => run_perform) (fun _ => rfl) ledger opens_none

theorem Credits.induction {clock : Clock} {motive : Books → Prop}
    (change : ∀ {books operation posting}, motive books →
      Change books.accounts.find? operation posting →
      motive (posting.write clock books))
    {books books' : Books} {ids : List AccountId} {records : List Record}
    (credits : Credits clock books ids records books') (start : motive books) :
    motive books' := by
  induction credits with
  | done => exact start
  | passed _ ih => exact ih start
  | credited credit _ ih => exact ih (change start credit)

/-- What every change preserves is preserved by every operation. -/
theorem Performs.induction {clock : Clock} {motive : Books → Prop}
    (change : ∀ {books operation posting}, motive books →
      Change books.accounts.find? operation posting →
      motive (posting.write clock books))
    {books books' : Books} {operation : Operation}
    {answer : Except Fault Outcome}
    (performs : Performs clock books operation answer books')
    (start : motive books) :
    motive books' := by
  cases performs with
  | refused fault => exact start
  | posted posts => exact change start posts
  | creditedAll credits => exact credits.induction change start

/-- What every change preserves holds of the books of every reachable state. -/
theorem Bookkeeping.Reachable.books_induction {β : Type}
    [Bookkeeping β] [Lawful β]
    {motive : Books → Prop} (empty : motive ⟨.empty, .empty⟩)
    (change : ∀ {clock books operation posting}, motive books →
      Change books.accounts.find? operation posting →
        motive (posting.write clock books))
    {ledger : β} (reached : Reachable ledger) : motive (books ledger) := by
  induction reached with
  | empty =>
    rw [Lawful.books_empty]
    exact empty
  | step clock operation _ ih =>
    exact (Lawful.performs clock operation _).induction change ih

end Passbook
