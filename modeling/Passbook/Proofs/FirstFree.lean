import Mathlib.Data.Set.Basic
import Mathlib.Order.Bounds.Defs
import Passbook.Proofs.Agreement

/-!
# The search for a free id

A shared ledger opens an account without a given id by trying the numbers behind
its counter, one after the other. The counter is advanced before each attempt,
and an attempt that meets an open account is followed by the next one. Nothing
in this bounds the attempts but that numbers come to an end: there are no ids
behind the last, and each attempt is closer to it.

Which ids are open does not matter. They may have numbers behind the counter,
with gaps among them, as an account that is opened under a given id at the same
time leaves them. The first gap is where the search ends, for what it has passed
by was taken, and opening there leaves the counter where the search has brought
it.

## Main results

* `Attempts.unique` — there is one way to search.
* `tryNext_of_taken`, `freeBehind_advanced` — an attempt at a number that is
  taken, and what it leaves to be searched.
* `ends_openNextFrom` — the search ends, after so many attempts as it has
  advanced the counter, at the first free id or with none left.
* `opens_first_free` — the same for a ledger whose counter is not near its own
  end.
-/

namespace Passbook.SharedLedger

open Transact AccountId

/-- A ledger with its counter advanced. -/
def advanced (ledger : SharedLedger) : SharedLedger :=
  { ledger with counter := ledger.counter + 1 }

/-- The ids behind the counter that no open account has. -/
def freeBehind (ledger : SharedLedger) : Set AccountId :=
  {id | ledger.counter.toNat < id.number ∧ ledger.accounts.find? id = none}

/--
A search for a free id, attempt by attempt: from a ledger, in a number of
attempts, to an answer and the ledger it leaves. It ends when there is no id
with the number behind the counter or when opening under that id is answered
otherwise than that it is taken.
-/
inductive Attempts (owner : OwnerId) (kind : AccountKind) :
    SharedLedger → Nat → EStateM.Result Fault SharedLedger AccountId → Prop
  | exhausted {ledger : SharedLedger} {fault : Fault}
      (none_left : issue ledger.advanced.counter.toNat = .error fault) :
      Attempts owner kind ledger 1 (.error fault ledger.advanced)
  | answered {ledger : SharedLedger} {id : AccountId}
      (issued : issue ledger.advanced.counter.toNat = .ok id)
      (not_taken : ∀ text, answer ((openAs id owner kind).run ledger.advanced) ≠
        .error (.duplicateAccount text)) :
      Attempts owner kind ledger 1 ((openAs id owner kind).run ledger.advanced)
  | taken {ledger reached : SharedLedger} {id : AccountId} {text : String}
      {attempts : Nat} {result : EStateM.Result Fault SharedLedger AccountId}
      (issued : issue ledger.advanced.counter.toNat = .ok id)
      (occupied : (openAs id owner kind).run ledger.advanced =
        .error (.duplicateAccount text) reached)
      (rest : Attempts owner kind reached attempts result) :
      Attempts owner kind ledger (attempts + 1) result

variable {owner : OwnerId} {kind : AccountKind} {ledger : SharedLedger}

/-- There is one way to search. -/
theorem Attempts.unique {attempts attempts' : Nat}
    {result result' : EStateM.Result Fault SharedLedger AccountId}
    (search : Attempts owner kind ledger attempts result)
    (search' : Attempts owner kind ledger attempts' result') :
    attempts = attempts' ∧ result = result' := by
  induction search generalizing attempts' with
  | exhausted none_left =>
    cases search' with
    | exhausted none_left' =>
      rw [none_left] at none_left'
      cases none_left'
      exact ⟨rfl, rfl⟩
    | answered issued | taken issued =>
      rw [none_left] at issued
      cases issued
  | answered issued not_taken =>
    cases search' with
    | exhausted none_left =>
      rw [issued] at none_left
      cases none_left
    | answered issued' =>
      rw [issued] at issued'
      cases issued'
      exact ⟨rfl, rfl⟩
    | taken issued' occupied =>
      rw [issued] at issued'
      cases issued'
      rw [occupied] at not_taken
      exact absurd rfl (not_taken _)
  | taken issued occupied _ ih =>
    cases search' with
    | exhausted none_left =>
      rw [issued] at none_left
      cases none_left
    | answered issued' not_taken =>
      rw [issued] at issued'
      cases issued'
      rw [occupied] at not_taken
      exact absurd rfl (not_taken _)
    | taken issued' occupied' rest' =>
      rw [issued] at issued'
      cases issued'
      rw [occupied] at occupied'
      cases occupied'
      obtain ⟨rfl, rfl⟩ := ih rest'
      exact ⟨rfl, rfl⟩

/-! ## One attempt -/

theorem toNat_counter_advanced
    (in_range : ledger.counter.toNat < 4294967295) :
    ledger.advanced.counter.toNat = ledger.counter.toNat + 1 := by
  show (ledger.counter + 1).toNat = _
  rw [UInt32.toNat_add]
  show (ledger.counter.toNat + 1) % 4294967296 = _
  omega

/-- An attempt at the number behind the counter finds out whether it is taken
before it opens an account. -/
theorem tryNext_of_taken
    (in_range : (ledger.counter + 1).toNat < 1000)
    (taken : ledger.accounts.find? ⟨(ledger.counter + 1).toNat, in_range⟩ ≠
      none)
    (owner : OwnerId) (valid : kind.validate = .ok kind) :
    let id : AccountId := ⟨(ledger.counter + 1).toNat, in_range⟩
    tryNext owner kind ledger in_range =
      .error (.duplicateAccount id.text) ledger.advanced := by
  intro id
  have fresh : Account.new id owner kind = .ok ⟨id, owner, kind, .zero, #[]⟩ :=
    Account.new_eq_ok_iff.2 ⟨valid, rfl⟩
  have is_open : (ledger.accounts.find? id).isSome = true :=
    Option.isSome_iff_ne_none.2 taken
  have posts : opening ledger.accounts.find? id owner kind =
      .error (.duplicateAccount id.text) := by
    unfold opening
    rw [fresh, ok_bind, if_pos is_open]
    rfl
  have run : tryNext owner kind ledger in_range = _ :=
    run_openAs (.still default) id owner kind
  rw [posts] at run
  exact run

/-- If the number behind the counter is taken, the ids behind it are those
behind the next. -/
theorem freeBehind_advanced
    (in_range : (ledger.counter + 1).toNat < 1000)
    (taken : ledger.accounts.find? ⟨(ledger.counter + 1).toNat, in_range⟩ ≠
      none)
    (step : ledger.advanced.counter.toNat = ledger.counter.toNat + 1) :
    ledger.advanced.freeBehind = ledger.freeBehind := by
  ext id
  constructor
  · rintro ⟨behind, free⟩
    exact ⟨by omega, free⟩
  · rintro ⟨behind, free⟩
    have other : id.number ≠ ledger.advanced.counter.toNat := by
      intro here
      have same : id = ⟨(ledger.counter + 1).toNat, in_range⟩ :=
        ext_number here
      rw [same] at free
      exact taken free
    exact ⟨by omega, free⟩

/-- If the number behind the counter is free, it is the first. -/
theorem isLeast_freeBehind
    (in_range : (ledger.counter + 1).toNat < 1000)
    (free : ledger.accounts.find? ⟨(ledger.counter + 1).toNat, in_range⟩ =
      none)
    (step : ledger.advanced.counter.toNat = ledger.counter.toNat + 1) :
    IsLeast ledger.freeBehind ⟨(ledger.counter + 1).toNat, in_range⟩ := by
  have next_eq : (ledger.counter + 1).toNat = ledger.counter.toNat + 1 := step
  refine ⟨⟨?_, free⟩, fun other behind => ?_⟩
  · show ledger.counter.toNat < (ledger.counter + 1).toNat
    omega
  · have other_behind := behind.1
    show (ledger.counter + 1).toNat ≤ other.number
    omega

/-- Behind the last number nothing is free. -/
theorem freeBehind_eq_empty (past : 999 ≤ ledger.counter.toNat) :
    ledger.freeBehind = ∅ := by
  refine Set.eq_empty_iff_forall_notMem.2 fun id mem => ?_
  have behind := mem.1
  have inside := id.number_lt
  omega

/-! ## The search -/

/-- How a search may end: with a new account under the first free id, or with
none left. -/
inductive Ends (owner : OwnerId) (kind : AccountKind) (ledger : SharedLedger) :
    EStateM.Result Fault SharedLedger AccountId → Prop
  | opened {id : AccountId} (first : IsLeast ledger.freeBehind id) :
      Ends owner kind ledger (.ok id { ledger with
        accounts := ledger.accounts.insert ⟨id, owner, kind, .zero, #[]⟩
        counter := UInt32.ofNat id.number })
  | exhausted (none_free : ledger.freeBehind = ∅) (counter : UInt32) :
      Ends owner kind ledger (.error .idsExhausted { ledger with counter })

/-- A search that passes by a taken number ends as the search behind it does. -/
theorem Ends.of_advanced
    {result : EStateM.Result Fault SharedLedger AccountId}
    (same : ledger.advanced.freeBehind = ledger.freeBehind)
    (ends : Ends owner kind ledger.advanced result) :
    Ends owner kind ledger result := by
  cases ends with
  | opened first =>
    rw [same] at first
    exact .opened first
  | exhausted none_free counter =>
    rw [same] at none_free
    exact .exhausted none_free counter

/-- A search ends at the first free id or with none left, after so many attempts
as it has advanced the counter. -/
theorem ends_openNextFrom (owner : OwnerId) (valid : kind.validate = .ok kind)
    (ledger : SharedLedger) (in_range : ledger.counter.toNat < 4294967295) :
    ∃ attempts ≤ max 1 (1000 - ledger.counter.toNat),
      Attempts owner kind ledger attempts (openNextFrom owner kind ledger) ∧
      (state (openNextFrom owner kind ledger)).counter.toNat =
        ledger.counter.toNat + attempts ∧
      Ends owner kind ledger (openNextFrom owner kind ledger) := by
  fun_induction openNextFrom owner kind ledger with
  | case1 ledger next below text reached occupied ih =>
    have step : (ledger.counter + 1).toNat = ledger.counter.toNat + 1 :=
      toNat_counter_advanced in_range
    have tried : tryNext owner kind ledger below =
        .error (.duplicateAccount text) reached := occupied
    by_cases free : ledger.accounts.find? ⟨(ledger.counter + 1).toNat, below⟩ =
        none
    · -- a free number would have been opened, not passed by
      rw [tryNext_of_unused below free owner valid] at tried
      cases tried
    · -- so the ledger reached is this one with its counter advanced
      rw [tryNext_of_taken below free owner valid] at tried
      cases tried
      have next_eq : next.counter.toNat = ledger.counter.toNat + 1 := step
      obtain ⟨attempts, attempts_le, search, counter_eq, ends⟩ :=
        ih (by omega)
      refine ⟨attempts + 1, by omega,
        .taken (issue_eq_ok_iff.2 rfl) occupied search, by omega, ?_⟩
      exact .of_advanced (freeBehind_advanced below free step) ends
  | case2 ledger next below not_occupied =>
    have step : (ledger.counter + 1).toNat = ledger.counter.toNat + 1 :=
      toNat_counter_advanced in_range
    by_cases free : ledger.accounts.find? ⟨(ledger.counter + 1).toNat, below⟩ =
        none
    · have tried := tryNext_of_unused below free owner valid
      have first := isLeast_freeBehind below free step
      refine ⟨1, by omega, .answered (issue_eq_ok_iff.2 rfl) ?_, ?_, ?_⟩
      · intro text taken
        have answered : answer (tryNext owner kind ledger below) =
            .error (.duplicateAccount text) := taken
        rw [tried] at answered
        cases answered
      · show (state (tryNext owner kind ledger below)).counter.toNat = _
        rw [tried]
        exact step
      · show Ends owner kind ledger (tryNext owner kind ledger below)
        have ends : Ends owner kind ledger _ := .opened first
        rw [UInt32.ofNat_toNat] at ends
        rw [tried]
        exact ends
    · exact absurd (tryNext_of_taken below free owner valid)
        (not_occupied _ _)
  | case3 ledger next beyond =>
    have step : (ledger.counter + 1).toNat = ledger.counter.toNat + 1 :=
      toNat_counter_advanced in_range
    have none_left : issue ledger.advanced.counter.toNat =
        .error .idsExhausted := by
      refine issue_eq_error_iff.2 ⟨?_, rfl⟩
      show 999 < (ledger.counter + 1).toNat
      omega
    have none_free : ledger.freeBehind = ∅ := freeBehind_eq_empty (by omega)
    exact ⟨1, by omega, .exhausted none_left, step,
      .exhausted none_free next.counter⟩

/--
Opening an account of a valid kind in a shared ledger is one search of no more
than a thousand attempts, whatever ids are open, and there is no other. It ends
with the account under the first free id behind the counter and the counter at
its number, or with none left and all accounts as they were. The counter of 32
bits has to be 1001 from its end.
-/
theorem opens_first_free (ledger : SharedLedger) (owner : OwnerId)
    {kind : AccountKind} (valid : kind.validate = .ok kind)
    (in_range : ledger.counter.toNat < 4294967296 - 1001) :
    let run := (openNext owner kind).run ledger
    (∃ attempts ≤ 1000,
      (∀ attempts' result, Attempts owner kind ledger attempts' result ↔
        attempts' = attempts ∧ result = run) ∧
      (state run).counter.toNat = ledger.counter.toNat + attempts) ∧
    Ends owner kind ledger run := by
  intro run
  obtain ⟨attempts, attempts_le, search, counter_eq, ends⟩ :=
    ends_openNextFrom owner valid ledger (by omega)
  refine ⟨⟨attempts, by omega, fun attempts' result => ?_, counter_eq⟩, ends⟩
  constructor
  · exact fun other => other.unique search
  · rintro ⟨rfl, rfl⟩
    exact search

/-- A ledger with a counter and some open accounts. -/
def withOpen (counter : UInt32) (ids : List AccountId) (owner : OwnerId) :
    SharedLedger :=
  ⟨ids.foldl (fun accounts id =>
      accounts.insert ⟨id, owner, .savings .zero, .zero, #[]⟩) .empty,
    .empty, counter⟩

/-- With the ids 4, 5 and 7 open behind a counter of 3, the next account gets
the id 6. -/
theorem opens_first_free_gap :
    let owner : OwnerId := ⟨1, by decide⟩
    let kind := AccountKind.savings .zero
    let ledger :=
      withOpen 3 [⟨4, by decide⟩, ⟨5, by decide⟩, ⟨7, by decide⟩] owner
    kind.validate = .ok kind ∧
      ledger.counter.toNat < 4294967296 - 1001 ∧
      Attempts owner kind ledger 3 ((openNext owner kind).run ledger) ∧
      (openNext owner kind).run ledger = .ok ⟨6, by decide⟩
        (withOpen 6 [⟨4, by decide⟩, ⟨5, by decide⟩, ⟨6, by decide⟩,
          ⟨7, by decide⟩] owner) := by
  intro owner kind ledger
  have valid : kind.validate = .ok kind :=
    AccountKind.validate_savings_eq_ok_iff.2 ⟨rfl, by decide, by decide⟩
  have in_range : ledger.counter.toNat < 4294967296 - 1001 := by decide
  have first : IsLeast ledger.freeBehind ⟨6, by decide⟩ := by
    refine ⟨⟨by decide, rfl⟩, ?_⟩
    rintro other ⟨behind, free⟩
    show 6 ≤ other.number
    have counter_eq : ledger.counter.toNat = 3 := rfl
    have not_four : other ≠ ⟨4, by decide⟩ := by
      rintro rfl
      cases free
    have not_five : other ≠ ⟨5, by decide⟩ := by
      rintro rfl
      cases free
    have number_ne_four : other.number ≠ 4 := fun eq =>
      not_four (ext_number eq)
    have number_ne_five : other.number ≠ 5 := fun eq =>
      not_five (ext_number eq)
    omega
  obtain ⟨⟨attempts, -, only, counter_eq⟩, ends⟩ :=
    opens_first_free ledger owner valid in_range
  have search := (only attempts _).2 ⟨rfl, rfl⟩
  refine ⟨valid, in_range, ?_⟩
  generalize (openNext owner kind).run ledger = run at search counter_eq ends ⊢
  cases ends with
  | @opened id is_first =>
    have below : 6 ≤ id.number := first.2 is_first.1
    have above : id.number ≤ 6 := is_first.2 first.1
    obtain rfl : id = ⟨6, by decide⟩ := ext_number (Nat.le_antisymm above below)
    have attempts_eq : 6 = 3 + attempts := counter_eq
    obtain rfl : attempts = 3 := by omega
    exact ⟨search, rfl⟩
  | exhausted none_free =>
    have mem := first.1
    rw [none_free] at mem
    cases mem

end Passbook.SharedLedger
