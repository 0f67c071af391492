import Passbook.Proofs.Barrier
import Passbook.Proofs.Undated

/-!
# Two ledgers asked for the same

The ledger of one owner and the ledger that workers share are asked for the same
operations, one after the other, from the start. Nothing that can be seen of
them tells them apart, but for the times of their records.

They are not in the same state. One has the highest number of any account, the
other a counter that goes up with every attempt, and goes on doing so when all
ids are taken; the two are level as far as there are ids. Nor do they ask the
same questions in the same order: one looks at the id of a new account before it
looks at the kind, the other afterwards. That makes a difference for kinds that
are not valid, and the constructors of kinds make none.

## Main results

* `InStep.perform` — one operation on ledgers that are in step.
* `inStep_after` — any number of operations from the start.
* `undistinguished_after` — what can be seen of the two after each of them, and
  what they answer.
-/

namespace Passbook

open Bookkeeping Transact

/-! ## Kinds and operations -/

/-- A kind as it is made: from a rate, from a limit, or by its name. -/
inductive AccountKind.Made : AccountKind → Prop
  | ofRate {rate : Decimal} {kind : AccountKind}
    (made : AccountKind.ofRate rate = .ok kind) : Made kind
  | ofLimit {limit : Decimal} {kind : AccountKind}
    (made : AccountKind.ofLimit limit = .ok kind) : Made kind
  | parse {name : String} {parameter : Option Decimal} {kind : AccountKind}
    (made : AccountKind.parse name parameter = .ok kind) : Made kind

theorem AccountKind.validate_of_ofRate {rate : Decimal} {kind : AccountKind}
    (made : ofRate rate = .ok kind) : kind.validate = .ok kind := by
  have valid : (savings rate).validate = .ok kind := made
  obtain rfl := Account.validate_eq_ok valid
  exact valid

theorem AccountKind.validate_of_ofLimit {limit : Decimal} {kind : AccountKind}
    (made : ofLimit limit = .ok kind) : kind.validate = .ok kind := by
  have valid : (checking limit).validate = .ok kind := made
  obtain rfl := Account.validate_eq_ok valid
  exact valid

/-- Whatever makes a kind makes a valid one. -/
theorem AccountKind.Made.validate {kind : AccountKind} (made : kind.Made) :
    kind.validate = .ok kind := by
  cases made with
  | ofRate made => exact validate_of_ofRate made
  | ofLimit made => exact validate_of_ofLimit made
  | @parse name parameter kind made =>
    unfold AccountKind.parse at made
    dsimp only at made
    split at made
    · exact validate_of_ofRate made
    · split at made
      · exact validate_of_ofLimit made
      · cases made

namespace Operation

/-- Whether the kind of an account to be opened was made by one of the ways to
make a kind. -/
def KindMade : Operation → Prop
  | openAccount _ _ kind => kind.Made
  | closeAccount _ | deposit .. | withdraw .. | transfer .. | creditInterest _
  | setLimit .. => True

/-- Whether an account is to be opened under the next free id. -/
def opensNext : Operation → Bool
  | openAccount none _ _ => true
  | openAccount (some _) _ _ | closeAccount _ | deposit .. | withdraw ..
  | transfer .. | creditInterest _ | setLimit .. => false

end Operation

/-- The two ledgers open an account of a valid kind alike. -/
theorem SharedLedger.opening_eq (find? : AccountId → Option Account)
    (id : AccountId) (owner : OwnerId) {kind : AccountKind}
    (valid : kind.validate = .ok kind) :
    SharedLedger.opening find? id owner kind =
      Ledger.opening find? id owner kind := by
  have fresh : Account.new id owner kind = .ok ⟨id, owner, kind, .zero, #[]⟩ :=
    Account.new_eq_ok_iff.2 ⟨valid, rfl⟩
  unfold SharedLedger.opening Ledger.opening
  rw [fresh, ok_bind]
  cases (find? id).isSome <;> rfl

/-- What opening under a free id leaves. -/
theorem Ledger.run_openAs_of_free {ledger : Ledger} {id : AccountId}
    (free : ledger.accounts.find? id = none) (owner : OwnerId)
    {kind : AccountKind} (valid : kind.validate = .ok kind) :
    (Ledger.openAs id owner kind).run ledger =
      .ok id ⟨ledger.accounts.insert ⟨id, owner, kind, .zero, #[]⟩,
        ledger.journal, some ((ledger.highest.getD 0).max id.number)⟩ := by
  have fresh : Account.new id owner kind = .ok ⟨id, owner, kind, .zero, #[]⟩ :=
    Account.new_eq_ok_iff.2 ⟨valid, rfl⟩
  have posts : Ledger.opening ledger.accounts.find? id owner kind =
      .ok (.opened ⟨id, owner, kind, .zero, #[]⟩) := by
    unfold Ledger.opening
    rw [free, fresh]
    rfl
  rw [Ledger.run_openAs (.still default), posts]
  rfl

/-- What an attempt at the number behind the counter leaves if it is free. -/
theorem SharedLedger.tryNext_of_unused {ledger : SharedLedger}
    (in_range : (ledger.counter + 1).toNat < 1000)
    (free : ledger.accounts.find? ⟨(ledger.counter + 1).toNat, in_range⟩ = none)
    (owner : OwnerId) {kind : AccountKind}
    (valid : kind.validate = .ok kind) :
    let id : AccountId := ⟨(ledger.counter + 1).toNat, in_range⟩
    tryNext owner kind ledger in_range =
      .ok id ⟨ledger.accounts.insert ⟨id, owner, kind, .zero, #[]⟩,
        ledger.journal, ledger.counter + 1⟩ := by
  intro id
  have fresh : Account.new id owner kind = .ok ⟨id, owner, kind, .zero, #[]⟩ :=
    Account.new_eq_ok_iff.2 ⟨valid, rfl⟩
  let advanced : SharedLedger := { ledger with counter := ledger.counter + 1 }
  have posts : SharedLedger.opening advanced.accounts.find? id owner kind =
      .ok (.opened ⟨id, owner, kind, .zero, #[]⟩) := by
    unfold SharedLedger.opening
    rw [free, fresh]
    rfl
  have run : tryNext owner kind ledger in_range = _ :=
    SharedLedger.run_openAs (.still default) id owner kind
  rw [posts] at run
  have tried : tryNext owner kind ledger in_range =
      .ok id ⟨ledger.accounts.insert ⟨id, owner, kind, .zero, #[]⟩,
        ledger.journal, max (ledger.counter + 1) (UInt32.ofNat id.number)⟩ :=
    run
  have counter_eq : max (ledger.counter + 1) (UInt32.ofNat id.number) =
      ledger.counter + 1 := by
    apply UInt32.toNat_inj.1
    rw [UInt32.toNat_max, UInt32.ofNat_toNat, Nat.max_self]
  rw [counter_eq] at tried
  exact tried

/-- What opening leaves if the number behind the counter is free. -/
theorem SharedLedger.openNextFrom_of_unused {ledger : SharedLedger}
    (in_range : (ledger.counter + 1).toNat < 1000)
    (free : ledger.accounts.find? ⟨(ledger.counter + 1).toNat, in_range⟩ = none)
    (owner : OwnerId) {kind : AccountKind}
    (valid : kind.validate = .ok kind) :
    let id : AccountId := ⟨(ledger.counter + 1).toNat, in_range⟩
    SharedLedger.openNextFrom owner kind ledger =
      .ok id ⟨ledger.accounts.insert ⟨id, owner, kind, .zero, #[]⟩,
        ledger.journal, ledger.counter + 1⟩ := by
  intro id
  have tried := tryNext_of_unused in_range free owner valid
  rw [openNextFrom_of_free ledger in_range, tried]
  intro text taken
  rw [tried] at taken
  cases taken

/-- What holds of the ids of all accounts still does after a posting, unless it
opens one. -/
theorem Posting.every_id_write {P : AccountId → Prop} {books : Books}
    (clock : Clock) {posting : Posting}
    (every : books.accounts.Every fun account => P account.id)
    (fresh : ∀ account, posting = .opened account → P account.id) :
    (posting.write clock books).accounts.Every fun account => P account.id := by
  cases posting with
  | opened account => exact every.insert (fresh account rfl)
  | closed id account => exact every.erase id
  | amended id kind balance outcome =>
    refine (Register.every_map_iff
      _ (Register.only_id id (amend_id kind balance))).2 ?_
    intro other account found
    rw [Register.only_id id (amend_id kind balance)]
    exact every other account found
  | moved balances transaction status =>
    refine (Register.every_map_iff _ (settle_id _ _)).2 ?_
    intro other account found
    rw [settle_id]
    exact every other account found

/-! ## Ledgers in step -/

/-- Whether two ledgers have gone the same way from the start, and have tried
`tries` times to open an account under the next free id. -/
structure InStep (tries : Nat) (ledger : Ledger) (shared : SharedLedger) :
    Prop where
  books : (Bookkeeping.books ledger).Agree (Bookkeeping.books shared)
  /-- The counter is at the highest number, or past the last there is. -/
  level : ledger.highest.getD 0 = min shared.counter.toNat AccountId.maxNumber
  counter : shared.counter.toNat ≤ AccountId.maxNumber + tries
  below : ledger.accounts.Every fun account =>
    account.id.number ≤ ledger.highest.getD 0

/-- How many tries leave the counter of 32 bits in range. -/
def enoughTries : Nat := 4294966295

theorem inStep_empty : InStep 0 .empty .empty where
  books := ⟨rfl, rfl⟩
  level := rfl
  counter := Nat.zero_le _
  below := Register.every_empty _

namespace InStep

variable {tries : Nat} {ledger : Ledger} {shared : SharedLedger}

theorem accounts_eq (inStep : InStep tries ledger shared) :
    shared.accounts = ledger.accounts := inStep.books.accounts.symm

theorem nextId_ledger (ledger : Ledger) :
    ledger.nextId = AccountId.issue (ledger.highest.getD 0 + 1) := by
  unfold Ledger.nextId
  cases ledger.highest <;> rfl

theorem toNat_advanced (inStep : InStep tries ledger shared)
    (few : tries < enoughTries) :
    (shared.counter + 1).toNat = shared.counter.toNat + 1 := by
  have bound := inStep.counter
  unfold AccountId.maxNumber at bound
  unfold enoughTries at few
  rw [UInt32.toNat_add]
  show (shared.counter.toNat + 1) % 4294967296 = _
  omega

/-- The next id is the same. -/
theorem nextId_eq (inStep : InStep tries ledger shared)
    (few : tries < enoughTries) : ledger.nextId = shared.nextId := by
  have level := inStep.level
  rw [nextId_ledger, SharedLedger.nextId, inStep.toNat_advanced few, level]
  by_cases inside : shared.counter.toNat ≤ AccountId.maxNumber
  · rw [Nat.min_eq_left inside]
  · rw [Nat.min_eq_right (by omega),
      AccountId.issue_eq_error_iff.2 ⟨Nat.lt_succ_self _, rfl⟩,
      AccountId.issue_eq_error_iff.2 ⟨by omega, rfl⟩]

/-- More tries may be allowed for. -/
theorem mono {more : Nat} (inStep : InStep tries ledger shared)
    (le : tries ≤ more) : InStep more ledger shared where
  books := inStep.books
  level := inStep.level
  counter := Nat.le_trans inStep.counter (Nat.add_le_add_left le _)
  below := inStep.below

/-! ## One operation -/

/-- Whether two runs answer the same but for times, and leave ledgers in
step. -/
structure Together (tries : Nat) (run : EStateM.Result Fault Ledger Outcome)
    (run' : EStateM.Result Fault SharedLedger Outcome) : Prop where
  answer : (answer run).map Outcome.undated =
    (Transact.answer run').map Outcome.undated
  state : InStep tries (state run) (Transact.state run')

variable {clock clock' : Clock}

/-- Carrying out the same posting, one that opens nothing, keeps ledgers in
step. -/
theorem carryOut (inStep : InStep tries ledger shared)
    {posting : Except Fault Posting}
    (opens_none : ∀ account, posting ≠ .ok (.opened account)) :
    Together tries (Posting.carryOut Ledger.withBooks clock ledger posting)
      (Posting.carryOut SharedLedger.withBooks clock' shared posting) := by
  cases posting with
  | error fault => exact ⟨rfl, inStep⟩
  | ok posting =>
    have below : (posting.write clock (Bookkeeping.books ledger)).accounts.Every
        fun account => account.id.number ≤ ledger.highest.getD 0 :=
      Posting.every_id_write clock (P := fun id =>
        id.number ≤ ledger.highest.getD 0) inStep.below fun account eq =>
          absurd (congrArg Except.ok eq) (opens_none account)
    exact
      { answer := congrArg Except.ok
          (inStep.books.outcome_eq clock clock' posting)
        state := ⟨inStep.books.write clock clock' posting, inStep.level,
          inStep.counter, below⟩ }

/-- Two ledgers in which the same account has been opened are in step if the
counter has been brought up to its number. -/
theorem opened (inStep : InStep tries ledger shared) (account : Account)
    {counter : UInt32}
    (raised : counter.toNat = max shared.counter.toNat account.id.number) :
    InStep tries
      ⟨ledger.accounts.insert account, ledger.journal,
        some ((ledger.highest.getD 0).max account.id.number)⟩
      ⟨shared.accounts.insert account, shared.journal, counter⟩ := by
  have level := inStep.level
  have bound := inStep.counter
  have in_range := account.id.number_lt
  unfold AccountId.maxNumber at level bound
  have highest_eq : (ledger.highest.getD 0).max account.id.number =
      max (ledger.highest.getD 0) account.id.number := rfl
  have written := inStep.books.write (.still default) (.still default)
    (.opened account)
  refine ⟨written, ?_, ?_, ?_⟩
  · show (ledger.highest.getD 0).max account.id.number = min counter.toNat 999
    omega
  · show counter.toNat ≤ 999 + tries
    omega
  · have older : ledger.accounts.Every fun other =>
        other.id.number ≤ (ledger.highest.getD 0).max account.id.number := by
      intro id other found
      have below := inStep.below id other found
      omega
    apply older.insert
    show account.id.number ≤ (ledger.highest.getD 0).max account.id.number
    omega

theorem toNat_max_ofNat (counter : UInt32) (id : AccountId) :
    (max counter (UInt32.ofNat id.number)).toNat =
      max counter.toNat id.number := by
  have in_range := id.number_lt
  rw [UInt32.toNat_max, UInt32.toNat_ofNat_of_lt']
  show id.number < 4294967296
  omega

/-- Opening under a given id. -/
theorem openAs (inStep : InStep tries ledger shared) (id : AccountId)
    (owner : OwnerId) {kind : AccountKind} (valid : kind.validate = .ok kind) :
    Together tries
      ((perform clock (.openAccount (some id) owner kind)).run ledger)
      ((perform clock' (.openAccount (some id) owner kind)).run shared) := by
  have same : SharedLedger.opening shared.accounts.find? id owner kind =
      Ledger.opening ledger.accounts.find? id owner kind := by
    rw [inStep.accounts_eq, SharedLedger.opening_eq _ _ _ valid]
  have run : (openAccount (some id) owner kind).run ledger = _ :=
    Ledger.run_openAs clock id owner kind
  have run' : (openAccount (some id) owner kind).run shared = _ :=
    SharedLedger.run_openAs clock' id owner kind
  rw [same] at run'
  constructor
  · rw [answer_perform_openAccount, answer_perform_openAccount, run, run']
    cases Ledger.opening ledger.accounts.find? id owner kind <;> rfl
  · rw [state_perform_openAccount, state_perform_openAccount, run, run']
    cases posts : Ledger.opening ledger.accounts.find? id owner kind with
    | error fault => exact inStep
    | ok posting =>
      obtain ⟨-, -, rfl⟩ := Ledger.opening_eq_ok posts
      exact inStep.opened ⟨id, owner, kind, .zero, #[]⟩
        (toNat_max_ofNat shared.counter id)

/-- The number behind the counter is free. -/
theorem find?_advanced (inStep : InStep tries ledger shared) {id : AccountId}
    (behind : id.number = shared.counter.toNat + 1) :
    ledger.accounts.find? id = none := by
  have level := inStep.level
  cases found : ledger.accounts.find? id with
  | none => rfl
  | some account =>
    have account_id : account.id = id := Register.find?_id found
    have below : account.id.number ≤ ledger.highest.getD 0 :=
      inStep.below id account found
    rw [account_id] at below
    omega

/-- Opening under the next free id. No account has a number behind the counter,
so the first attempt succeeds if there is an id to try. -/
theorem openNext (inStep : InStep tries ledger shared)
    (few : tries < enoughTries) (owner : OwnerId) {kind : AccountKind}
    (valid : kind.validate = .ok kind) :
    Together (tries + 1)
      ((perform clock (.openAccount none owner kind)).run ledger)
      ((perform clock' (.openAccount none owner kind)).run shared) := by
  have level := inStep.level
  have bound := inStep.counter
  have advanced_eq := inStep.toNat_advanced few
  have run : (openAccount none owner kind).run ledger = _ :=
    Ledger.run_openNext owner kind
  have run' : (openAccount none owner kind).run shared =
    SharedLedger.openNextFrom owner kind shared := rfl
  rw [nextId_ledger] at run
  unfold AccountId.maxNumber at level bound
  -- With an id left, both open under the number behind the counter. Without one
  -- the counter goes up all the same, which `level` does not see.
  by_cases in_range : (shared.counter + 1).toNat < 1000
  · let id : AccountId := ⟨(shared.counter + 1).toNat, in_range⟩
    have free : ledger.accounts.find? id = none :=
      inStep.find?_advanced advanced_eq
    have issued : AccountId.issue (ledger.highest.getD 0 + 1) = .ok id := by
      apply AccountId.issue_eq_ok_iff.2
      show (shared.counter + 1).toNat = _
      omega
    rw [issued] at run
    dsimp only at run
    rw [Ledger.run_openAs_of_free free owner valid] at run
    rw [SharedLedger.openNextFrom_of_unused in_range
      (inStep.accounts_eq ▸ free) owner valid] at run'
    constructor
    · rw [answer_perform_openAccount, answer_perform_openAccount, run, run']
      rfl
    · rw [state_perform_openAccount, state_perform_openAccount, run, run']
      apply (inStep.opened ⟨id, owner, kind, .zero, #[]⟩ _).mono
      · omega
      · show (shared.counter + 1).toNat =
          max shared.counter.toNat (shared.counter + 1).toNat
        omega
  · have none_left : AccountId.maxNumber < ledger.highest.getD 0 + 1 := by
      unfold AccountId.maxNumber
      omega
    rw [AccountId.issue_eq_error_iff.2 ⟨none_left, rfl⟩] at run
    rw [SharedLedger.openNextFrom, dif_neg in_range] at run'
    constructor
    · rw [answer_perform_openAccount, answer_perform_openAccount, run, run']
      rfl
    · rw [state_perform_openAccount, state_perform_openAccount, run, run']
      exact
        { books := inStep.books
          level := by
            show ledger.highest.getD 0 = min (shared.counter + 1).toNat 999
            omega
          counter := by
            show (shared.counter + 1).toNat ≤ 999 + (tries + 1)
            omega
          below := inStep.below }

/-- An operation that opens no account and concerns some accounts only. -/
theorem confined (inStep : InStep tries ledger shared) {operation : Operation}
    (opens_none : ∀ given owner kind,
      operation ≠ .openAccount given owner kind)
    (footprint : operation.footprint ≠ none) :
    Together tries ((perform clock operation).run ledger)
      ((perform clock' operation).run shared) := by
  have same : operation.posting? shared.accounts.find?
      (SharedLedger.opening shared.accounts.find?) =
      operation.posting? ledger.accounts.find?
        (Ledger.opening ledger.accounts.find?) := by
    rw [inStep.accounts_eq]
    cases operation with
    | openAccount given owner kind =>
      exact absurd rfl (opens_none given owner kind)
    | creditInterest given => cases given <;> rfl
    | closeAccount | deposit | withdraw | transfer | setLimit => rfl
  cases posts : operation.posting? ledger.accounts.find?
    (Ledger.opening ledger.accounts.find?) with
  | none => exact absurd (Operation.posting?_eq_none_iff.1 posts) footprint
  | some posting =>
    rw [Ledger.run_perform opens_none posts,
      SharedLedger.run_perform opens_none (same.trans posts)]
    apply inStep.carryOut
    rintro account rfl
    have change := Change.of_posting? opens_none posts
    cases change with
    | @opened given owner kind => exact opens_none given owner kind rfl

/-- The records that crediting an account adds to those gathered are the same
but for their times. -/
theorem undated_gathered {given given' : Except Fault (Option Record)}
    (same : (given.map fun record => Outcome.credited record.toList).map
        Outcome.undated =
      (given'.map fun record => Outcome.credited record.toList).map
        Outcome.undated) :
    (gathered given).map Record.undated =
      (gathered given').map Record.undated := by
  cases given with
  | error fault =>
    cases given' with
    | error fault' => rfl
    | ok record' => cases same
  | ok record =>
    cases given' with
    | error fault' => cases same
    | ok record' => exact Outcome.credited.inj (Except.ok.inj same)

/-- Crediting the same accounts, one after the other. -/
theorem gather (clock clock' : Clock) (ids : List AccountId)
    (inStep : InStep tries ledger shared) :
    (Transact.gather (creditInterest clock) ids ledger).1.map Record.undated =
        (Transact.gather (creditInterest clock') ids shared).1.map
          Record.undated ∧
      InStep tries (Transact.gather (creditInterest clock) ids ledger).2
        (Transact.gather (creditInterest clock') ids shared).2 := by
  induction ids generalizing ledger shared with
  | nil => exact ⟨rfl, inStep⟩
  | cons id rest ih =>
    have credited : Together tries
        ((Bookkeeping.perform clock (.creditInterest (some id))).run ledger)
        ((Bookkeeping.perform clock' (.creditInterest (some id))).run shared) :=
      inStep.confined nofun nofun
    obtain ⟨answer_same, reached⟩ := credited
    simp only [perform, answer_map, state_map] at answer_same reached
    obtain ⟨rest_same, rest_reached⟩ := ih reached
    rw [gather_cons, gather_cons, List.map_append, List.map_append,
      undated_gathered answer_same, rest_same]
    exact ⟨rfl, rest_reached⟩

/-- Crediting all savings accounts. -/
theorem creditAll (inStep : InStep tries ledger shared) :
    Together tries
      ((Bookkeeping.perform clock (.creditInterest none)).run ledger)
      ((Bookkeeping.perform clock' (.creditInterest none)).run shared) := by
  obtain ⟨records_same, reached⟩ :=
    inStep.gather clock clock' ledger.accounts.savingsIds
  have savings_same : shared.accounts.savingsIds =
      ledger.accounts.savingsIds := by
    rw [inStep.accounts_eq]
  constructor
  · show Except.ok (Outcome.credited _) = Except.ok (Outcome.credited
      ((Transact.gather _ shared.accounts.savingsIds shared).1.map _))
    rw [savings_same]
    exact congrArg (fun records => Except.ok (Outcome.credited records))
      records_same
  · show InStep tries (Transact.gather _ ledger.accounts.savingsIds ledger).2
      (Transact.gather _ shared.accounts.savingsIds shared).2
    rw [savings_same]
    exact reached

/-- Any operation on ledgers in step. -/
theorem perform (clock clock' : Clock) (inStep : InStep tries ledger shared)
    {operation : Operation} (made : operation.KindMade)
    (few : tries < enoughTries) :
    Together (tries + operation.opensNext.toNat)
      ((Bookkeeping.perform clock operation).run ledger)
      ((Bookkeeping.perform clock' operation).run shared) := by
  cases operation with
  | openAccount given owner kind =>
    have valid : kind.validate = .ok kind := AccountKind.Made.validate made
    cases given with
    | none => exact inStep.openNext few owner valid
    | some id => exact inStep.openAs id owner valid
  | creditInterest given =>
    cases given with
    | none => exact inStep.creditAll
    | some id => exact inStep.confined nofun nofun
  | closeAccount | deposit | withdraw | transfer | setLimit =>
    exact inStep.confined nofun nofun

end InStep

/-! ## Any number of operations -/

variable {operations : List Operation}

/-- Operations from the start leave ledgers in step. -/
theorem inStep_after (clock clock' : Clock)
    (made : ∀ operation ∈ operations, operation.KindMade)
    (few : operations.countP Operation.opensNext < enoughTries) (n : Nat) :
    InStep ((operations.take n).countP Operation.opensNext)
      (after clock Ledger.empty (operations.take n))
      (after clock' SharedLedger.empty (operations.take n)) := by
  induction n with
  | zero => exact inStep_empty
  | succ n ih =>
    by_cases inside : n < operations.length
    · have tried : (operations.take n).countP Operation.opensNext <
          enoughTries :=
        Nat.lt_of_le_of_lt (List.take_sublist n operations).countP_le few
      have tries_eq : (operations.take (n + 1)).countP Operation.opensNext =
          (operations.take n).countP Operation.opensNext +
            operations[n].opensNext.toNat := by
        rw [List.take_succ_eq_append_getElem inside, List.countP_append,
          List.countP_singleton]
        cases operations[n].opensNext <;> rfl
      have operation_made := made _ (List.getElem_mem inside)
      have reached := (ih.perform clock clock' operation_made tried).state
      rw [tries_eq, after_take_succ clock _ _ inside,
        after_take_succ clock' _ _ inside]
      exact reached
    · rw [List.take_of_length_le (by omega)] at ih ⊢
      exact ih

/-- Whether two ledgers have the same open accounts, the same records but for
their times, the same owner for every id, and the same id to come. -/
structure Undistinguished (ledger : Ledger) (shared : SharedLedger) : Prop where
  accounts : ledger.accounts = shared.accounts
  records : ledger.journal.records.map Record.undated =
    shared.journal.records.map Record.undated
  owners : ∀ id, Desk.ownerOf? ledger id = Desk.ownerOf? shared id
  nextId : ledger.nextId = shared.nextId

theorem InStep.undistinguished {tries : Nat} {ledger : Ledger}
    {shared : SharedLedger} (inStep : InStep tries ledger shared)
    (few : tries < enoughTries) : Undistinguished ledger shared where
  accounts := inStep.books.accounts
  records := inStep.books.records
  owners id := congrArg (Register.ownerOf? · id) inStep.books.accounts
  nextId := inStep.nextId_eq few

/-- Two ledgers that are asked for the same from the start cannot be told apart
after any number of operations, and answer the next one the same. -/
theorem undistinguished_after (clock clock' : Clock)
    (operations : List Operation)
    (made : ∀ operation ∈ operations, operation.KindMade)
    (few : operations.countP Operation.opensNext < 2147483648) (n : Nat) :
    let ledger := after clock Ledger.empty (operations.take n)
    let shared := after clock' SharedLedger.empty (operations.take n)
    Undistinguished ledger shared ∧
      ∀ inside : n < operations.length,
        (answer ((perform clock operations[n]).run ledger)).map
            Outcome.undated =
          (answer ((perform clock' operations[n]).run shared)).map
            Outcome.undated := by
  intro ledger shared
  have enough : operations.countP Operation.opensNext < enoughTries :=
    Nat.lt_trans few (by decide)
  have inStep : InStep _ ledger shared :=
    inStep_after clock clock' made enough n
  have tried : (operations.take n).countP Operation.opensNext < enoughTries :=
    Nat.lt_of_le_of_lt (List.take_sublist n operations).countP_le enough
  refine ⟨inStep.undistinguished tried, fun inside => ?_⟩
  have operation_made := made _ (List.getElem_mem inside)
  exact (inStep.perform clock clock' operation_made tried).answer

/-- A run in which the first id that is given out is given up again, and the
next account gets another. -/
def openings (id : AccountId) (owner : OwnerId) : List Operation :=
  [.openAccount none owner (.savings .zero),
    .closeAccount id,
    .openAccount none owner (.checking .zero)]

theorem kindMade_openings (id : AccountId) (owner : OwnerId) :
    ∀ operation ∈ openings id owner, operation.KindMade := by
  have rate_made : AccountKind.ofRate .zero = .ok (.savings .zero) :=
    AccountKind.validate_savings_eq_ok_iff.2 ⟨rfl, by decide, by decide⟩
  have limit_made : AccountKind.ofLimit .zero = .ok (.checking .zero) :=
    AccountKind.validate_checking_eq_ok_iff.2
      ⟨rfl, by decide, by decide +kernel⟩
  unfold openings
  simp only [List.forall_mem_cons]
  exact ⟨.ofRate rate_made, trivial, .ofLimit limit_made, nofun⟩

theorem undistinguished_after_openings :
    let operations := openings ⟨1, by decide⟩ ⟨1, by decide⟩
    (∀ operation ∈ operations, operation.KindMade) ∧
      operations.countP Operation.opensNext < 2147483648 ∧
      Undistinguished
        (after (.still default) Ledger.empty (operations.take 3))
        (after (.still default) SharedLedger.empty (operations.take 3)) := by
  intro operations
  have made : ∀ operation ∈ operations, operation.KindMade :=
    kindMade_openings _ _
  have few : operations.countP Operation.opensNext < 2147483648 := by
    unfold operations
    decide
  exact ⟨made, few, (undistinguished_after (.still default) (.still default)
    operations made few 3).1⟩

end Passbook
