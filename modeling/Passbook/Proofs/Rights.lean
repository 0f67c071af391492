import Passbook.Proofs.Decimal.Bracket
import Passbook.Proofs.Likeness

/-!
# What can be done without being an administrator

Somebody who acts for nobody in particular can do nothing at all. The holder of
an account can move money between accounts, and only out of the holder's own:
whatever account belongs to somebody else, its balance does not go down, and its
history gets at most the record of the transfer that has been paid into it.

The gate asks about one account, the one that an operation is to work on, and
not about the account that a transfer goes to. It is `Change` that says what an
operation makes of all others.

## Main results

* `Change.respects` — one successful operation on behalf of a holder.
* `respectsRights_of_reachable` — what the ledgers guarantee to owners, over any
  number of commands.
-/

namespace Passbook

open Bookkeeping Transact

/-! ## The gate -/

/-- What the holder of an account may ask for. -/
inductive Access.HolderMay (ownerOf? : AccountId → Option OwnerId)
    (owner : OwnerId) : Operation → Prop
  | deposit {id : AccountId} {amount : Decimal}
      (own : ownerOf? id = some owner) :
      HolderMay ownerOf? owner (.deposit id amount)
  | withdraw {id : AccountId} {amount : Decimal}
      (own : ownerOf? id = some owner) :
      HolderMay ownerOf? owner (.withdraw id amount)
  | transfer {source destination : AccountId} {amount : Decimal}
      (own : ownerOf? source = some owner) :
      HolderMay ownerOf? owner (.transfer source destination amount)

namespace Access

variable {ownerOf? : AccountId → Option OwnerId} {owner : OwnerId}

theorem own_of_checkUse {id : AccountId}
    (allowed : checkUse ownerOf? (.holder owner) id = .ok ()) :
    ownerOf? id = some owner := by
  unfold checkUse at allowed
  split at allowed
  · rename_i may
    exact (mayUse_holder_iff ownerOf?).1 may
  · cases allowed

theorem holderMay_of_authorize {operation : Operation}
    (allowed : authorize ownerOf? (.holder owner) operation = .ok ()) :
    HolderMay ownerOf? owner operation := by
  cases operation with
  | deposit id amount => exact .deposit (own_of_checkUse allowed)
  | withdraw id amount => exact .withdraw (own_of_checkUse allowed)
  | transfer source destination amount =>
    exact .transfer (own_of_checkUse allowed)
  | openAccount | closeAccount | creditInterest | setLimit => cases allowed

theorem authorize_anonymous (operation : Operation) :
    authorize ownerOf? .anonymous operation ≠ .ok () := by
  cases operation <;> exact nofun

theorem HolderMay.needsAdministrator {operation : Operation}
    (may : HolderMay ownerOf? owner operation) :
    operation.needsAdministrator = false := by
  cases may <;> rfl

end Access

/-! ## The books -/

/-- What the owner of an account and the bank have agreed on. -/
def Account.terms (account : Account) : OwnerId × AccountKind :=
  (account.owner, account.kind)

/-- Whether a history is as it was, or has got one record more, of a completed
transfer out of an account of a certain owner. -/
def Books.PaidInBy (owner : OwnerId) (before after : Books) (id : AccountId) :
    Prop :=
  after.history id = before.history id ∨
    ∃ records record source, before.history id = .ok records ∧
      after.history id = .ok (records ++ [record]) ∧
      record.status = .completed ∧
      record.movement = .transfer source id ∧
      before.accounts.ownerOf? source = some owner

/-- What a command on behalf of the holder `owner` may make of the books, along
with the answer to it. -/
structure Books.Respects (owner : OwnerId) (before : Books)
    (answer : Except Fault Outcome) (after : Books) : Prop where
  /-- The same accounts are open, on the same terms. -/
  terms : ∀ id, (after.accounts.find? id).map Account.terms =
    (before.accounts.find? id).map Account.terms
  /-- No balance of another owner goes down. -/
  others : ∀ id account, before.accounts.find? id = some account →
    account.owner ≠ owner → ∃ account',
      after.accounts.find? id = some account' ∧
        account.balance ≤ account'.balance
  histories : ∀ id account, before.accounts.find? id = some account →
    account.owner ≠ owner → PaidInBy owner before after id
  /-- Balances change only with a completed record. -/
  balances : (∀ record, answer = .ok (.recorded record) →
      record.status ≠ .completed) →
    ∀ id, (after.accounts.find? id).map (·.balance) =
      (before.accounts.find? id).map (·.balance)

/-- Books that stay as they are respect everybody. -/
theorem Books.respects_refl (owner : OwnerId) (books : Books)
    (answer : Except Fault Outcome) :
    Respects owner books answer books where
  terms _ := rfl
  others _ account found _ := ⟨account, found, Int.le_refl _⟩
  histories _ _ _ _ := Or.inl rfl
  balances _ _ := rfl

namespace Posting

variable {clock : Clock} {books : Books}
  (balances : List (AccountId × Decimal)) {transaction : Transaction}
  {status : Status}

theorem terms_settle (record : Record) (account : Account) :
    (settle balances record account).terms = account.terms := by
  unfold settle attachIf rebalance
  split <;> rfl

/-- A movement leaves the terms of all accounts. -/
theorem terms_write_moved (id : AccountId) :
    (((moved balances transaction status).write clock books).accounts.find?
        id).map Account.terms =
      (books.accounts.find? id).map Account.terms := by
  rw [find?_write_moved, Option.map_map]
  apply Option.map_congr
  intro account _
  exact terms_settle balances _ account

/-- The history of an account that a movement does not concern. -/
theorem history_write_of_not_mem (numbered : books.Numbered) {id : AccountId}
    (apart : id ∉ (sealed clock books.journal transaction status).concerned) :
    ((moved balances transaction status).write clock books).history id =
      books.history id := by
  unfold Books.history
  rw [find?_write_moved]
  cases found : books.accounts.find? id with
  | none => rfl
  | some account =>
    have account_id : account.id = id := Register.find?_id found
    have history_eq : (settle balances
        (sealed clock books.journal transaction status) account).history =
        account.history := by
      unfold settle attachIf
      rw [rebalance_id, account_id, if_neg apart]
      rfl
    have selected := Journal.select_commit (clock.journal books.journal.size)
      transaction status (numbered id account found)
    show Except.ok (Journal.select _ (settle _ _ account).history) = _
    rw [history_eq]
    exact congrArg Except.ok selected

/-- The history of an account that a movement concerns. -/
theorem history_write_of_mem (numbered : books.Numbered) {id : AccountId}
    {account : Account} (found : books.accounts.find? id = some account)
    (concerned :
      id ∈ (sealed clock books.journal transaction status).concerned) :
    books.history id = .ok (books.journal.select account.history) ∧
      ((moved balances transaction status).write clock books).history id =
        .ok (books.journal.select account.history ++
          [sealed clock books.journal transaction status]) := by
  have account_id : account.id = id := Register.find?_id found
  have history_eq : (settle balances
      (sealed clock books.journal transaction status) account).history =
      account.history.push
        (sealed clock books.journal transaction status).number := by
    unfold settle attachIf
    rw [rebalance_id, account_id, if_pos concerned]
    rfl
  have selected := Journal.select_push_commit
    (clock.journal books.journal.size) transaction status
    (numbered id account found)
  have settled : ((moved balances transaction status).write clock
      books).accounts.find? id =
        some (settle balances (sealed clock books.journal transaction status)
          account) := by
    rw [find?_write_moved, found, Option.map_some]
  refine ⟨Books.history_of_find? found, ?_⟩
  rw [Books.history_of_find? settled, history_eq]
  exact congrArg Except.ok selected

end Posting

/-- A movement respects everybody but `owner` if it takes from nobody else, and
if those that it concerns besides are paid in by an account of `owner`. -/
theorem Books.respects_moved {clock : Clock} {books : Books} {owner : OwnerId}
    {balances : List (AccountId × Decimal)} {transaction : Transaction}
    {status : Status} (numbered : books.Numbered)
    (recorded :
      (Posting.moved balances transaction status).outcome clock books =
        .recorded (Posting.sealed clock books.journal transaction status))
    (rises : ∀ id account, books.accounts.find? id = some account →
      account.owner ≠ owner →
        account.balance ≤ (balances.lookup id).getD account.balance)
    (paid_in : ∀ id account, books.accounts.find? id = some account →
      account.owner ≠ owner →
      id ∈ (Posting.sealed clock books.journal transaction status).concerned →
        status = .completed ∧ ∃ source,
          transaction.movement = .transfer source id ∧
          books.accounts.ownerOf? source = some owner)
    (kept : status = .failed → ∀ id account,
      books.accounts.find? id = some account →
        (balances.lookup id).getD account.balance = account.balance) :
    Respects owner books
      (.ok ((Posting.moved balances transaction status).outcome clock books))
      ((Posting.moved balances transaction status).write clock books) where
  terms := Posting.terms_write_moved balances
  others := by
    intro id account found foreign
    have account_id : account.id = id := Register.find?_id found
    refine ⟨Posting.settle balances
      (Posting.sealed clock books.journal transaction status) account, ?_, ?_⟩
    · rw [Posting.find?_write_moved, found, Option.map_some]
    · rw [Posting.balance_settle, account_id]
      exact rises id account found foreign
  histories := by
    intro id account found foreign
    by_cases concerned :
      id ∈ (Posting.sealed clock books.journal transaction status).concerned
    · obtain ⟨completed, source, moves, own⟩ :=
        paid_in id account found foreign concerned
      obtain ⟨before, after⟩ :=
        Posting.history_write_of_mem balances numbered found concerned
      exact Or.inr ⟨_, _, source, before, after, completed, moves, own⟩
    · exact Or.inl
        (Posting.history_write_of_not_mem balances numbered concerned)
  balances := by
    intro incomplete id
    have not_completed : status ≠ .completed :=
      incomplete _ (congrArg Except.ok recorded)
    have failed : status = .failed := by
      cases status with
      | completed => exact absurd rfl not_completed
      | failed => rfl
    rw [Posting.find?_write_moved, Option.map_map]
    apply Option.map_congr
    intro account found
    have account_id : account.id = id := Register.find?_id found
    rw [Function.comp_apply, Posting.balance_settle, account_id]
    exact kept failed id account found

/-- An account that belongs to somebody else is another account. -/
theorem Register.ne_of_foreign {accounts : Register} {id own_id : AccountId}
    {owner : OwnerId} {account : Account}
    (own : accounts.ownerOf? own_id = some owner)
    (found : accounts.find? id = some account)
    (foreign : account.owner ≠ owner) : id ≠ own_id := by
  rintro rfl
  unfold ownerOf? at own
  rw [found] at own
  exact foreign (Option.some.inj own)

/-- What is paid in does not make a balance smaller, though it may be
rounded. -/
theorem Account.le_of_add? {account : Account} {amount balance : Decimal}
    (valid : checkAmount amount = .ok ())
    (sum : account.balance.add? amount = some balance) :
    account.balance ≤ balance := by
  obtain ⟨positive, -⟩ := checkAmount_eq_ok_iff.1 valid
  apply Decimal.le_add?_of_le sum
  omega

/-- A completed movement of an account of `owner` alone respects everybody
else. -/
theorem Books.respects_own {clock : Clock} {books : Books} {owner : OwnerId}
    {own_id : AccountId} {balance : Decimal} {transaction : Transaction}
    (numbered : books.Numbered)
    (recorded : (Posting.moved [(own_id, balance)] transaction
      .completed).outcome clock books =
        .recorded (Posting.sealed clock books.journal transaction .completed))
    (own : books.accounts.ownerOf? own_id = some owner)
    (names : ∀ id, transaction.movement.source? = some id ∨
      transaction.movement.destination? = some id → id = own_id) :
    Respects owner books
      (.ok ((Posting.moved [(own_id, balance)] transaction
        .completed).outcome clock books))
      ((Posting.moved [(own_id, balance)] transaction .completed).write clock
        books) := by
  apply respects_moved numbered recorded
  · intro id account found foreign
    have apart := Register.ne_of_foreign own found foreign
    rw [List.lookup_cons, beq_false_of_ne apart]
    exact Int.le_refl _
  · intro id account found foreign concerned
    have apart := Register.ne_of_foreign own found foreign
    exact absurd (names id (Posting.eq_of_mem_concerned clock concerned)) apart
  · exact nofun

/-- A failed movement out of an account of `owner` respects everybody else. -/
theorem Books.respects_failed {clock : Clock} {books : Books} {owner : OwnerId}
    {source : AccountId} {balances : List (AccountId × Decimal)}
    {transaction : Transaction} (numbered : books.Numbered)
    (recorded :
      (Posting.moved balances transaction .failed).outcome clock books =
        .recorded (Posting.sealed clock books.journal transaction .failed))
    (own : books.accounts.ownerOf? source = some owner)
    (gives : transaction.movement.source? = some source)
    (kept : ∀ id account, books.accounts.find? id = some account →
      (balances.lookup id).getD account.balance = account.balance) :
    Respects owner books
      (.ok ((Posting.moved balances transaction .failed).outcome clock books))
      ((Posting.moved balances transaction .failed).write clock books) := by
  apply respects_moved numbered recorded
  · intro id account found _
    rw [kept id account found]
    exact Int.le_refl _
  · intro id account found foreign concerned
    have apart := Register.ne_of_foreign own found foreign
    rcases Record.mem_concerned_iff.1 concerned with eq | ⟨completed, -⟩
    · exact absurd (Option.some.inj (eq.symm.trans gives)) apart
    · cases completed
  · exact fun _ => kept

/-- A successful operation that the holder of an account may ask for. -/
theorem Change.respects {clock : Clock} {books : Books} {operation : Operation}
    {posting : Posting} (numbered : books.Numbered)
    (change : Change books.accounts.find? operation posting) {owner : OwnerId}
    (may : Access.HolderMay books.accounts.ownerOf? owner operation) :
    Books.Respects owner books (.ok (posting.outcome clock books))
      (posting.write clock books) := by
  cases change with
  | opened | closed | credited | notCredited | limited => cases may
  | @deposited own_id amount balance account valid found sum =>
    cases may with
    | deposit own =>
      apply Books.respects_own numbered rfl own
      rintro id (eq | eq)
      · cases eq
      · exact (Option.some.inj eq).symm
  | @withdrawn own_id amount balance account valid found covered difference =>
    cases may with
    | withdraw own =>
      apply Books.respects_own numbered rfl own
      rintro id (eq | eq)
      · exact (Option.some.inj eq).symm
      · cases eq
  | @notWithdrawn own_id amount account fault valid found refusal by_rule =>
    cases may with
    | withdraw own =>
      apply Books.respects_failed numbered rfl own rfl
      apply Posting.kept_of_own
      simp only [List.forall_mem_singleton, found, Option.map_some]
  | @transferred source destination amount x y a b valid different a_found
      b_found covered difference sum =>
    cases may with
    | transfer own =>
      apply Books.respects_moved numbered rfl
      -- Of the accounts of others the destination alone gets a new balance, and
      -- it is no smaller even where the sum had to be rounded.
      · intro id other other_found foreign
        have apart := Register.ne_of_foreign own other_found foreign
        rw [List.lookup_cons, beq_false_of_ne apart]
        by_cases takes : id = destination
        · subst takes
          rw [b_found] at other_found
          cases other_found
          rw [List.lookup_cons_self]
          exact Account.le_of_add? valid sum
        · rw [List.lookup_cons, beq_false_of_ne takes]
          exact Int.le_refl _
      · intro id other other_found foreign concerned
        have apart := Register.ne_of_foreign own other_found foreign
        rcases Posting.eq_of_mem_concerned clock concerned with eq | eq
        · exact absurd (Option.some.inj eq).symm apart
        · cases eq
          exact ⟨rfl, source, rfl, own⟩
      · exact nofun
  | @notTransferred source destination amount a b fault valid different a_found
      b_found refusal by_rule =>
    cases may with
    | transfer own =>
      apply Books.respects_failed numbered rfl own rfl
      apply Posting.kept_of_own
      rw [List.forall_mem_cons, List.forall_mem_singleton, a_found, b_found]
      exact ⟨rfl, rfl⟩

/-- What an operation that the holder of an account may ask for makes of the
books. -/
theorem Performs.respects {clock : Clock} {books books' : Books}
    {operation : Operation} {answer : Except Fault Outcome}
    (performs : Performs clock books operation answer books')
    (numbered : books.Numbered) {owner : OwnerId}
    (may : Access.HolderMay books.accounts.ownerOf? owner operation) :
    Books.Respects owner books answer books' := by
  cases performs with
  | refused fault => exact Books.respects_refl owner books _
  | posted change => exact change.respects numbered may
  | creditedAll credits => cases may

/-! ## Ledgers -/

/-- An operation that needs no administrator opens no account. -/
theorem Operation.opens_none_of_unprivileged {operation : Operation}
    (unprivileged : operation.needsAdministrator = false)
    (given : Option AccountId) (owner : OwnerId) (kind : AccountKind) :
    operation ≠ .openAccount given owner kind := by
  rintro rfl
  cases unprivileged

namespace Bookkeeping

/-- A ledger whose next id has nothing to do with movements of money. -/
class Steady (β : Type) [Bookkeeping β] : Prop where
  nextId_next : ∀ (clock : Clock) (operation : Operation) (ledger : β),
    operation.needsAdministrator = false →
      nextId (next clock ledger operation) = nextId ledger

instance : Steady Ledger where
  nextId_next _ _ ledger unprivileged :=
    mark_next Ledger.withBooks Ledger.opening (fun _ _ => rfl)
      (fun _ _ _ => Ledger.run_perform) (fun _ => rfl) ledger
      (Operation.opens_none_of_unprivileged unprivileged)

instance : Steady SharedLedger where
  nextId_next _ _ ledger unprivileged :=
    mark_next SharedLedger.withBooks SharedLedger.opening (fun _ _ => rfl)
      (fun _ _ _ => SharedLedger.run_perform) (fun _ => rfl) ledger
      (Operation.opens_none_of_unprivileged unprivileged)

end Bookkeeping

/-! ## Commands -/

namespace Desk

variable {β : Type} [Bookkeeping β] {clock : Clock} {desk : Desk β}
  {command : Command}

/-- Who acts for nobody in particular changes nothing. -/
theorem books_execute_anonymous (anonymous : command.principal = .anonymous) :
    (desk.execute clock command).2.books = desk.books := by
  cases allowed : Access.authorize (ownerOf? desk.books) command.principal
    command.operation with
  | error fault => exact books_execute_of_error allowed
  | ok _ =>
    rw [anonymous] at allowed
    exact absurd allowed (Access.authorize_anonymous command.operation)

/-- What a command on behalf of a holder makes of the books. -/
theorem respects_execute [Lawful β] (clock : Clock)
    (reached : Reachable desk.books) {owner : OwnerId}
    (holds : command.principal = .holder owner) :
    Books.Respects owner (Bookkeeping.books desk.books)
      (desk.execute clock command).1
      (Bookkeeping.books (desk.execute clock command).2.books) := by
  cases allowed : Access.authorize (ownerOf? desk.books) command.principal
    command.operation with
  | error fault =>
    rw [books_execute_of_error allowed]
    exact Books.respects_refl owner _ _
  | ok _ =>
    rw [holds] at allowed
    exact (performs_execute clock desk command).respects reached.numbered
      (Access.holderMay_of_authorize allowed)

/-- A command on behalf of a holder leaves the next id. -/
theorem nextId_execute [Steady β] (clock : Clock) {owner : OwnerId}
    (holds : command.principal = .holder owner) :
    nextId (desk.execute clock command).2.books = nextId desk.books := by
  cases allowed : Access.authorize (ownerOf? desk.books) command.principal
    command.operation with
  | error fault => rw [books_execute_of_error allowed]
  | ok _ =>
    rw [books_execute_of_ok allowed]
    rw [holds] at allowed
    exact Steady.nextId_next clock command.operation desk.books
      (Access.holderMay_of_authorize allowed).needsAdministrator

/-- A command of somebody who is neither an administrator nor the owner leaves
an account with its owner, and its balance no smaller. -/
theorem lasts_execute [Lawful β] (clock : Clock)
    (reached : Reachable desk.books)
    (unprivileged : command.principal ≠ .administrator) {id : AccountId}
    {account : Account} (found : (accounts desk.books).find? id = some account)
    (foreign : command.principal ≠ .holder account.owner) :
    ∃ account',
      (accounts (desk.execute clock command).2.books).find? id =
          some account' ∧
        account'.owner = account.owner ∧
        account.balance ≤ account'.balance := by
  cases holds : command.principal with
  | administrator => exact absurd holds unprivileged
  | anonymous =>
    rw [books_execute_anonymous holds]
    exact ⟨account, found, rfl, Int.le_refl _⟩
  | holder owner =>
    have other : account.owner ≠ owner := by
      rintro rfl
      exact foreign holds
    have respects := respects_execute clock reached holds
    obtain ⟨account', found', le⟩ := respects.others id account found other
    have terms := respects.terms id
    have before : (Bookkeeping.books desk.books).accounts.find? id =
        some account := found
    rw [found', before, Option.map_some, Option.map_some,
      Option.some.injEq] at terms
    exact ⟨account', found', congrArg Prod.fst terms, le⟩

/-- Over any number of commands, none of them by an administrator or by its
owner, an account does not lose. -/
theorem lasts_executeAll [Lawful β] (clock : Clock) {desk : Desk β}
    (reached : Reachable desk.books) {commands : List Command}
    (unprivileged : ∀ command ∈ commands, command.principal ≠ .administrator)
    {id : AccountId} {account : Account}
    (found : (accounts desk.books).find? id = some account)
    (foreign : ∀ command ∈ commands,
      command.principal ≠ .holder account.owner) :
    ∃ account',
      (accounts (desk.executeAll clock commands).2.books).find? id =
          some account' ∧
        account'.owner = account.owner ∧
        account.balance ≤ account'.balance := by
  induction commands generalizing desk account with
  | nil => exact ⟨account, found, rfl, Int.le_refl _⟩
  | cons command rest ih =>
    rw [List.forall_mem_cons] at unprivileged foreign
    obtain ⟨account', found', owner_eq, le⟩ :=
      lasts_execute clock reached unprivileged.1 found foreign.1
    -- The owner is the same afterwards, so the rest is still by others.
    rw [← owner_eq] at foreign
    obtain ⟨last, last_found, last_owner_eq, last_le⟩ :=
      ih (reachable_execute reached) unprivileged.2 found' foreign.2
    exact ⟨last, last_found, last_owner_eq.trans owner_eq,
      Int.le_trans le last_le⟩

/--
What a desk guarantees to the owners of accounts: what one command can do that
is not an administrator's, and that over any number of them a balance goes down
only by a command of its owner.
-/
structure RespectsRights (clock : Clock) (desk : Desk β) : Prop where
  anonymous : ∀ command : Command, command.principal = .anonymous →
    (desk.execute clock command).2.books = desk.books
  holder : ∀ (command : Command) (owner : OwnerId),
    command.principal = .holder owner →
      Books.Respects owner (Bookkeeping.books desk.books)
        (desk.execute clock command).1
        (Bookkeeping.books (desk.execute clock command).2.books) ∧
      nextId (desk.execute clock command).2.books = nextId desk.books
  decrease : ∀ commands : List Command,
    (∀ command ∈ commands, command.principal ≠ .administrator) →
    ∀ n (inside : n < commands.length),
      let before := (desk.executeAll clock (commands.take n)).2
      let after := (before.execute clock commands[n]).2
      ∀ id account account',
        (accounts before.books).find? id = some account →
        (accounts after.books).find? id = some account' →
        account'.balance < account.balance →
          commands[n].principal = .holder account.owner
  lasting : ∀ commands : List Command,
    (∀ command ∈ commands, command.principal ≠ .administrator) →
    ∀ id account, (accounts desk.books).find? id = some account →
      (∀ command ∈ commands, command.principal ≠ .holder account.owner) →
        ∃ account',
          (accounts (desk.executeAll clock commands).2.books).find? id =
              some account' ∧
            account'.owner = account.owner ∧
            account.balance ≤ account'.balance

theorem respectsRights [Lawful β] [Steady β] (clock : Clock)
    (reached : Reachable desk.books) : RespectsRights clock desk where
  anonymous _ := books_execute_anonymous
  holder _ _ holds :=
    ⟨respects_execute clock reached holds, nextId_execute clock holds⟩
  decrease := by
    intro commands unprivileged n inside before after id account account' found
      found' smaller
    have before_reached : Reachable before.books :=
      reachable_executeAll clock (commands.take n) reached
    by_contra foreign
    obtain ⟨last, last_found, -, le⟩ := lasts_execute clock before_reached
      (unprivileged _ (List.getElem_mem inside)) found foreign
    rw [found'] at last_found
    cases last_found
    rw [Decimal.le_iff] at le
    rw [Decimal.lt_iff] at smaller
    omega
  lasting _ unprivileged _ _ found foreign :=
    lasts_executeAll clock reached unprivileged found foreign

end Desk

/-- At every desk with a ledger that can be reached, the owners of accounts are
respected. -/
theorem respectsRights_of_reachable (clock : Clock) :
    (∀ desk : Desk Ledger, Reachable desk.books →
      desk.RespectsRights clock) ∧
      ∀ desk : Desk SharedLedger, Reachable desk.books →
        desk.RespectsRights clock :=
  ⟨fun _ reached => Desk.respectsRights clock reached,
    fun _ reached => Desk.respectsRights clock reached⟩

/-- Two customers with an account each. -/
def neighbours (first second : AccountId) (one two : OwnerId) :
    List Operation :=
  [.openAccount (some first) one (.savings .zero),
    .openAccount (some second) two (.savings .zero),
    .deposit first .one]

theorem respectsRights_of_neighbours :
    let operations := neighbours ⟨1, by decide⟩ ⟨2, by decide⟩ ⟨1, by decide⟩
      ⟨2, by decide⟩
    let clock := Clock.still default
    (Desk.mk (after clock Ledger.empty operations) .empty).RespectsRights
        clock ∧
      (Desk.mk (after clock SharedLedger.empty operations)
        .empty).RespectsRights clock := by
  intro operations clock
  have guaranteed := respectsRights_of_reachable clock
  exact ⟨guaranteed.1 _ (Reachable.empty.after clock operations),
    guaranteed.2 _ (Reachable.empty.after clock operations)⟩

end Passbook
