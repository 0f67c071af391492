import Mathlib.Data.List.Induction
import Passbook.Proofs.History

/-!
# Histories and the journal tell the same

The journal has all records, and each account the numbers of those that belong
to it. They are written one after the other, and accounts come and go, so it
takes a proof that no number is missed or written twice: the history of an
account lists the records that were written since it was opened and belong to
it, all of them and no others, in their order.

`Grows` says what a movement adds to both, `Extends` what an operation does. The
run goes by induction on its last operation, with the size of the journal at the
last opening of an account as what is carried along.

## Main results

* `Performs.extends` — what an operation adds to journal and histories.
* `history_after` — the history of an open account after a run.
* `coherent_after` — journal and histories of either ledger after a run.
-/

namespace Passbook

/-! ## Records that belong to an account -/

/-- The accounts that a movement names. -/
def Movement.accounts : Movement → List AccountId
  | deposit id | withdrawal id | interest id => [id]
  | transfer source destination => [source, destination]

namespace Record

/-- Whether a record belongs to an account: a completed one to every account it
names, a failed one to the account that was to give the money. -/
def belongsTo (record : Record) (id : AccountId) : Bool :=
  match record.status with
  | .completed => record.movement.accounts.contains id
  | .failed => record.movement.source? == some id

theorem mem_accounts_iff {movement : Movement} {id : AccountId} :
    id ∈ movement.accounts ↔
      movement.source? = some id ∨ movement.destination? = some id := by
  cases movement <;>
    simp [Movement.accounts, Movement.source?, Movement.destination?, eq_comm]

theorem involves_iff {record : Record} {id : AccountId} :
    record.involves id = true ↔ id ∈ record.movement.accounts := by
  unfold involves
  rw [mem_accounts_iff, Bool.or_eq_true, beq_iff_eq, beq_iff_eq]

theorem belongsTo_iff {record : Record} {id : AccountId} :
    record.belongsTo id = true ↔ id ∈ record.concerned := by
  rw [mem_concerned_iff]
  unfold belongsTo
  cases record.status with
  | completed => simp [mem_accounts_iff]
  | failed => simp

/-- The numbers of the records that belong to an account. -/
def numbersOf (id : AccountId) (records : List Record) : List Nat :=
  (records.filter (·.belongsTo id)).map (·.number)

theorem numbersOf_append (id : AccountId) (first second : List Record) :
    numbersOf id (first ++ second) =
      numbersOf id first ++ numbersOf id second := by
  unfold numbersOf
  rw [List.filter_append, List.map_append]

theorem numbersOf_singleton (id : AccountId) (record : Record) :
    numbersOf id [record] =
      if record.belongsTo id then [record.number] else [] := by
  unfold numbersOf
  cases belongs : record.belongsTo id <;> simp [belongs]

end Record

open Record

/-- The numbers in the history of an account, if it is open. -/
def Books.numbers? (books : Books) (id : AccountId) : Option (List Nat) :=
  (books.accounts.find? id).map (·.history.toList)

/-! ## Movements -/

/-- Whether later books differ by records that were written: the journal has
them at its end, they name open accounts, and those they belong to have their
numbers. -/
structure Books.Grows (books later : Books) (written : List Record) :
    Prop where
  journal : later.journal.records.toList =
    books.journal.records.toList ++ written
  named : ∀ record ∈ written, ∀ id ∈ record.movement.accounts,
    (books.accounts.find? id).isSome
  attached : ∀ id, later.numbers? id =
    (books.numbers? id).map (· ++ numbersOf id written)

namespace Books.Grows

variable {books later last : Books} {written more : List Record}

theorem refl (books : Books) : books.Grows books [] where
  journal := (List.append_nil _).symm
  named := nofun
  attached id := by
    show _ = (books.numbers? id).map (· ++ [])
    simp

/-- The same accounts are open. -/
theorem isSome_find? (grows : books.Grows later written) (id : AccountId) :
    (later.accounts.find? id).isSome = (books.accounts.find? id).isSome := by
  have same := congrArg Option.isSome (grows.attached id)
  simpa only [numbers?, Option.isSome_map] using same

theorem trans (first : books.Grows later written)
    (second : later.Grows last more) : books.Grows last (written ++ more) where
  journal := by rw [second.journal, first.journal, List.append_assoc]
  named := by
    intro record mem id named
    rcases List.mem_append.1 mem with mem | mem
    · exact first.named record mem id named
    · rw [← first.isSome_find? id]
      exact second.named record mem id named
  attached id := by
    rw [second.attached, first.attached, Option.map_map]
    congr 1
    funext numbers
    show (numbers ++ _) ++ _ = numbers ++ _
    rw [numbersOf_append, List.append_assoc]

end Books.Grows

namespace Posting

variable {clock : Clock} {books : Books}

/-- A movement gives its number to the accounts that its record belongs to. -/
theorem history_settle (balances : List (AccountId × Decimal)) (record : Record)
    (account : Account) :
    (settle balances record account).history.toList =
      account.history.toList ++ numbersOf account.id [record] := by
  rw [numbersOf_singleton]
  unfold settle attachIf
  by_cases concerned : account.id ∈ record.concerned
  · rw [if_pos (show (rebalance balances account).id ∈ _ from concerned),
      if_pos (belongsTo_iff.2 concerned)]
    exact Array.toList_push
  · rw [if_neg (show (rebalance balances account).id ∉ _ from concerned),
      if_neg fun belongs => concerned (belongsTo_iff.1 belongs)]
    exact (List.append_nil _).symm

theorem grows_moved {balances : List (AccountId × Decimal)}
    {transaction : Transaction} {status : Status}
    (named : ∀ id ∈ transaction.movement.accounts,
      (books.accounts.find? id).isSome) :
    books.Grows ((moved balances transaction status).write clock books)
      [sealed clock books.journal transaction status] where
  journal := Array.toList_push
  named := List.forall_mem_singleton.2 named
  attached id := by
    unfold Books.numbers?
    rw [find?_write_moved, Option.map_map, Option.map_map]
    apply Option.map_congr
    intro account found
    have account_id : account.id = id := Register.find?_id found
    show (settle balances _ account).history.toList = _
    rw [history_settle, account_id]
    rfl

theorem grows_amended (id : AccountId) (kind : AccountKind) (balance : Decimal)
    (outcome : Outcome) :
    books.Grows ((amended id kind balance outcome).write clock books) [] where
  journal := (List.append_nil _).symm
  named := nofun
  attached other := by
    unfold Books.numbers?
    rw [find?_write_amended, Option.map_map, Option.map_map]
    apply Option.map_congr
    intro account _
    show (Register.only id (amend kind balance) account).history.toList =
      account.history.toList ++ []
    rw [List.append_nil]
    unfold Register.only
    split <;> rfl

end Posting

/-! ## Operations -/

/-- What an operation adds to journal and histories, along with what it answers:
an account that is opened has no history, and every other one that is open has
its own, and the new records that belong to it. -/
structure Books.Extends (books : Books) (answer : Except Fault Outcome)
    (written : List Record) (later : Books) : Prop where
  journal : later.journal.records.toList =
    books.journal.records.toList ++ written
  named : ∀ record ∈ written, ∀ id ∈ record.movement.accounts,
    (books.accounts.find? id).isSome ∧ (later.accounts.find? id).isSome
  histories : ∀ id numbers, later.numbers? id = some numbers →
    (openedBy answer = some id ∧ written = [] ∧ numbers = []) ∨
      (openedBy answer ≠ some id ∧ ∃ before, books.numbers? id = some before ∧
        numbers = before ++ numbersOf id written)

/-- An account that is open after an operation has been opened by it, or was
open before. -/
theorem Books.Extends.opened_or_open {books later : Books}
    {answer : Except Fault Outcome} {written : List Record}
    (extension : books.Extends answer written later) {id : AccountId}
    (is_open : (later.accounts.find? id).isSome) :
    openedBy answer = some id ∨ (books.accounts.find? id).isSome := by
  obtain ⟨account, found⟩ := Option.isSome_iff_exists.1 is_open
  rcases extension.histories id _
      (Option.map_eq_some_iff.2 ⟨account, found, rfl⟩) with
    ⟨opens, -, -⟩ | ⟨-, before, open_before, -⟩
  · exact Or.inl opens
  · obtain ⟨old, old_found, -⟩ := Option.map_eq_some_iff.1 open_before
    exact Or.inr (Option.isSome_of_eq_some old_found)

theorem Books.Grows.extends {books later : Books} {written : List Record}
    {answer : Except Fault Outcome} (grows : books.Grows later written)
    (opens_none : openedBy answer = none) :
    books.Extends answer written later where
  journal := grows.journal
  named record mem id named := by
    rw [grows.isSome_find? id]
    exact ⟨grows.named record mem id named, grows.named record mem id named⟩
  histories id numbers open_later := by
    rw [grows.attached, Option.map_eq_some_iff] at open_later
    obtain ⟨before, found, rfl⟩ := open_later
    rw [opens_none]
    exact Or.inr ⟨nofun, before, found, rfl⟩

theorem Change.extends (clock : Clock) {books : Books} {operation : Operation}
    {posting : Posting}
    (change : Change books.accounts.find? operation posting) :
    ∃ written, books.Extends (.ok (posting.outcome clock books)) written
      (posting.write clock books) := by
  cases change with
  | @opened given owner kind id asked free valid =>
    refine ⟨[], (List.append_nil _).symm, nofun, ?_⟩
    intro other numbers open_later
    obtain ⟨account, found, rfl⟩ := Option.map_eq_some_iff.1 open_later
    rw [Posting.write, Register.find?_insert] at found
    by_cases same : id = other
    · rw [if_pos same] at found
      cases found
      exact Or.inl ⟨congrArg some same, rfl, rfl⟩
    · rw [if_neg same] at found
      refine Or.inr ⟨fun eq => same (Option.some.inj eq), _,
        Option.map_eq_some_iff.2 ⟨account, found, rfl⟩,
        (List.append_nil _).symm⟩
  | @closed id account found =>
    refine ⟨[], (List.append_nil _).symm, nofun, ?_⟩
    intro other numbers open_later
    obtain ⟨left, left_found, rfl⟩ := Option.map_eq_some_iff.1 open_later
    rw [Posting.write, Register.find?_erase] at left_found
    by_cases same : other = id
    · rw [if_pos same] at left_found
      cases left_found
    · rw [if_neg same] at left_found
      exact Or.inr ⟨nofun, _,
        Option.map_eq_some_iff.2 ⟨left, left_found, rfl⟩,
        (List.append_nil _).symm⟩
  | deposited _ found | withdrawn _ found | notWithdrawn _ found
  | credited found =>
    refine ⟨_, (Posting.grows_moved ?_).extends rfl⟩
    exact List.forall_mem_singleton.2 (Option.isSome_of_eq_some found)
  | transferred _ _ a_found b_found | notTransferred _ _ a_found b_found =>
    refine ⟨_, (Posting.grows_moved ?_).extends rfl⟩
    exact List.forall_mem_cons.2 ⟨Option.isSome_of_eq_some a_found,
      List.forall_mem_singleton.2 (Option.isSome_of_eq_some b_found)⟩
  | notCredited | limited =>
    exact ⟨_, (Posting.grows_amended _ _ _ _).extends rfl⟩

/-- Crediting accounts in turn opens none and closes none. -/
theorem Credits.grows {clock : Clock} {books later : Books}
    {ids : List AccountId} {records : List Record}
    (credits : Credits clock books ids records later) :
    ∃ written, books.Grows later written := by
  induction credits with
  | done => exact ⟨[], .refl _⟩
  | passed _ ih => exact ih
  | credited change _ ih =>
    obtain ⟨more, second⟩ := ih
    cases change with
    | credited found =>
      refine ⟨_, (Posting.grows_moved ?_).trans second⟩
      exact List.forall_mem_singleton.2 (Option.isSome_of_eq_some found)
    | notCredited =>
      exact ⟨_, (Posting.grows_amended _ _ _ _).trans second⟩

/-- What an operation adds to journal and histories. -/
theorem Performs.extends {clock : Clock} {books later : Books}
    {operation : Operation} {answer : Except Fault Outcome}
    (performs : Performs clock books operation answer later) :
    ∃ written, books.Extends answer written later := by
  cases performs with
  | refused fault => exact ⟨[], (Books.Grows.refl _).extends rfl⟩
  | posted change => exact change.extends clock
  | creditedAll credits =>
    obtain ⟨written, grows⟩ := credits.grows
    exact ⟨written, grows.extends rfl⟩

/-! ## Numbers -/

/-- Whether the records of a journal are numbered 1, 2, 3, … -/
def Journal.Counts (journal : Journal) : Prop :=
  journal.records.toList.map (·.number) = List.range' 1 journal.size

namespace Journal

variable {journal : Journal}

theorem Counts.commit (counts : journal.Counts) (now : Instant)
    (transaction : Transaction) (status : Status) :
    (journal.commit now transaction status).2.Counts := by
  unfold Counts at counts ⊢
  rw [size_commit, records_commit, Array.toList_push, List.map_append, counts,
    List.range'_concat, List.map_singleton, number_commit]
  congr 2
  omega

theorem Counts.number_eq (counts : journal.Counts) {k : Nat} {record : Record}
    (at_k : journal.records.toList[k]? = some record) :
    record.number = k + 1 := by
  have number_at_k := congrArg (·[k]?) counts
  obtain ⟨inside, -⟩ := List.getElem?_eq_some_iff.1 at_k
  have inside_size : k < journal.size := by
    rwa [Array.length_toList] at inside
  rw [List.getElem?_map, at_k, List.getElem?_range' inside_size] at number_at_k
  have eq : record.number = 1 + 1 * k := Option.some.inj number_at_k
  omega

/-- Every record is found under its number. -/
theorem Counts.get?_number (counts : journal.Counts) {record : Record}
    (mem : record ∈ journal.records.toList) :
    journal.get? record.number = some record := by
  obtain ⟨k, at_k⟩ := List.mem_iff_getElem?.1 mem
  rw [counts.number_eq at_k]
  show journal.records[k]? = some record
  rw [← Array.getElem?_toList]
  exact at_k

/-- Looking up the numbers of some of the records finds these records. -/
theorem Counts.select_numbers (counts : journal.Counts) {numbers : Array Nat}
    {part : List Record} (sublist : part.Sublist journal.records.toList)
    (numbers_eq : numbers.toList = part.map (·.number)) :
    journal.select numbers = part := by
  unfold select
  rw [numbers_eq, List.filterMap_map]
  have found : part.filterMap (journal.get? ∘ (·.number)) =
      part.filterMap some :=
    List.filterMap_congr fun record mem =>
      counts.get?_number (sublist.subset mem)
  rw [found, List.filterMap_some]

/-- The numbers of some of the records ascend. -/
theorem Counts.pairwise (counts : journal.Counts) {part : List Record}
    (sublist : part.Sublist journal.records.toList) :
    (part.map (·.number)).Pairwise (· < ·) := by
  have all : (journal.records.toList.map (·.number)).Pairwise (· < ·) := by
    rw [counts]
    exact List.pairwise_lt_range'
  exact all.sublist (sublist.map _)

end Journal

/-! ## Runs -/

namespace Bookkeeping

open Transact

variable {β : Type} [Bookkeeping β]

/-- The records of a ledger in the order in which they were written. -/
def records (ledger : β) : List Record := (journal ledger).records.toList

/-- How many records there were when an account was last opened in a run, if it
was. -/
def since? (clock : Clock) (id : AccountId) : β → List Operation → Option Nat
  | _, [] => none
  | ledger, operation :: rest =>
    -- an opening later in the run goes before this one
    (since? clock id (next clock ledger operation) rest).or
      (if openedBy (answer ((perform clock operation).run ledger)) = some id
        then some (records ledger).length
        else none)

theorem since?_append (clock : Clock) (id : AccountId) (ledger : β)
    (first second : List Operation) :
    since? clock id ledger (first ++ second) =
      (since? clock id (after clock ledger first) second).or
        (since? clock id ledger first) := by
  induction first generalizing ledger with
  | nil => exact Option.or_none.symm
  | cons operation rest ih =>
    rw [List.cons_append, since?, since?, ih, Option.or_assoc]
    rfl

variable [Lawful β]

theorem Reachable.counts {ledger : β} (reached : Reachable ledger) :
    (journal ledger).Counts := by
  apply reached.books_induction (motive := fun books => books.journal.Counts)
  · rfl
  · intro clock books operation posting counts change
    cases posting with
    | moved balances transaction status =>
      exact counts.commit _ transaction status
    | opened | closed | amended => exact counts

/-- An operation adds records at the end of the journal. -/
theorem records_prefix_next (clock : Clock) (ledger : β)
    (operation : Operation) :
    records ledger <+: records (next clock ledger operation) := by
  obtain ⟨written, extension⟩ :=
    (Lawful.performs clock operation ledger).extends
  exact ⟨written, extension.journal.symm⟩

/-- So do any number of operations. -/
theorem records_prefix_after (clock : Clock) (ledger : β)
    (operations : List Operation) :
    records ledger <+: records (after clock ledger operations) := by
  induction operations generalizing ledger with
  | nil => exact List.prefix_refl _
  | cons operation rest ih =>
    exact (records_prefix_next clock ledger operation).trans (ih _)

/-- The history of an open account has the numbers of the records that were
written since it was last opened and belong to it. -/
theorem history_after (clock : Clock) (operations : List Operation)
    (id : AccountId) (numbers : List Nat)
    (found : (books (after clock (empty : β) operations)).numbers? id =
      some numbers) :
    ∃ opening, since? clock id (empty : β) operations = some opening ∧
      opening ≤ (records (after clock (empty : β) operations)).length ∧
      numbers = numbersOf id
        ((records (after clock (empty : β) operations)).drop opening) := by
  induction operations using List.reverseRecOn generalizing numbers with
  | nil =>
    rw [show books (after clock (empty : β) []) = ⟨.empty, .empty⟩ from
      Lawful.books_empty] at found
    cases found
  | append_singleton operations operation ih =>
    rw [after_append] at found ⊢
    rw [since?_append]
    obtain ⟨written, extension⟩ := (Lawful.performs clock operation
      (after clock (empty : β) operations)).extends
    have grown : records (after clock (after clock (empty : β) operations)
        [operation]) =
        records (after clock (empty : β) operations) ++ written :=
      extension.journal
    rw [grown]
    rcases extension.histories id numbers found with
      ⟨opened, rfl, rfl⟩ | ⟨not_opened, before, open_before, rfl⟩
    · -- opened by the last operation, which has written nothing
      refine ⟨_, ?_, Nat.le_of_eq (by rw [List.append_nil]), ?_⟩
      · rw [since?, since?, if_pos opened]
        rfl
      · rw [List.append_nil, List.drop_length]
        rfl
    · -- open before, so the numbers of the new records come behind the old ones
      obtain ⟨opening, since_eq, opening_le, before_eq⟩ := ih before open_before
      refine ⟨opening, ?_, ?_, ?_⟩
      · rw [since?, since?, if_neg not_opened, since_eq]
        rfl
      · rw [List.length_append]
        omega
      · rw [List.drop_append_of_le_length opening_le, numbersOf_append,
          before_eq]

/-- All records there were at any stage of a run are where they were. -/
theorem records_prefix_of_take (clock : Clock) (operations : List Operation)
    (n : Nat) :
    records (after clock (empty : β) (operations.take n)) <+:
      records (after clock (empty : β) operations) := by
  have later := records_prefix_after clock
    (after clock (empty : β) (operations.take n)) (operations.drop n)
  rwa [← after_append, List.take_append_drop] at later

/-- The accounts that a record names were open when it was written. -/
theorem open_of_written (clock : Clock) (operations : List Operation) (n : Nat)
    {record : Record}
    (written : record ∈
      (records (after clock (empty : β) (operations.take (n + 1)))).drop
        (records (after clock (empty : β) (operations.take n))).length)
    {id : AccountId} (names : id ∈ record.movement.accounts) :
    ((accounts (after clock (empty : β) (operations.take n))).find?
      id).isSome ∧
    ((accounts (after clock (empty : β) (operations.take (n + 1)))).find?
      id).isSome := by
  by_cases inside : n < operations.length
  · rw [after_take_succ _ _ _ inside] at written ⊢
    obtain ⟨new, extension⟩ := (Lawful.performs clock operations[n]
      (after clock (empty : β) (operations.take n))).extends
    have grown : records (next clock
        (after clock (empty : β) (operations.take n)) operations[n]) =
        records (after clock (empty : β) (operations.take n)) ++ new :=
      extension.journal
    rw [grown, List.drop_left] at written
    exact extension.named record written id names
  · -- nothing is written after the end of the run
    rw [List.take_of_length_le (by omega), List.take_of_length_le (by omega),
      List.drop_length] at written
    cases written

/-- Whether journal and histories tell the same after a run, and at every stage
of it. -/
structure Coherent (β : Type) [Bookkeeping β] (clock : Clock)
    (operations : List Operation) : Prop where
  /-- The record at each position has the number after it. -/
  numbered : ∀ k record,
    (records (after clock (empty : β) operations))[k]? = some record →
      record.number = k + 1
  /-- All records there were at any stage are where they were. -/
  kept : ∀ n,
    records (after clock (empty : β) (operations.take n)) <+:
      records (after clock (empty : β) operations)
  /-- The accounts that a record names were open when it was written. -/
  named : ∀ n, ∀ record ∈
    (records (after clock (empty : β) (operations.take (n + 1)))).drop
      (records (after clock (empty : β) (operations.take n))).length,
    ∀ id ∈ record.movement.accounts,
      ((accounts (after clock (empty : β) (operations.take n))).find?
        id).isSome ∧
      ((accounts (after clock (empty : β) (operations.take (n + 1)))).find?
        id).isSome
  /-- A history ascends, and lists the records since the account was last opened
  that belong to it; looking them up misses none. -/
  histories : ∀ id account,
    (accounts (after clock (empty : β) operations)).find? id = some account →
    ∃ opening, since? clock id (empty : β) operations = some opening ∧
      account.history.toList.Pairwise (· < ·) ∧
      account.history.toList = numbersOf id
        ((records (after clock (empty : β) operations)).drop opening) ∧
      ∃ found, history (after clock (empty : β) operations) id = .ok found ∧
        found = ((records (after clock (empty : β) operations)).drop
          opening).filter (·.belongsTo id) ∧
        found.length = account.history.size
  /-- The records that involve an account are all that name it, those before it
  was closed among them. -/
  involving : ∀ id,
    (journal (after clock (empty : β) operations)).involving id =
      (records (after clock (empty : β) operations)).filter
        (id ∈ ·.movement.accounts) ∧
    ∀ n,
      (journal (after clock (empty : β) (operations.take n))).involving id <+:
        (journal (after clock (empty : β) operations)).involving id

theorem coherent (clock : Clock) (operations : List Operation) :
    Coherent β clock operations where
  numbered _ _ := (Reachable.empty.after clock operations).counts.number_eq
  kept := records_prefix_of_take clock operations
  named n _ written _ names := open_of_written clock operations n written names
  histories := by
    intro id account found
    have counts := (Reachable.empty.after (β := β) clock operations).counts
    obtain ⟨opening, since_eq, -, numbers_eq⟩ := history_after clock operations
      id account.history.toList (Option.map_eq_some_iff.2 ⟨account, found, rfl⟩)
    have sublist : (((records (after clock (empty : β) operations)).drop
        opening).filter (·.belongsTo id)).Sublist
          (records (after clock (empty : β) operations)) :=
      List.filter_sublist.trans (List.drop_sublist _ _)
    have length_eq := congrArg List.length numbers_eq
    rw [Array.length_toList] at length_eq
    refine ⟨opening, since_eq, ?_, numbers_eq, _, ?_, rfl, ?_⟩
    · rw [numbers_eq]
      exact counts.pairwise sublist
    · have listed : history (after clock (empty : β) operations) id = .ok _ :=
        Books.history_of_find? found
      exact listed.trans
        (congrArg Except.ok (counts.select_numbers sublist numbers_eq))
    · rw [length_eq]
      exact (List.length_map _).symm
  involving := by
    intro id
    refine ⟨?_, fun n => (records_prefix_of_take clock operations n).filter _⟩
    apply List.filter_congr
    intro record _
    rw [← Bool.coe_iff_coe, involves_iff, decide_eq_true_iff]

end Bookkeeping

/-- Journal and histories of either ledger tell the same after any run. -/
theorem coherent_after :
    (∀ (clock : Clock) (operations : List Operation),
      Bookkeeping.Coherent Ledger clock operations) ∧
      ∀ (clock : Clock) (operations : List Operation),
        Bookkeeping.Coherent SharedLedger clock operations :=
  ⟨Bookkeeping.coherent, Bookkeeping.coherent⟩

end Passbook
