import Mathlib.Data.List.Flatten
import Passbook.Proofs.Conservation
import Passbook.Proofs.Footprint

/-!
# Interest for all is interest for each

To credit interest to all, a ledger lists its savings accounts and credits one
after the other, passing over what is refused. What crediting an account comes
to depends on that account alone, its record's number and time aside, and
crediting it leaves the others alone. As no account is listed twice, each is
still what it was at the start when its turn comes. So all are credited as each
of them alone would be, and the order does not matter.

All this is shown of `Books.credit` and `Books.creditEach`, which are functions
of the books. Both ledgers do to their books what these do.

## Main results

* `Books.exists_turn` — an account is what it was when its turn comes.
* `Books.creditEach_perm` — the order of the turns does not matter.
* `PostsCredits.fares` — how an account fares when all are credited, and when it
  alone is.
* `creditAll_creditsEach` — all of it, for both ledgers.
-/

namespace Passbook

open Bookkeeping Transact

/-! ## One account -/

namespace Books

/-- What crediting an account makes of the books, along with the records that it
hands out. -/
def credit (clock : Clock) (books : Books) (id : AccountId) :
    List Record × Books :=
  match Operation.crediting books.accounts.find? id with
  | .error _ => ([], books)
  | .ok posting =>
    ((posting.outcome clock books).records, posting.write clock books)

variable {clock clock' : Clock} {books books' : Books} {id other : AccountId}

theorem credit_of_error {fault : Fault}
    (refused : Operation.crediting books.accounts.find? id = .error fault) :
    books.credit clock id = ([], books) := by
  unfold credit
  rw [refused]

theorem credit_of_ok {posting : Posting}
    (posts : Operation.crediting books.accounts.find? id = .ok posting) :
    books.credit clock id =
      ((posting.outcome clock books).records, posting.write clock books) := by
  unfold credit
  rw [posts]

theorem crediting_congr
    (same : books.accounts.find? id = books'.accounts.find? id) :
    Operation.crediting books.accounts.find? id =
      Operation.crediting books'.accounts.find? id := by
  unfold Operation.crediting
  rw [Picture.seek_congr same]

/-- A record that is credited to an account is attached to it. -/
theorem find?_write_credited {account : Account} {balance interest : Decimal}
    (found : books.accounts.find? id = some account) :
    ((Posting.moved [(id, balance)] ⟨.interest id, interest⟩
        .completed).write clock books).accounts.find? id =
      some ({ account with balance }.attach (books.journal.size + 1)) := by
  have account_id : account.id = id := Register.find?_id found
  subst account_id
  rw [Posting.find?_write_moved, found, Option.map_some]
  unfold Posting.settle Posting.rebalance Posting.attachIf
  rw [List.lookup_cons_self, Option.getD_some]
  exact congrArg some (if_pos List.mem_cons_self)

theorem find?_write_notCredited {account : Account} {balance : Decimal}
    {outcome : Outcome} (found : books.accounts.find? id = some account) :
    ((Posting.amended id account.kind balance outcome).write clock
      books).accounts.find? id = some { account with balance } := by
  have account_id : account.id = id := Register.find?_id found
  rw [Posting.find?_write_amended, found, Option.map_some, Register.only,
    if_pos account_id]
  rfl

/-- Crediting an account leaves the others alone. -/
theorem find?_credit_of_ne (apart : other ≠ id) :
    (books.credit clock id).2.accounts.find? other =
      books.accounts.find? other := by
  cases posts : Operation.crediting books.accounts.find? id with
  | error fault => rw [credit_of_error posts]
  | ok posting =>
    have change := Change.of_crediting posts
    rw [credit_of_ok posts]
    apply Posting.find?_write_of_not_mem
    intro touched
    have confined := Posting.touched_subset change rfl other touched
    exact apart (List.mem_singleton.1 confined)

/-- The records of a credit are written at the end of the journal, under the
next numbers. -/
theorem journal_credit (clock : Clock) (books : Books) (id : AccountId) :
    (books.credit clock id).2.journal.records.toList =
        books.journal.records.toList ++ (books.credit clock id).1 ∧
      (books.credit clock id).1.map (·.number) =
        List.range' (books.journal.size + 1)
          (books.credit clock id).1.length := by
  cases posts : Operation.crediting books.accounts.find? id with
  | error fault =>
    rw [credit_of_error posts]
    exact ⟨(List.append_nil _).symm, rfl⟩
  | ok posting =>
    have change := Change.of_crediting posts
    rw [credit_of_ok posts]
    cases change with
    | credited => exact ⟨Array.toList_push, rfl⟩
    | notCredited => exact ⟨(List.append_nil _).symm, rfl⟩

/-- What the records of a credit say depends on the account alone. -/
theorem content_credit_congr
    (same : books.accounts.find? id = books'.accounts.find? id) :
    (books.credit clock id).1.map Record.content =
      (books'.credit clock' id).1.map Record.content := by
  cases posts : Operation.crediting books.accounts.find? id with
  | error fault =>
    rw [credit_of_error posts, credit_of_error (crediting_congr same ▸ posts)]
  | ok posting =>
    have change := Change.of_crediting posts
    rw [credit_of_ok posts, credit_of_ok (crediting_congr same ▸ posts)]
    cases change with
    | credited => rfl
    | notCredited => rfl

/-- What becomes of an account that is credited depends on the account alone,
the number of the record aside. -/
theorem bare_credit_congr
    (same : books.accounts.find? id = books'.accounts.find? id) :
    ((books.credit clock id).2.accounts.find? id).map Account.bare =
      ((books'.credit clock' id).2.accounts.find? id).map Account.bare := by
  cases posts : Operation.crediting books.accounts.find? id with
  | error fault =>
    rw [credit_of_error posts, credit_of_error (crediting_congr same ▸ posts),
      same]
  | ok posting =>
    have change := Change.of_crediting posts
    rw [credit_of_ok posts, credit_of_ok (crediting_congr same ▸ posts)]
    cases change with
    | credited found =>
      rw [find?_write_credited found, find?_write_credited (same ▸ found)]
      rfl
    | notCredited found =>
      rw [find?_write_notCredited found, find?_write_notCredited (same ▸ found)]

/-- A credit hands out one record of interest for the account, or none. -/
theorem movements_credit (clock : Clock) (books : Books) (id : AccountId) :
    (books.credit clock id).1.map (·.movement) = [] ∨
      (books.credit clock id).1.map (·.movement) = [.interest id] := by
  cases posts : Operation.crediting books.accounts.find? id with
  | error fault =>
    rw [credit_of_error posts]
    exact Or.inl rfl
  | ok posting =>
    have change := Change.of_crediting posts
    rw [credit_of_ok posts]
    cases change with
    | credited => exact Or.inr rfl
    | notCredited => exact Or.inl rfl

/-! ## Accounts in turn -/

/-- What crediting accounts in turn makes of the books, along with the records
that it hands out. -/
def creditEach (clock : Clock) : Books → List AccountId → List Record × Books
  | books, [] => ([], books)
  | books, id :: rest =>
    let first := books.credit clock id
    let others := creditEach clock first.2 rest
    (first.1 ++ others.1, others.2)

theorem creditEach_append (clock : Clock) (books : Books)
    (first second : List AccountId) :
    books.creditEach clock (first ++ second) =
      ((books.creditEach clock first).1 ++
        ((books.creditEach clock first).2.creditEach clock second).1,
        ((books.creditEach clock first).2.creditEach clock second).2) := by
  induction first generalizing books with
  | nil => rfl
  | cons id rest ih =>
    rw [List.cons_append, creditEach, ih]
    simp only [creditEach, List.append_assoc]

theorem journal_creditEach (clock : Clock) (books : Books)
    (ids : List AccountId) :
    (books.creditEach clock ids).2.journal.records.toList =
        books.journal.records.toList ++ (books.creditEach clock ids).1 ∧
      (books.creditEach clock ids).1.map (·.number) =
        List.range' (books.journal.size + 1)
          (books.creditEach clock ids).1.length := by
  induction ids generalizing books with
  | nil => exact ⟨(List.append_nil _).symm, rfl⟩
  | cons id rest ih =>
    obtain ⟨journal, numbered⟩ := journal_credit clock books id
    obtain ⟨rest_journal, rest_numbered⟩ := ih (books.credit clock id).2
    have size_eq : (books.credit clock id).2.journal.size =
        books.journal.size + (books.credit clock id).1.length := by
      have lengths := congrArg List.length journal
      rwa [List.length_append] at lengths
    constructor
    · rw [creditEach, rest_journal, journal, List.append_assoc]
    · rw [creditEach, List.map_append, numbered, rest_numbered,
        List.length_append, size_eq, ← List.range'_append_1]
      congr 2
      omega

/-- An account whose turn does not come is left alone. -/
theorem find?_creditEach_of_not_mem (clock : Clock) (books : Books)
    {ids : List AccountId} (not_mem : id ∉ ids) :
    (books.creditEach clock ids).2.accounts.find? id =
      books.accounts.find? id := by
  induction ids generalizing books with
  | nil => rfl
  | cons other rest ih =>
    rw [List.mem_cons, not_or] at not_mem
    rw [creditEach, ih _ not_mem.2, find?_credit_of_ne not_mem.1]

/-- An account whose turn comes once is credited once, in books where it is
still what it was. -/
theorem exists_turn (clock : Clock) (books : Books) {ids : List AccountId}
    (nodup : ids.Nodup) (mem : id ∈ ids) :
    ∃ between : Books,
      between.accounts.find? id = books.accounts.find? id ∧
      (∀ record ∈ (between.credit clock id).1,
        record ∈ (books.creditEach clock ids).1) ∧
      (books.creditEach clock ids).2.accounts.find? id =
        (between.credit clock id).2.accounts.find? id := by
  obtain ⟨before, behind, rfl⟩ := List.append_of_mem mem
  obtain ⟨-, turn_nodup, apart⟩ := List.nodup_append.1 nodup
  -- before its turn nobody has touched the account, and after it nobody will
  have not_before : id ∉ before :=
    fun mem_before => apart id mem_before id List.mem_cons_self rfl
  refine ⟨(books.creditEach clock before).2,
    find?_creditEach_of_not_mem clock books not_before, ?_, ?_⟩
  · intro record record_mem
    rw [creditEach_append]
    exact List.mem_append_right _ (List.mem_append_left _ record_mem)
  · rw [creditEach_append]
    exact find?_creditEach_of_not_mem clock _ (List.nodup_cons.1 turn_nodup).1

/-- What the records of accounts credited in turn say is what the record of each
would say, if it were the first. -/
theorem content_creditEach (clock : Clock) (books : Books)
    {ids : List AccountId} (nodup : ids.Nodup) :
    (books.creditEach clock ids).1.map Record.content =
      ids.flatMap fun id =>
        (books.credit clock id).1.map Record.content := by
  induction ids generalizing books with
  | nil => rfl
  | cons id rest ih =>
    obtain ⟨not_mem, rest_nodup⟩ := List.nodup_cons.1 nodup
    rw [creditEach, List.map_append, ih _ rest_nodup, List.flatMap_cons]
    congr 1
    apply List.flatMap_congr
    intro other mem
    apply content_credit_congr
    exact find?_credit_of_ne fun eq => not_mem (eq ▸ mem)

/-- An account to which a record credits interest would be credited if it were
the first. -/
theorem credit_ne_nil_of_mem {ids : List AccountId} (nodup : ids.Nodup)
    {record : Record} (mem : record ∈ (books.creditEach clock ids).1)
    (interest : record.movement = .interest id) :
    (books.credit clock id).1 ≠ [] := by
  have content_mem := List.mem_map_of_mem (f := Record.content) mem
  rw [content_creditEach clock books nodup, List.mem_flatMap] at content_mem
  obtain ⟨other, -, content_mem⟩ := content_mem
  obtain ⟨alone, alone_mem, content_eq⟩ := List.mem_map.1 content_mem
  have movement_eq : alone.movement = .interest id :=
    (congrArg (·.transaction.movement) content_eq).trans interest
  have movement_mem := List.mem_map_of_mem (f := (·.movement)) alone_mem
  rcases movements_credit clock books other with none | one
  · rw [none] at movement_mem
    cases movement_mem
  · rw [one, movement_eq, List.mem_singleton] at movement_mem
    cases movement_mem
    exact List.ne_nil_of_mem alone_mem

/-- The accounts of the records are in the order in which their turns come. -/
theorem movements_creditEach (clock : Clock) (books : Books)
    (ids : List AccountId) : ∃ credited : List AccountId,
    credited.Sublist ids ∧
      (books.creditEach clock ids).1.map (·.movement) =
        credited.map .interest := by
  induction ids generalizing books with
  | nil => exact ⟨[], .slnil, rfl⟩
  | cons id rest ih =>
    obtain ⟨credited, part, movements⟩ := ih (books.credit clock id).2
    rw [creditEach, List.map_append, movements]
    rcases movements_credit clock books id with none | one
    · exact ⟨credited, part.cons id, by rw [none, List.nil_append]⟩
    · exact ⟨id :: credited, part.cons_cons id, by rw [one]; rfl⟩

/-- The order in which accounts are credited does not matter, nor do the clock
and the numbers. -/
theorem creditEach_perm (clock clock' : Clock) (books : Books)
    {ids ids' : List AccountId} (nodup : ids.Nodup) (perm : ids'.Perm ids) :
    (∀ id, ((books.creditEach clock' ids').2.accounts.find? id).map
        Account.bare =
      ((books.creditEach clock ids).2.accounts.find? id).map Account.bare) ∧
    ((books.creditEach clock' ids').1.map Record.content).Perm
      ((books.creditEach clock ids).1.map Record.content) := by
  have nodup' : ids'.Nodup := perm.nodup_iff.2 nodup
  constructor
  · intro id
    by_cases mem : id ∈ ids
    · obtain ⟨between, same, -, after⟩ := exists_turn clock books nodup mem
      obtain ⟨between', same', -, after'⟩ :=
        exists_turn clock' books nodup' (perm.mem_iff.2 mem)
      rw [after, after', bare_credit_congr (same'.trans same.symm)]
    · rw [find?_creditEach_of_not_mem clock books mem,
        find?_creditEach_of_not_mem clock' books
          fun mem' => mem (perm.mem_iff.1 mem')]
  · rw [content_creditEach clock books nodup,
      content_creditEach clock' books nodup']
    have same (id : AccountId) : (books.credit clock' id).1.map Record.content =
        (books.credit clock id).1.map Record.content :=
      content_credit_congr rfl
    simp only [same]
    exact perm.flatMap_right _

end Books

/-! ## Savings accounts -/

namespace Register

theorem mem_savingsIds_iff {accounts : Register} {id : AccountId} :
    id ∈ accounts.savingsIds ↔
      ∃ account rate, accounts.find? id = some account ∧
        account.kind = .savings rate := by
  unfold savingsIds
  rw [List.mem_filterMap]
  constructor
  · rintro ⟨account, mem, listed⟩
    split at listed
    case h_1 rate saves =>
      cases listed
      exact ⟨account, rate, find?_of_mem mem, saves⟩
    case h_2 => cases listed
  · rintro ⟨account, rate, found, saves⟩
    refine ⟨account, find?_mem found, ?_⟩
    rw [saves, find?_id found]

end Register

/-- None but savings accounts are credited. -/
theorem Operation.mem_savingsIds_of_crediting {accounts : Register}
    {id : AccountId} {posting : Posting}
    (posts : crediting accounts.find? id = .ok posting) :
    id ∈ accounts.savingsIds := by
  rw [Register.mem_savingsIds_iff]
  have change := Change.of_crediting posts
  cases change with
  | credited found saves => exact ⟨_, _, found, saves⟩
  | notCredited found saves => exact ⟨_, _, found, saves⟩

/-! ## Ledgers -/

namespace Bookkeeping

/-- The records that an answer hands out. -/
def recordsOf : Except Fault Outcome → List Record
  | .ok outcome => outcome.records
  | .error _ => []

/-- A way to replace the books of a ledger by which it posts its credits. -/
structure PostsCredits {β : Type} [Bookkeeping β]
    (withBooks : β → Books → β) : Prop where
  books_withBooks : ∀ ledger books,
    Bookkeeping.books (withBooks ledger books) = books
  nextId_withBooks : ∀ ledger books,
    nextId (withBooks ledger books) = nextId ledger
  run_one : ∀ (clock : Clock) (ledger : β) (id : AccountId),
    (perform clock (.creditInterest (some id))).run ledger =
      Posting.carryOut withBooks clock ledger
        (Operation.crediting (books ledger).accounts.find? id)
  run_all : ∀ (clock : Clock) (ledger : β),
    (perform clock (.creditInterest none)).run ledger =
      let run := gather (creditInterest clock) (accounts ledger).savingsIds
        ledger
      .ok (.credited run.1) run.2

section

variable {β : Type} [Bookkeeping β]

theorem next_one (clock : Clock) (ledger : β) (id : AccountId) :
    next clock ledger (.creditInterest (some id)) =
      state ((creditInterest clock id).run ledger) :=
  state_map _ _ _

theorem recordsOf_one (clock : Clock) (ledger : β) (id : AccountId) :
    recordsOf (answer ((perform clock (.creditInterest (some id))).run
      ledger)) = gathered (answer ((creditInterest clock id).run ledger)) := by
  have answered : answer ((perform clock (.creditInterest (some id))).run
      ledger) = (answer ((creditInterest clock id).run ledger)).map
        fun record => .credited record.toList := answer_map _ _ _
  rw [answered]
  cases answer ((creditInterest clock id).run ledger) <;> rfl

/-- Crediting accounts one by one is crediting them in turn. -/
theorem after_ones (clock : Clock) (ledger : β) (ids : List AccountId) :
    let run := gather (creditInterest clock) ids ledger
    let operations := ids.map fun id => Operation.creditInterest (some id)
    after clock ledger operations = run.2 ∧
      (answers clock ledger operations).flatMap recordsOf = run.1 := by
  induction ids generalizing ledger with
  | nil => exact ⟨rfl, rfl⟩
  | cons id rest ih =>
    obtain ⟨reached, given⟩ :=
      ih (next clock ledger (.creditInterest (some id)))
    rw [next_one] at reached given
    dsimp only
    rw [gather_cons]
    refine ⟨?_, ?_⟩
    · rw [← reached, ← next_one]
      rfl
    · rw [List.map_cons, answers, List.flatMap_cons, next_one, given,
        recordsOf_one]

end

section

variable {β : Type} [Bookkeeping β] {withBooks : β → Books → β}
  (posts : PostsCredits withBooks)
include posts

/-- Crediting an account makes of the books what it should, and no id is given
out. -/
theorem PostsCredits.one (clock : Clock) (ledger : β) (id : AccountId) :
    recordsOf (answer ((perform clock (.creditInterest (some id))).run
        ledger)) = ((books ledger).credit clock id).1 ∧
      books (next clock ledger (.creditInterest (some id))) =
        ((books ledger).credit clock id).2 ∧
      nextId (next clock ledger (.creditInterest (some id))) =
        nextId ledger := by
  unfold next
  rw [posts.run_one]
  cases decided : Operation.crediting (books ledger).accounts.find? id with
  | error fault =>
    rw [Books.credit_of_error decided]
    exact ⟨rfl, rfl, rfl⟩
  | ok posting =>
    rw [Books.credit_of_ok decided]
    exact ⟨rfl, posts.books_withBooks _ _, posts.nextId_withBooks _ _⟩

theorem PostsCredits.each (clock : Clock) (ledger : β) (ids : List AccountId) :
    let run := gather (creditInterest clock) ids ledger
    run.1 = ((books ledger).creditEach clock ids).1 ∧
      books run.2 = ((books ledger).creditEach clock ids).2 ∧
      nextId run.2 = nextId ledger := by
  induction ids generalizing ledger with
  | nil => exact ⟨rfl, rfl, rfl⟩
  | cons id rest ih =>
    obtain ⟨given, books_eq, next_eq⟩ := posts.one clock ledger id
    obtain ⟨rest_given, rest_books, rest_next⟩ :=
      ih (next clock ledger (.creditInterest (some id)))
    rw [recordsOf_one] at given
    rw [books_eq] at rest_given rest_books
    rw [next_eq] at rest_next
    rw [next_one] at rest_given rest_books rest_next
    dsimp only
    rw [gather_cons, Books.creditEach, given, rest_given]
    exact ⟨rfl, rest_books, rest_next⟩

/-- Crediting all is crediting the savings accounts in turn. -/
theorem PostsCredits.all (clock : Clock) (ledger : β) :
    let each := (books ledger).creditEach clock (accounts ledger).savingsIds
    answer ((perform clock (.creditInterest none)).run ledger) =
        .ok (.credited each.1) ∧
      books (next clock ledger (.creditInterest none)) = each.2 ∧
      nextId (next clock ledger (.creditInterest none)) = nextId ledger := by
  obtain ⟨given, books_eq, next_eq⟩ :=
    posts.each clock ledger (accounts ledger).savingsIds
  unfold next
  rw [posts.run_all]
  dsimp only at given books_eq next_eq ⊢
  rw [answer_ok, state_ok, given]
  exact ⟨rfl, books_eq, next_eq⟩

end

/-! ## All accounts -/

section

variable {β : Type} [Bookkeeping β]

/-- How an account fares when all are credited, compared with how it fares when
it is the only one. -/
inductive Fares (clock : Clock) (ledger : β) (records : List Record)
    (id : AccountId) : Prop
  /-- The interest and the balance are the same. -/
  | credited {account : Account} {rate interest balance : Decimal}
      {alone record : Record}
      (found : (accounts ledger).find? id = some account)
      (saves : account.kind = .savings rate)
      (answered_alone :
        answer ((perform clock (.creditInterest (some id))).run ledger) =
          .ok (.credited [alone]))
      (content_alone :
        alone.content = ⟨⟨.interest id, interest⟩, .completed⟩)
      (left_alone :
        (accounts (next clock ledger (.creditInterest (some id)))).find? id =
          some ({ account with balance }.attach alone.number))
      (mem : record ∈ records)
      (content_eq : record.content = alone.content)
      (left : (accounts (next clock ledger (.creditInterest none))).find? id =
        some ({ account with balance }.attach record.number))
  /-- Interest of zero leaves the worth of the balance alone. -/
  | worthless {account : Account} {rate balance : Decimal}
      (found : (accounts ledger).find? id = some account)
      (saves : account.kind = .savings rate)
      (answered_alone :
        answer ((perform clock (.creditInterest (some id))).run ledger) =
          .ok (.credited []))
      (unrecorded : ∀ record ∈ records, record.movement ≠ .interest id)
      (worth : balance.units = account.balance.units)
      (left : (accounts (next clock ledger (.creditInterest none))).find? id =
        some { account with balance })
  /-- A credit that is refused changes nothing. -/
  | refused {fault : Fault}
      (answered_alone :
        answer ((perform clock (.creditInterest (some id))).run ledger) =
          .error fault)
      (unrecorded : ∀ record ∈ records, record.movement ≠ .interest id)
      (left : (accounts (next clock ledger (.creditInterest none))).find? id =
        (accounts ledger).find? id)

/-- Whether crediting all accounts credits each of them once, and hands out
these records. -/
structure CreditsEach (clock : Clock) (ledger : β) (records : List Record) :
    Prop where
  answered : answer ((perform clock (.creditInterest none)).run ledger) =
    .ok (.credited records)
  fares : ∀ id, Fares clock ledger records id
  /-- Checking accounts are left alone. -/
  checking : ∀ id account limit, (accounts ledger).find? id = some account →
    account.kind = .checking limit →
    (accounts (next clock ledger (.creditInterest none))).find? id =
      some account
  nextId_eq : nextId (next clock ledger (.creditInterest none)) = nextId ledger
  /-- The records that are handed out are those that are written. -/
  journal : (journal (next clock ledger
    (.creditInterest none))).records.toList =
      (journal ledger).records.toList ++ records
  numbered : records.map (·.number) =
    List.range' ((Bookkeeping.journal ledger).size + 1) records.length
  /-- They are in ascending order of the accounts. -/
  ascending : ∃ ids : List AccountId, ids.Pairwise (· < ·) ∧
    records.map (·.movement) = ids.map .interest
  /-- In any other order, and at any other time, the accounts are left the same
  but for the numbers in their histories, and the records say the same. -/
  reordered : ∀ (other : Clock) (ids : List AccountId),
    ids.Perm (accounts ledger).savingsIds →
    let operations := ids.map fun id => Operation.creditInterest (some id)
    (∀ id, ((accounts (after other ledger operations)).find? id).map
        Account.bare =
      ((accounts (next clock ledger (.creditInterest none))).find? id).map
        Account.bare) ∧
    (((answers other ledger operations).flatMap recordsOf).map
      Record.content).Perm (records.map Record.content)

variable {withBooks : β → Books → β} (posts : PostsCredits withBooks)
include posts

/-- How an account fares is told by the books in which its turn comes. -/
theorem PostsCredits.fares (clock : Clock) (ledger : β) (id : AccountId) :
    Fares clock ledger ((books ledger).creditEach clock
      (accounts ledger).savingsIds).1 id := by
  have all_accounts :
      (accounts (next clock ledger (.creditInterest none))).find? id =
        ((books ledger).creditEach clock
          (accounts ledger).savingsIds).2.accounts.find? id := by
    rw [← (posts.all clock ledger).2.1]
    rfl
  have one_accounts :
      (accounts (next clock ledger (.creditInterest (some id)))).find? id =
        ((books ledger).credit clock id).2.accounts.find? id := by
    rw [← (posts.one clock ledger id).2.1]
    rfl
  have nodup := (accounts ledger).nodup_savingsIds
  -- a record for the account would mean that it alone gets one as well
  have unrecorded (none_alone : ((books ledger).credit clock id).1 = []) :
      ∀ record ∈ ((books ledger).creditEach clock
        (accounts ledger).savingsIds).1, record.movement ≠ .interest id :=
    fun _ mem interest =>
      Books.credit_ne_nil_of_mem nodup mem interest none_alone
  cases decided : Operation.crediting (books ledger).accounts.find? id with
  | error fault =>
    have answered : answer ((perform clock (.creditInterest (some id))).run
        ledger) = .error fault := by
      rw [posts.run_one, decided]
      rfl
    have none_alone : ((books ledger).credit clock id).1 = [] := by
      rw [Books.credit_of_error decided]
    refine .refused answered (unrecorded none_alone) ?_
    rw [all_accounts]
    by_cases mem : id ∈ (accounts ledger).savingsIds
    · obtain ⟨between, same, -, left⟩ :=
        Books.exists_turn clock (books ledger) nodup mem
      rw [left, Books.credit_of_error (Books.crediting_congr same ▸ decided)]
      exact same
    · exact Books.find?_creditEach_of_not_mem clock _ mem
  | ok posting =>
    have mem := Operation.mem_savingsIds_of_crediting decided
    obtain ⟨between, same, given, left⟩ :=
      Books.exists_turn clock (books ledger) nodup mem
    have between_decided :
        Operation.crediting between.accounts.find? id = .ok posting :=
      Books.crediting_congr same ▸ decided
    have answered : answer ((perform clock (.creditInterest (some id))).run
        ledger) = .ok (posting.outcome clock (books ledger)) := by
      rw [posts.run_one, decided]
      rfl
    have change := Change.of_crediting decided
    rw [Books.credit_of_ok between_decided] at given left
    rw [Books.credit_of_ok decided] at one_accounts unrecorded
    cases change with
    | @credited id rate interest balance account found saves =>
      have left_alone : (accounts (next clock ledger
          (.creditInterest (some id)))).find? id =
          some ({ account with balance }.attach
            ((books ledger).journal.size + 1)) := by
        rw [one_accounts]
        exact Books.find?_write_credited found
      have left_all : (accounts (next clock ledger
          (.creditInterest none))).find? id =
          some ({ account with balance }.attach
            (between.journal.size + 1)) := by
        rw [all_accounts, left]
        exact Books.find?_write_credited (same ▸ found)
      exact .credited found saves answered rfl left_alone
        (given _ List.mem_cons_self) rfl left_all
    | notCredited found saves earned nothing sum =>
      have worth := Decimal.units_add?_of_zero (Or.inr nothing) sum
      rw [(Decimal.units_eq_zero_iff _).2 nothing, Int.add_zero] at worth
      refine .worthless found saves answered (unrecorded rfl) worth ?_
      rw [all_accounts, left, Books.find?_write_notCredited (same ▸ found)]

theorem PostsCredits.creditsEach (clock : Clock) (ledger : β) :
    CreditsEach clock ledger ((books ledger).creditEach clock
      (accounts ledger).savingsIds).1 := by
  have nodup := (accounts ledger).nodup_savingsIds
  obtain ⟨answered, all_books, next_eq⟩ := posts.all clock ledger
  obtain ⟨journal, numbered⟩ := (books ledger).journal_creditEach clock
    (accounts ledger).savingsIds
  constructor
  case answered => exact answered
  case fares => exact posts.fares clock ledger
  case checking =>
    intro id account limit found checks
    have not_savings {saver : Account} {rate : Decimal}
        (found' : (accounts ledger).find? id = some saver) :
        saver.kind ≠ .savings rate := by
      rw [found] at found'
      cases found'
      rw [checks]
      exact nofun
    cases posts.fares clock ledger id with
    | credited found' saves => exact absurd saves (not_savings found')
    | worthless found' saves => exact absurd saves (not_savings found')
    | refused _ _ left => exact left.trans found
  case nextId_eq => exact next_eq
  case journal =>
    rw [← all_books] at journal
    exact journal
  case numbered => exact numbered
  case ascending =>
    obtain ⟨credited, part, movements⟩ :=
      (books ledger).movements_creditEach clock (accounts ledger).savingsIds
    exact ⟨credited, (accounts ledger).pairwise_savingsIds.sublist part,
      movements⟩
  case reordered =>
    intro other ids perm
    obtain ⟨after_eq, given_eq⟩ := after_ones other ledger ids
    have other_each := posts.each other ledger ids
    obtain ⟨accounts_eq, contents⟩ :=
      (books ledger).creditEach_perm clock other nodup perm
    rw [← other_each.2.1, ← all_books] at accounts_eq
    rw [← other_each.1] at contents
    dsimp only at after_eq given_eq ⊢
    rw [after_eq, given_eq]
    exact ⟨accounts_eq, contents⟩

end

end Bookkeeping

/-! ## The two ledgers -/

theorem Ledger.postsCredits : PostsCredits Ledger.withBooks where
  books_withBooks _ _ := rfl
  nextId_withBooks _ _ := rfl
  run_one _ _ id := Ledger.run_creditInterest id
  run_all _ _ := rfl

theorem SharedLedger.postsCredits : PostsCredits SharedLedger.withBooks where
  books_withBooks _ _ := rfl
  nextId_withBooks _ _ := rfl
  run_one _ _ id := SharedLedger.run_creditInterest id
  run_all _ _ := rfl

/-- Interest for all is interest for each, once, whatever the state of the
ledger. -/
theorem creditAll_creditsEach (clock : Clock) :
    (∀ ledger : Ledger, ∃ records, CreditsEach clock ledger records) ∧
      ∀ ledger : SharedLedger, ∃ records, CreditsEach clock ledger records :=
  ⟨fun ledger => ⟨_, Ledger.postsCredits.creditsEach clock ledger⟩,
    fun ledger => ⟨_, SharedLedger.postsCredits.creditsEach clock ledger⟩⟩

end Passbook
