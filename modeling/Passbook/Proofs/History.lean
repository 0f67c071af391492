import Mathlib.Data.List.Basic
import Passbook.Proofs.Lawful

/-!
# Histories point into the journal

An account keeps the numbers of its records, and the journal keeps the records.
The numbers of every open account are numbers of the journal, so a commit adds
to the histories that get the new number and leaves the others as they were.

## Main results

* `select_commit`, `select_push_commit` — the records of an account after a
  commit.
* `Reachable.numbered` — in a reachable state every history points to records.
* `Performs.keeps` — an operation leaves all records where they are.
-/

namespace Passbook

namespace Journal

/-- Whether all numbers belong to records of the journal. -/
def Holds (journal : Journal) (numbers : Array Nat) : Prop :=
  ∀ n ∈ numbers.toList, 0 < n ∧ n ≤ journal.size

variable {journal : Journal} {numbers : Array Nat} (now : Instant)
  (transaction : Transaction)
  (status : Status)

theorem holds_nil (journal : Journal) : journal.Holds #[] := by
  intro n mem
  cases mem

theorem Holds.commit (holds : journal.Holds numbers) :
    (journal.commit now transaction status).2.Holds numbers := by
  intro n mem
  rw [size_commit]
  have bounds := holds n mem
  omega

theorem Holds.push_commit (holds : journal.Holds numbers) :
    (journal.commit now transaction status).2.Holds
      (numbers.push (journal.commit now transaction status).1.number) := by
  intro n mem
  rw [Array.toList_push, List.mem_append, List.mem_singleton] at mem
  rcases mem with old | new
  · exact holds.commit now transaction status n old
  · rw [new, number_commit, size_commit]
    omega

theorem get?_commit_of_le {n : Nat} (pos : 0 < n) (le : n ≤ journal.size) :
    (journal.commit now transaction status).2.get? n = journal.get? n := by
  have lt : n - 1 < journal.records.size := by
    unfold size at le
    omega
  rw [get?_eq_getElem? _ pos, get?_eq_getElem? _ pos, records_commit,
    Array.getElem?_push, if_neg (by omega)]

theorem get?_commit_number :
    (journal.commit now transaction status).2.get?
        (journal.commit now transaction status).1.number =
      some (journal.commit now transaction status).1 := by
  rw [number_commit, get?_eq_getElem? _ (by omega), records_commit,
    Nat.add_sub_cancel]
  exact Array.getElem?_push_size

/-- A commit changes nothing about the records of older numbers. -/
theorem select_commit (holds : journal.Holds numbers) :
    (journal.commit now transaction status).2.select numbers =
      journal.select numbers := by
  unfold select
  apply List.filterMap_congr
  intro n mem
  have bounds := holds n mem
  exact get?_commit_of_le now transaction status bounds.1 bounds.2

/-- The new number stands for the new record. -/
theorem select_push_commit (holds : journal.Holds numbers) :
    (journal.commit now transaction status).2.select
        (numbers.push (journal.commit now transaction status).1.number) =
      journal.select numbers ++
        [(journal.commit now transaction status).1] := by
  have older := select_commit now transaction status holds
  unfold select at older ⊢
  rw [Array.toList_push, List.filterMap_append, older, List.filterMap_cons,
    get?_commit_number, List.filterMap_nil]

end Journal

/-- Whether the histories of all open accounts point into the journal. -/
def Books.Numbered (books : Books) : Prop :=
  books.accounts.Every fun account => books.journal.Holds account.history

/-- Histories point into the journal after every change. -/
theorem Books.Numbered.change {clock : Clock} {books : Books}
    {operation : Operation} {posting : Posting} (numbered : books.Numbered)
    (change : Change books.accounts.find? operation posting) :
    (posting.write clock books).Numbered := by
  cases posting with
  | opened account =>
    apply Register.Every.insert numbered
    cases change
    exact Journal.holds_nil _
  | closed id account => exact Register.Every.erase numbered id
  | amended id kind balance outcome =>
    refine (Register.every_map_iff
      _ (Register.only_id id (Posting.amend_id kind balance))).2 ?_
    intro other account found
    have history_eq :
        (Register.only id (Posting.amend kind balance) account).history =
        account.history := by
      unfold Register.only
      split <;> rfl
    rw [history_eq]
    exact numbered other account found
  | moved balances transaction status =>
    refine (Register.every_map_iff _ (Posting.settle_id _ _)).2 ?_
    intro other account found
    have holds := numbered other account found
    unfold Posting.settle Posting.attachIf
    split
    · exact holds.push_commit _ transaction status
    · exact holds.commit _ transaction status

/-- Histories point into the journal after every operation. -/
theorem Books.Numbered.performs {clock : Clock} {books books' : Books}
    {operation : Operation}
    {answer : Except Fault Outcome} (numbered : books.Numbered)
    (performs : Performs clock books operation answer books') :
    books'.Numbered :=
  performs.induction (fun before change => before.change change) numbered

/-- In every reachable state all histories point into the journal. -/
theorem Bookkeeping.Reachable.numbered {β : Type} [Bookkeeping β]
    [Lawful β] {ledger : β}
    (reached : Reachable ledger) : (books ledger).Numbered := by
  apply reached.books_induction
  · exact Register.every_empty _
  · intro clock books operation posting numbered change
    exact numbered.change change

/-! ## Journals only grow -/

namespace Journal

variable {journal later last : Journal} {numbers : Array Nat}

/-- Whether a later journal still has every record under its number. -/
def Keeps (journal later : Journal) : Prop :=
  journal.size ≤ later.size ∧ ∀ n, 0 < n → n ≤ journal.size →
    later.get? n = journal.get? n

theorem Keeps.refl (journal : Journal) : journal.Keeps journal :=
    ⟨Nat.le_refl _, fun _ _ _ => rfl⟩

theorem Keeps.trans (first : journal.Keeps later) (second : later.Keeps last) :
    journal.Keeps last := by
  refine ⟨Nat.le_trans first.1 second.1, ?_⟩
  intro n pos le
  rw [second.2 n pos (Nat.le_trans le first.1), first.2 n pos le]

theorem keeps_commit (now : Instant) (transaction : Transaction)
    (status : Status) :
    journal.Keeps (journal.commit now transaction status).2 := by
  refine ⟨?_, fun n => get?_commit_of_le now transaction status⟩
  rw [size_commit]
  omega

/-- The same numbers stand for the same records later. -/
theorem Keeps.select (keeps : journal.Keeps later)
    (holds : journal.Holds numbers) :
    later.select numbers = journal.select numbers := by
  apply List.filterMap_congr
  intro n mem
  have bounds := holds n mem
  exact keeps.2 n bounds.1 bounds.2

end Journal

/-- An operation leaves all records where they are. -/
theorem Performs.keeps {clock : Clock} {books books' : Books}
    {operation : Operation} {answer : Except Fault Outcome}
    (performs : Performs clock books operation answer books') :
    books.journal.Keeps books'.journal := by
  refine performs.induction
    (motive := fun reached => books.journal.Keeps reached.journal) ?_
    (Journal.Keeps.refl _)
  intro reached _ posting before _
  refine before.trans ?_
  cases posting with
  | moved balances transaction status =>
    exact Journal.keeps_commit _ transaction status
  | opened | closed | amended => exact Journal.Keeps.refl _

/-- The history of an account that is handed out points into the journal. -/
theorem Performs.holds_of_closed {clock : Clock} {books books' : Books}
    {operation : Operation} {answer : Except Fault Outcome}
    (performs : Performs clock books operation answer books')
    (numbered : books.Numbered) {account : Account}
    (closed : answer = .ok (.closed account)) :
    books.journal.Holds account.history := by
  cases performs with
  | refused fault => cases closed
  | creditedAll credits => cases closed
  | posted change =>
    cases change with
    | closed found =>
      cases closed
      exact numbered _ _ found
    | _ => cases closed

end Passbook
