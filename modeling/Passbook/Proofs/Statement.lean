import Passbook.Proofs.History
import Passbook.Proofs.Picture
import Passbook.Run

/-!
# What a statement says

At the end of a run there is a statement. Numbers and times of records and
entries are not compared: statements agree if they list the same accounts with
as many records each, if their records and entries say the same in whatever
order, and if the history of each account says the same in its order.

The table of accounts that is written depends on nothing else.

## Main results

* `Register.map_toList_eq` — registers that find what looks alike list what
  looks alike.
* `Report.accounts_congr` — the table of accounts depends on what the statement
  says of them.
* `Run.Statement.agrees_ofDesk` — desks with the same portraits, records and
  lines have statements that agree.
-/

namespace Passbook

/-! ## Listing a register -/

namespace Register

variable {accounts accounts' : Register}

theorem map_some_toList {α : Type} (accounts : Register) (f : Account → α) :
    (accounts.toList.map f).map some =
      (accounts.toList.map (·.id)).map
        fun id => (accounts.find? id).map f := by
  rw [List.map_map, List.map_map]
  apply List.map_congr_left
  intro account mem
  rw [Function.comp_apply, Function.comp_apply, find?_of_mem mem]
  rfl

theorem mem_ids_iff {id : AccountId} :
    id ∈ accounts.toList.map (·.id) ↔ (accounts.find? id).isSome = true := by
  rw [List.mem_map, Option.isSome_iff_exists]
  constructor
  · rintro ⟨account, mem, rfl⟩
    exact ⟨account, find?_of_mem mem⟩
  · rintro ⟨account, found⟩
    exact ⟨account, find?_mem found, find?_id found⟩

/-- Registers that find something under the same ids list the same ids. -/
theorem ids_eq (same : ∀ id,
    (accounts.find? id).isSome = (accounts'.find? id).isSome) :
    accounts.toList.map (·.id) = accounts'.toList.map (·.id) := by
  have ascending : ∀ accounts : Register,
      (accounts.toList.map (·.id)).Pairwise (· < ·) := by
    intro accounts
    rw [List.pairwise_map]
    exact accounts.ascending
  have nodup : ∀ accounts : Register, (accounts.toList.map (·.id)).Nodup := by
    intro accounts
    apply (ascending accounts).imp
    rintro a b lt rfl
    exact Nat.lt_irrefl _ lt
  have perm : (accounts.toList.map (·.id)).Perm
      (accounts'.toList.map (·.id)) := by
    apply (List.perm_ext_iff_of_nodup (nodup _) (nodup _)).2
    intro id
    rw [mem_ids_iff, mem_ids_iff, same]
  apply perm.eq_of_pairwise _ (ascending _) (ascending _)
  intro a b _ _ lt gt
  exact absurd (Nat.lt_trans lt gt) (Nat.lt_irrefl _)

/-- Registers that find what looks alike list what looks alike. -/
theorem map_toList_eq {α : Type} {f f' : Account → α}
    (same : ∀ id, (accounts.find? id).map f = (accounts'.find? id).map f') :
    accounts.toList.map f = accounts'.toList.map f' := by
  have found_same : ∀ id,
      (accounts.find? id).isSome = (accounts'.find? id).isSome := by
    intro id
    have mapped := congrArg Option.isSome (same id)
    rwa [Option.isSome_map, Option.isSome_map] at mapped
  have listed := map_some_toList accounts f
  rw [ids_eq found_same, funext same, ← map_some_toList] at listed
  exact List.map_injective_iff.2 (fun _ _ => Option.some.inj) listed

end Register

/-! ## Lines -/

/-- What a statement says of an account. -/
structure AccountLine where
  id : AccountId
  owner : OwnerId
  kind : AccountKind
  balance : Decimal
  /-- How many records the account has. -/
  transactions : Nat

def Account.line (account : Account) : AccountLine :=
  ⟨account.id, account.owner, account.kind, account.balance,
    account.history.size⟩

/-- A row of the table of accounts. -/
def AccountLine.row (line : AccountLine) : Option (List String) :=
  (Report.amountCell line.balance).map fun balance =>
    [line.id.text, line.owner.text, line.kind.name, balance,
      toString line.transactions]

theorem Report.accounts_eq (accounts : List Account) :
    Report.accounts accounts =
      Csv.Sheet.ofRows ["account", "owner", "kind", "balance", "transactions"]
        (((accounts.map Account.line).mergeSort fun a b => a.id ≤ b.id).map
          AccountLine.row) := by
  have sorted : (accounts.mergeSort fun a b => a.id ≤ b.id).map Account.line =
      (accounts.map Account.line).mergeSort fun a b => a.id ≤ b.id :=
    List.map_mergeSort fun _ _ _ _ => rfl
  rw [← sorted, List.map_map]
  rfl

/-- The table of accounts depends on what a statement says of them. -/
theorem Report.accounts_congr {accounts accounts' : List Account}
    (same : accounts.map Account.line = accounts'.map Account.line) :
    Report.accounts accounts = Report.accounts accounts' := by
  rw [accounts_eq, accounts_eq, same]

/-! ## Statements -/

namespace Run.Statement

/-- What the records of an account say, in the order of its history. -/
def contents (statement : Statement) (account : Account) : List Content :=
  ((Journal.mk statement.records.toArray none).select account.history).map
    Record.content

/-- Whether two statements say the same, numbers and times of records and
entries aside. -/
structure Agrees (statement statement' : Statement) : Prop where
  accounts : statement.accounts.map Account.line =
    statement'.accounts.map Account.line
  records : (statement.records.map Record.content).Perm
    (statement'.records.map Record.content)
  histories : statement.accounts.map statement.contents =
    statement'.accounts.map statement'.contents
  audit : (statement.audit.map AuditEntry.line).Perm
    (statement'.audit.map AuditEntry.line)

theorem Agrees.trans {first second third : Statement}
    (agrees : first.Agrees second) (agrees' : second.Agrees third) :
    first.Agrees third where
  accounts := agrees.accounts.trans agrees'.accounts
  records := agrees.records.trans agrees'.records
  histories := agrees.histories.trans agrees'.histories
  audit := agrees.audit.trans agrees'.audit

end Run.Statement

/-- The records of numbers that a journal holds are as many as the numbers. -/
theorem Journal.length_select {journal : Journal} {numbers : Array Nat}
    (holds : journal.Holds numbers) :
    (journal.select numbers).length = numbers.size := by
  unfold select
  rw [List.length_filterMap_eq_countP, ← Array.length_toList,
    List.countP_eq_length]
  intro n mem
  obtain ⟨positive, le⟩ := holds n mem
  rw [get?_eq_getElem? _ positive]
  unfold size at le
  rw [Array.getElem?_eq_getElem (by omega)]
  rfl

/-! ## Desks -/

/-- What the line of a portrait is. -/
def Portrait.line (portrait : Portrait) : AccountLine :=
  ⟨portrait.id, portrait.owner, portrait.kind, portrait.balance,
    portrait.records.length⟩

theorem Account.line_portrait {journal : Journal} {account : Account}
    (holds : journal.Holds account.history) :
    (account.portrait journal).line = account.line := by
  unfold portrait Portrait.line line
  rw [List.length_map, Journal.length_select holds]

namespace Desk

variable {β β' : Type} [Bookkeeping β] [Bookkeeping β']

/-- What the open accounts of a desk look like, in ascending order of ids. -/
def portraits (desk : Desk β) : List Portrait :=
  (Bookkeeping.accounts desk.books).toList.map
    (Account.portrait (Bookkeeping.journal desk.books))

theorem line_portraits {desk : Desk β}
    (numbered : (Bookkeeping.books desk.books).Numbered) :
    desk.portraits.map Portrait.line =
      (Run.Statement.ofDesk desk).accounts.map Account.line := by
  unfold portraits
  rw [List.map_map]
  apply List.map_congr_left
  intro account mem
  exact Account.line_portrait (numbered account.id account
    (Register.find?_of_mem mem))

theorem records_portraits (desk : Desk β) :
    desk.portraits.map Portrait.records =
      (Run.Statement.ofDesk desk).accounts.map
        (Run.Statement.ofDesk desk).contents := by
  unfold portraits
  rw [List.map_map]
  rfl

end Desk

/-- Desks whose accounts look alike, and whose records and entries say the same
in whatever order, have statements that agree. -/
theorem Run.Statement.agrees_ofDesk {β β' : Type} [Bookkeeping β]
    [Bookkeeping β'] {desk : Desk β} {desk' : Desk β'}
    (numbered : (Bookkeeping.books desk.books).Numbered)
    (numbered' : (Bookkeeping.books desk'.books).Numbered)
    (portraits : desk.portraits = desk'.portraits)
    (records :
      ((Bookkeeping.journal desk.books).records.toList.map Record.content).Perm
        ((Bookkeeping.journal desk'.books).records.toList.map Record.content))
    (lines : (desk.trail.entries.toList.map AuditEntry.line).Perm
      (desk'.trail.entries.toList.map AuditEntry.line)) :
    (ofDesk desk).Agrees (ofDesk desk') where
  accounts := by
    rw [← Desk.line_portraits numbered, ← Desk.line_portraits numbered',
      portraits]
  records := records
  histories := by
    rw [← Desk.records_portraits, ← Desk.records_portraits, portraits]
  audit := lines

end Passbook
