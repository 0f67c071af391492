import Passbook.Proofs.Decimal.Fixed
import Passbook.Proofs.Denomination
import Passbook.Report

/-!
# What the table of accounts says

The table has a row for each account, in ascending order of ids whatever order
they come in, and no field of it needs quotation marks. A balance is money, so
the four places that are written are all that it needs, and what is read back is
the balance.

That is if there is a table. A balance of 28 digits before the point is too wide
for its column, and then the whole run ends without one.

## Main results

* `Report.exists_tells` — if there is room for all balances, there is an exact
  table.
* `accountsTable_iff` — in every reachable state there is an exact table exactly
  if there is room for all balances.
* `not_accountsTable` — there need not be a table.
-/

namespace Passbook

/-! ## Fields without quotation marks -/

namespace Csv

/-- Whether no character of a field needs quotation marks. -/
def IsPlain (field : String) : Prop := field.toList.any needsQuotes = false

/-- Fields with commas between them and a line feed behind. -/
def plainRow (fields : List String) : List Char :=
  [','].intercalate (fields.map String.toList) ++ ['\n']

theorem fieldChars_of_plain {field : String} (plain : IsPlain field) :
    fieldChars field.toList = field.toList := by
  rw [fieldChars, plain, if_neg Bool.false_ne_true]

theorem rowChars_of_plain {fields : List String}
    (plain : ∀ field ∈ fields, IsPlain field) :
    rowChars fields = plainRow fields := by
  have same : fields.map (fun field => fieldChars field.toList) =
      fields.map String.toList :=
    List.map_congr_left fun field mem => fieldChars_of_plain (plain field mem)
  rw [rowChars, same]
  rfl

theorem sheetChars_map_some {α : Type} (items : List α)
    (row : α → List String) :
    sheetChars (items.map fun item => some (row item)) =
      (items.flatMap fun item => rowChars (row item), true) := by
  induction items with
  | nil => rfl
  | cons item rest ih => rw [List.map_cons, sheetChars, ih, List.flatMap_cons]

/-- A sheet is complete exactly if every row can be written. -/
theorem complete_sheetChars_iff (rows : List (Option (List String))) :
    (sheetChars rows).2 = true ↔ none ∉ rows := by
  induction rows with
  | nil => exact iff_of_true rfl nofun
  | cons row rest ih =>
    cases row with
    | none => exact iff_of_false nofun (not_not_intro List.mem_cons_self)
    | some fields =>
      rw [sheetChars, List.mem_cons, ih]
      simp

theorem needsQuotes_of_isDigit {c : Char} (digit : c.isDigit = true) :
    needsQuotes c = false := by
  unfold needsQuotes
  simp only [Bool.or_eq_false_iff, beq_eq_false_iff_ne]
  refine ⟨⟨⟨?_, ?_⟩, ?_⟩, ?_⟩
  all_goals
    rintro rfl
    cases digit

theorem any_needsQuotes_of_forall {cs : List Char}
    (none_needs : ∀ c ∈ cs, needsQuotes c = false) :
    cs.any needsQuotes = false := by
  rw [List.any_eq_false]
  intro c mem
  rw [none_needs c mem]
  exact Bool.false_ne_true

theorem any_needsQuotes_toDigits (n : Nat) :
    (Nat.toDigits 10 n).any needsQuotes = false :=
  any_needsQuotes_of_forall fun _ mem => needsQuotes_of_isDigit
    (Nat.isDigit_of_mem_toDigits (by decide) (by decide) mem)

theorem any_needsQuotes_zeroPadded (width n : Nat) :
    (Text.zeroPadded width n).any needsQuotes = false := by
  have zeros (z : Nat) : (List.replicate z '0').any needsQuotes = false :=
    any_needsQuotes_of_forall fun _ mem => List.eq_of_mem_replicate mem ▸ rfl
  rw [Text.zeroPadded, List.any_append, zeros, any_needsQuotes_toDigits]
  rfl

theorem isPlain_toString (n : Nat) : IsPlain (toString n) := by
  rw [Nat.toString_eq_ofList_toDigits, IsPlain, String.toList_ofList]
  exact any_needsQuotes_toDigits n

end Csv

open Csv

theorem AccountId.isPlain_text (id : AccountId) : IsPlain id.text := by
  rw [AccountId.text, IsPlain, String.toList_ofList, List.any_append,
    any_needsQuotes_zeroPadded]
  rfl

theorem OwnerId.isPlain_text (owner : OwnerId) : IsPlain owner.text := by
  rw [OwnerId.text, IsPlain, String.toList_ofList, List.any_cons,
    any_needsQuotes_zeroPadded]
  rfl

theorem AccountKind.isPlain_name (kind : AccountKind) : IsPlain kind.name := by
  unfold IsPlain
  cases kind with
  | savings =>
    show "non_overdraft".toList.any needsQuotes = false
    decide
  | checking =>
    show "overdraft".toList.any needsQuotes = false
    decide

theorem Decimal.isPlain_of_fixed? {d : Decimal} {p : Nat} {text : String}
    (written : d.fixed? p = some text) : IsPlain text := by
  obtain ⟨numeral, rfl, -⟩ := exists_numeral_of_fixed? written
  rw [Numeral.text, IsPlain, String.toList_ofList]
  exact any_needsQuotes_of_forall (Numeral.forall_mem_chars
    (P := fun c => needsQuotes c = false) (by decide) rfl rfl rfl numeral)

/-! ## The table -/

namespace Report

/-- What the table says of an account whose balance is written like this. The
last field is how many records the account has. -/
def accountFields (account : Account) (balance : String) : List String :=
  [account.id.text, account.owner.text, account.kind.name, balance,
    toString account.history.size]

/--
Whether a text is an exact table of some accounts: it is a header and a row for
each account, in strictly ascending order of ids, and what is read of the
balance in it is worth the balance.
-/
def Tells (listed : List Account) (text : String) : Prop :=
  ∃ rows : List (Account × String),
    (rows.map Prod.fst).Perm listed ∧
    rows.Pairwise (fun row later => row.1.id < later.1.id) ∧
    (∀ row ∈ rows, ∃ read, Decimal.ofText? row.2 = some read ∧
      read.value = row.1.balance.value) ∧
    text.toList = "account,owner,kind,balance,transactions\n".toList ++
      rows.flatMap fun row => plainRow (accountFields row.1 row.2)

/-- The accounts in the order of the table. -/
def inOrder (listed : List Account) : List Account :=
  listed.mergeSort fun a b => a.id ≤ b.id

/-- The row of an account, if its balance can be written. -/
def accountRow (account : Account) : Option (List String) :=
  (amountCell account.balance).map (accountFields account)

theorem accounts_eq_ofRows (listed : List Account) :
    accounts listed =
      Sheet.ofRows ["account", "owner", "kind", "balance", "transactions"]
        ((inOrder listed).map accountRow) := rfl

section

variable {register : Register} {listed : List Account}

/-- However the accounts of a register are listed, the table has them in
strictly ascending order of ids. -/
theorem ascending_inOrder (lists : listed.Perm register.toList) :
    (inOrder listed).Pairwise fun a b => a.id < b.id := by
  have transitive : ∀ a b c : Account, decide (a.id ≤ b.id) = true →
      decide (b.id ≤ c.id) = true → decide (a.id ≤ c.id) = true := by
    intro a b c first second
    exact decide_eq_true
      (Nat.le_trans (of_decide_eq_true first) (of_decide_eq_true second))
  have total : ∀ a b : Account,
      (decide (a.id ≤ b.id) || decide (b.id ≤ a.id)) = true := by
    intro a b
    rw [Bool.or_eq_true, decide_eq_true_eq, decide_eq_true_eq]
    exact Nat.le_total a.id.number b.id.number
  have sorted := List.pairwise_mergeSort transitive total listed
  -- sorting leaves equal ids next to each other, but a register has none
  have distinct : (inOrder listed).Pairwise fun a b => a.id ≠ b.id := by
    apply (((List.mergeSort_perm listed _).trans lists).pairwise_iff
      (fun ne => ne.symm)).2
    apply register.ascending.imp
    rintro a b lt same
    rw [same] at lt
    exact Nat.lt_irrefl _ lt
  apply (sorted.and distinct).imp
  rintro a b ⟨le, ne⟩
  exact Nat.lt_of_le_of_ne (of_decide_eq_true le) fun same =>
    ne (AccountId.ext_number same)

theorem isPlain_accountFields (account : Account) {text : String}
    (plain : IsPlain text) :
    ∀ field ∈ accountFields account text, IsPlain field := by
  unfold accountFields
  simp only [List.forall_mem_cons]
  exact ⟨account.id.isPlain_text, account.owner.isPlain_text,
    account.kind.isPlain_name, plain, isPlain_toString _, nofun⟩

/-- Rows whose balances can be written are all written, without quotation
marks. -/
theorem accounts_eq_of_written {cell : Account → String}
    (written : ∀ account ∈ inOrder listed,
      amountCell account.balance = some (cell account)) :
    accounts listed =
      ⟨String.ofList ("account,owner,kind,balance,transactions\n".toList ++
        (inOrder listed).flatMap fun account =>
          plainRow (accountFields account (cell account))), true⟩ := by
  have rows_eq : (inOrder listed).map accountRow =
      (inOrder listed).map fun account =>
        some (accountFields account (cell account)) := by
    apply List.map_congr_left
    intro account mem
    rw [accountRow, written account mem, Option.map_some]
  have plain_rows : (inOrder listed).flatMap
        (fun account => rowChars (accountFields account (cell account))) =
      (inOrder listed).flatMap
        fun account => plainRow (accountFields account (cell account)) := by
    rw [List.flatMap_def, List.flatMap_def]
    refine congrArg List.flatten (List.map_congr_left fun account mem => ?_)
    exact rowChars_of_plain (isPlain_accountFields account
      (Decimal.isPlain_of_fixed? (written account mem)))
  have header :
      rowChars ["account", "owner", "kind", "balance", "transactions"] =
        "account,owner,kind,balance,transactions\n".toList := by decide
  rw [accounts_eq_ofRows, Sheet.ofRows, rows_eq, sheetChars,
    sheetChars_map_some, plain_rows, header]

/-- If there is room for all balances, there is an exact table. -/
theorem exists_tells (lists : listed.Perm register.toList)
    (money : ∀ account ∈ listed, account.balance.IsMoney)
    (room : ∀ account ∈ listed, account.balance.FitsColumn moneyPlaces) :
    ∃ text, deliver none (accounts listed) = .ok text ∧ Tells listed text := by
  -- with room for all balances the default is never used
  let cell (account : Account) := (amountCell account.balance).getD ""
  have perm : (inOrder listed).Perm listed := List.mergeSort_perm listed _
  have written : ∀ account ∈ inOrder listed,
      amountCell account.balance = some (cell account) := by
    intro account mem
    obtain ⟨text, written⟩ := (Decimal.exists_fixed?_iff (by decide)).2
      (room account (perm.mem_iff.1 mem))
    show amountCell account.balance = some ((amountCell _).getD "")
    rw [amountCell, written, Option.getD_some]
  have table := accounts_eq_of_written written
  refine ⟨(accounts listed).text, deliver_unlimited (by rw [table]),
    (inOrder listed).map fun account => (account, cell account), ?_, ?_, ?_, ?_⟩
  · rw [List.map_map]
    exact (List.map_id _).symm ▸ perm
  · rw [List.pairwise_map]
    exact ascending_inOrder lists
  · rw [List.forall_mem_map]
    intro account mem
    exact Decimal.exists_ofText?_of_fixed?
      (Decimal.isMoney_iff_onGrid.1 (money account (perm.mem_iff.1 mem)))
      (written account mem)
  · rw [table, List.flatMap_map]
    exact String.toList_ofList

/-- There is no table if a balance is too wide. -/
theorem fitsColumn_of_deliver {text : String}
    (delivered : deliver none (accounts listed) = .ok text) :
    ∀ account ∈ listed, account.balance.FitsColumn moneyPlaces := by
  have complete : (accounts listed).complete = true := by
    unfold deliver at delivered
    simp only [Option.any_none, Bool.false_eq_true, if_false] at delivered
    split at delivered
    case isTrue complete => exact complete
    case isFalse => cases delivered
  have no_gap : none ∉ some ["account", "owner", "kind", "balance",
      "transactions"] :: (inOrder listed).map accountRow :=
    (complete_sheetChars_iff _).1 complete
  intro account mem
  apply (Decimal.exists_fixed?_iff (by decide)).1
  cases written : account.balance.fixed? moneyPlaces with
  | some cell => exact ⟨cell, rfl⟩
  | none =>
    have gap : accountRow account = none := by
      rw [accountRow, amountCell, written, Option.map_none]
    have listed_too : account ∈ inOrder listed :=
      (List.mergeSort_perm listed _).mem_iff.2 mem
    exact absurd (List.mem_cons_of_mem _
      (List.mem_map.2 ⟨account, listed_too, gap⟩)) no_gap

end

end Report

/-! ## Ledgers -/

namespace Bookkeeping

open Report

/-- In every reachable state there is an exact table exactly if there is room
for all balances, in whatever order the accounts come. -/
theorem Reachable.exists_tells_iff {β : Type} [Bookkeeping β] [Lawful β]
    {ledger : β} (reached : Reachable ledger) {listed : List Account}
    (lists : listed.Perm (accounts ledger).toList) :
    (∃ text, deliver none (Report.accounts listed) = .ok text ∧
      Tells listed text) ↔
      ∀ account ∈ listed, account.balance.FitsColumn moneyPlaces := by
  constructor
  · rintro ⟨text, delivered, -⟩
    exact fitsColumn_of_deliver delivered
  · apply exists_tells lists
    intro account mem
    exact reached.denominated.balances account.id account
      (Register.find?_of_mem (lists.mem_iff.1 mem))

end Bookkeeping

open Report

/-- Whatever was done to either ledger, and in whatever order its accounts are
listed, there is an exact table of them exactly if there is room for all
balances. -/
theorem accountsTable_iff (listed : List Account) :
    (∀ ledger : Ledger, Bookkeeping.Reachable ledger →
      listed.Perm ledger.accounts.toList →
        ((∃ text, deliver none (accounts listed) = .ok text ∧
          Tells listed text) ↔
          ∀ account ∈ listed, account.balance.FitsColumn moneyPlaces)) ∧
      ∀ ledger : SharedLedger, Bookkeeping.Reachable ledger →
        listed.Perm (Bookkeeping.accounts ledger).toList →
          ((∃ text, deliver none (accounts listed) = .ok text ∧
            Tells listed text) ↔
            ∀ account ∈ listed, account.balance.FitsColumn moneyPlaces) :=
  ⟨fun _ reached lists => reached.exists_tells_iff lists,
    fun _ reached lists => reached.exists_tells_iff lists⟩

/-- A run after which one account is overdrawn, and another has an amount in
it. -/
def paying (first second : AccountId) (owner : OwnerId) (amount : Decimal) :
    List Operation :=
  [.openAccount (some first) owner (.checking .one),
    .withdraw first .one,
    .openAccount (some second) owner (.savings .zero),
    .deposit second amount]

/-- There is room for 27 digits before the point, and the accounts may come in
reverse. -/
theorem accountsTable_iff_paying :
    let nines : Decimal := ⟨false, 9999999999999999999999999999, 1,
      by decide, by decide⟩
    let operations := paying ⟨1, by decide⟩ ⟨2, by decide⟩ ⟨1, by decide⟩ nines
    let ledger := Bookkeeping.after (.still default) Ledger.empty operations
    let shared := Bookkeeping.after (.still default) SharedLedger.empty
      operations
    (∃ text,
      deliver none (accounts ledger.accounts.toList.reverse) = .ok text ∧
        Tells ledger.accounts.toList.reverse text) ∧
      ∃ text,
        deliver none (accounts (Bookkeeping.accounts shared).toList) =
          .ok text ∧ Tells (Bookkeeping.accounts shared).toList text :=
  ⟨((accountsTable_iff _).1 _
      (Bookkeeping.Reachable.empty.after (.still default) _)
      (List.reverse_perm _)).2 (by decide),
    ((accountsTable_iff _).2 _
      (Bookkeeping.Reachable.empty.after (.still default) _)
      (.refl _)).2 (by decide)⟩

/-- There is no room for 28. -/
theorem not_accountsTable :
    ¬ ∀ ledger : Ledger, Bookkeeping.Reachable ledger →
      ∀ listed : List Account, listed.Perm ledger.accounts.toList →
        ∃ text, deliver none (accounts listed) = .ok text ∧
          Tells listed text := by
  intro always
  let wide : Decimal := ⟨false, 1000000000000000000000000000, 0, by decide,
    Decimal.no_places_le⟩
  have reached := Bookkeeping.Reachable.empty.after (β := Ledger)
    (.still default) (paying ⟨1, by decide⟩ ⟨2, by decide⟩ ⟨1, by decide⟩ wide)
  obtain ⟨text, delivered, -⟩ := always _ reached _ (.refl _)
  have room := fitsColumn_of_deliver delivered
  exact absurd room (by decide)

end Passbook
