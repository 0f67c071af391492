import Passbook.Account

/-!
# The register of open accounts

The open accounts, at most one per id, in ascending order of their ids. A
register is determined by what it finds under each id.

## Main results

* `find?_insert`, `find?_erase` — what is found after a change.
* `ext_find?` — two registers that find the same are the same.
-/

namespace Passbook

/-- Open accounts in ascending order of their ids. -/
structure Register where
  toList : List Account
  ascending : toList.Pairwise fun a b => a.id < b.id

namespace Register

/-- No open accounts. -/
def empty : Register := ⟨[], .nil⟩

instance : Inhabited Register := ⟨empty⟩

instance : DecidableEq Register := fun a b =>
  decidable_of_iff (a.toList = b.toList) (by cases a; cases b; simp)

/-- How many accounts are open. -/
def size (register : Register) : Nat := register.toList.length

/-- The account with this id. -/
def find? (register : Register) (id : AccountId) : Option Account :=
  register.toList.find? (·.id = id)

/-- The owner of the account with this id. -/
def ownerOf? (register : Register) (id : AccountId) : Option OwnerId :=
  (register.find? id).map (·.owner)

/-- Puts an account in its place, instead of one with the same id if there is
one. -/
def insertInto (account : Account) : List Account → List Account
  | [] => [account]
  | other :: rest =>
    if account.id < other.id then account :: other :: rest
    else if account.id = other.id then account :: rest
    else other :: insertInto account rest

theorem mem_insertInto {account b : Account} {accounts : List Account}
    (h : b ∈ insertInto account accounts) : b = account ∨ b ∈ accounts := by
  induction accounts with
  | nil => simpa [insertInto] using h
  | cons other rest ih =>
    unfold insertInto at h
    split at h
    · simpa using h
    · split at h
      · rcases List.mem_cons.1 h with rfl | h
        · exact .inl rfl
        · exact .inr (List.mem_cons_of_mem _ h)
      · rcases List.mem_cons.1 h with rfl | h
        · exact .inr List.mem_cons_self
        · exact (ih h).imp_right (List.mem_cons_of_mem _)

theorem pairwise_insertInto {accounts : List Account} (account : Account)
    (h : accounts.Pairwise fun a b => a.id < b.id) :
    (insertInto account accounts).Pairwise fun a b => a.id < b.id := by
  induction accounts with
  | nil => simp [insertInto]
  | cons other rest ih =>
    have ⟨other_lt, rest_ascending⟩ := List.pairwise_cons.1 h
    unfold insertInto
    split
    case isTrue lt =>
      refine List.pairwise_cons.2 ⟨fun b hb => ?_, h⟩
      rcases List.mem_cons.1 hb with rfl | hb
      · exact lt
      · exact Nat.lt_trans lt (other_lt b hb)
    case isFalse not_lt =>
      split
      case isTrue same =>
        exact List.pairwise_cons.2
          ⟨fun b hb => same ▸ other_lt b hb, rest_ascending⟩
      case isFalse not_same =>
        refine List.pairwise_cons.2 ⟨fun b hb => ?_, ih rest_ascending⟩
        rcases mem_insertInto hb with rfl | hb
        · have ne : other.id.number ≠ b.id.number := fun eq =>
            not_same (AccountId.ext_number eq.symm)
          rw [AccountId.lt_iff] at not_lt ⊢
          omega
        · exact other_lt b hb

/-- Puts an account under its id. -/
def insert (register : Register) (account : Account) : Register :=
  ⟨insertInto account register.toList,
    pairwise_insertInto account register.ascending⟩

/-- Takes the account with this id out. -/
def erase (register : Register) (id : AccountId) : Register :=
  ⟨register.toList.filter (·.id ≠ id), register.ascending.filter _⟩

/-- The accounts of one owner. -/
def ownedBy (register : Register) (owner : OwnerId) : List Account :=
  register.toList.filter (·.owner = owner)

/-- The ids of the savings accounts, ascending. -/
def savingsIds (register : Register) : List AccountId :=
  register.toList.filterMap fun account =>
    match account.kind with
    | .savings _ => some account.id
    | .checking _ => none

/-- The sum of all balances, in ascending order of ids, if it is within
range. -/
def total? (register : Register) : Option Decimal :=
  Decimal.sum? (register.toList.map (·.balance))

/-! ## What is found -/

theorem find?_insertInto (account : Account) (accounts : List Account)
    (h : accounts.Pairwise fun a b => a.id < b.id) (id : AccountId) :
    (insertInto account accounts).find? (·.id = id) =
      if account.id = id then some account else accounts.find? (·.id = id) := by
  induction accounts with
  | nil => by_cases same : account.id = id <;> simp [insertInto, same]
  | cons other rest ih =>
    have ⟨other_lt, rest_ascending⟩ := List.pairwise_cons.1 h
    unfold insertInto
    split
    case isTrue lt => by_cases same :
        account.id = id <;> simp [List.find?_cons, same]
    case isFalse not_lt =>
      split
      case isTrue same_id =>
        by_cases same : account.id = id
        · simp [same]
        · simp [same, ← same_id]
      case isFalse not_same =>
        rw [List.find?_cons, List.find?_cons, ih rest_ascending]
        by_cases here : other.id = id
        · simp [here,
            show account.id ≠ id from fun eq => not_same (eq.trans here.symm)]
        · simp [here]

theorem find?_insert (register : Register) (account : Account)
    (id : AccountId) :
    (register.insert account).find? id =
      if account.id = id then some account else register.find? id :=
  find?_insertInto account register.toList register.ascending id

theorem find?_insert_of_ne {register : Register} {account : Account}
    {id : AccountId} (h : account.id ≠ id) :
    (register.insert account).find? id = register.find? id := by
  simp [find?_insert, h]

theorem find?_erase (register : Register) (id other : AccountId) :
    (register.erase id).find? other = if other = id then
      none else register.find? other := by
  unfold erase find?
  rw [List.find?_filter]
  by_cases same : other = id
  · subst same
    simp
  · rw [if_neg same]
    congr 1
    funext account
    by_cases here : account.id = other
    · simp [here, same]
    · simp [here]

theorem find?_mem {register : Register} {id : AccountId} {account : Account}
    (h : register.find? id = some account) : account ∈ register.toList :=
  List.mem_of_find?_eq_some h

theorem find?_id {register : Register} {id : AccountId} {account : Account}
    (h : register.find? id = some account) : account.id = id := by
  simpa using List.find?_some h

theorem find?_of_mem {register : Register} {account : Account}
    (h : account ∈ register.toList) :
    register.find? account.id = some account := by
  have ascending := register.ascending
  unfold find?
  generalize register.toList = accounts at h ascending
  induction accounts with
  | nil => simp at h
  | cons other rest ih =>
    have ⟨other_lt, rest_ascending⟩ := List.pairwise_cons.1 ascending
    rcases List.mem_cons.1 h with rfl | h
    · simp
    · have lt := other_lt account h
      have ne : other.id ≠ account.id := fun eq => by
        rw [eq, AccountId.lt_iff] at lt; omega
      simp [ne, ih h rest_ascending]

/-- A register is what it finds. -/
theorem ext_find? {a b : Register} (h : ∀ id, a.find? id = b.find? id) :
    a = b := by
  have same_mem : ∀ account, account ∈ a.toList ↔ account ∈ b.toList :=
    fun account =>
    ⟨fun mem => find?_mem ((h account.id).symm.trans (find?_of_mem mem)),
      fun mem => find?_mem ((h account.id).trans (find?_of_mem mem))⟩
  have same_list : ∀ {xs ys : List Account},
      (xs.Pairwise fun a b => a.id < b.id) →
        (ys.Pairwise fun a b => a.id < b.id) →
      (∀ account, account ∈ xs ↔ account ∈ ys) → xs = ys := by
    intro xs
    induction xs with
    | nil =>
      intro ys _ _ same
      cases ys with
      | nil => rfl
      | cons y ys => exact absurd ((same y).2 List.mem_cons_self) (by simp)
    | cons x xs ih =>
      intro ys hx hy same
      cases ys with
      | nil => exact absurd ((same x).1 List.mem_cons_self) (by simp)
      | cons y ys =>
        have ⟨x_lt, hxs⟩ := List.pairwise_cons.1 hx
        have ⟨y_lt, hys⟩ := List.pairwise_cons.1 hy
        have irrefl : ∀ id : AccountId, ¬ id < id := fun id => Nat.lt_irrefl _
        have head : x = y := by
          rcases List.mem_cons.1 ((same x).1 List.mem_cons_self) with eq | x_mem
          · exact eq
          · rcases List.mem_cons.1
              ((same y).2 List.mem_cons_self) with eq | y_mem
            · exact eq.symm
            · exact absurd (Nat.lt_trans (x_lt y y_mem) (y_lt x x_mem))
                (irrefl x.id)
        subst head
        congr 1
        refine ih hxs hys fun account => ⟨fun mem => ?_, fun mem => ?_⟩
        · rcases List.mem_cons.1
            ((same account).1 (List.mem_cons_of_mem _ mem)) with rfl | mem'
          · exact absurd (x_lt _ mem) (irrefl _)
          · exact mem'
        · rcases List.mem_cons.1
            ((same account).2 (List.mem_cons_of_mem _ mem)) with rfl | mem'
          · exact absurd (y_lt _ mem) (irrefl _)
          · exact mem'
  have lists := same_list a.ascending b.ascending same_mem
  cases a; cases b
  simpa using lists

end Register

end Passbook
