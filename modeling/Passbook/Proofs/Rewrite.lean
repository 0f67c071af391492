import Passbook.Register

/-!
# Rewriting the accounts of a register in place

Most operations change open accounts where they stand: a balance, a kind, one
more record. All of them at once are a function on accounts that keeps every id.
The register is then determined by what it finds, so an account put back under
its own id, and a list of accounts put back one after the other, are both such a
rewriting.

## Main results

* `find?_map` — what is found after rewriting.
* `insert_eq_map` — putting a changed account back is rewriting that account.
* `Every.insert`, `Every.erase`, `every_map_iff` — what holds of all accounts
  after a change.
-/

namespace Passbook.Register

/-- Every account rewritten by a function that keeps the ids. -/
def map (register : Register) (f : Account → Account)
    (keeps : ∀ a, (f a).id = a.id) : Register where
  toList := register.toList.map f
  ascending := by
    rw [List.pairwise_map]
    exact register.ascending.imp fun {a b} lt => by
      rw [keeps a, keeps b]; exact lt

theorem find?_map (register : Register) (f : Account → Account)
    (keeps : ∀ a, (f a).id = a.id)
    (id : AccountId) : (register.map f keeps).find? id =
      (register.find? id).map f := by
  unfold map find?
  rw [List.find?_map]
  congr 2
  funext a
  simp [keeps]

/-- Two rewritings that agree on the open accounts give the same register. -/
theorem map_congr {register : Register} {f g : Account → Account}
    {hf : ∀ a, (f a).id = a.id} {hg : ∀ a, (g a).id = a.id}
    (h : ∀ id a, register.find? id = some a → f a = g a) :
    register.map f hf = register.map g hg := by
  apply ext_find?
  intro id
  rw [find?_map, find?_map]
  cases found : register.find? id with
  | none => rfl
  | some a => rw [Option.map_some, Option.map_some, h id a found]

theorem map_map (register : Register) {f g : Account → Account}
    (hf : ∀ a, (f a).id = a.id) (hg : ∀ a, (g a).id = a.id) :
    (register.map f hf).map g hg = register.map (fun a => g (f a)) fun a =>
      (hg (f a)).trans (hf a) := by
  apply ext_find?
  intro id
  rw [find?_map, find?_map, find?_map, Option.map_map]
  rfl

/-- The function that rewrites one account only. -/
def only (id : AccountId) (f : Account → Account) (a : Account) : Account :=
  if a.id = id then f a else a

theorem only_id (id : AccountId) {f : Account → Account}
    (keeps : ∀ a, (f a).id = a.id) (a : Account) : (only id f a).id = a.id := by
  unfold only
  split
  · exact keeps a
  · rfl

/-- Putting an account that was changed back under its id is rewriting it in
place. -/
theorem insert_eq_map {register : Register} {id : AccountId} {a : Account}
    {f : Account → Account}
    (keeps : ∀ a, (f a).id = a.id) (found : register.find? id = some a) :
    register.insert (f a) = register.map (only id f) (only_id id keeps) := by
  have a_id : a.id = id := find?_id found
  apply ext_find?
  intro other
  rw [find?_insert, find?_map, keeps, a_id]
  by_cases same : id = other
  · subst same
    rw [if_pos rfl, found, Option.map_some, only, if_pos a_id]
  · rw [if_neg same]
    cases other_found : register.find? other with
    | none => rfl
    | some b =>
      have b_id : b.id = other := find?_id other_found
      have ne : b.id ≠ id := fun eq => same (eq.symm.trans b_id)
      rw [Option.map_some, only, if_neg ne]

/-- Putting an account back as it was changes nothing. -/
theorem insert_self {register : Register} {id : AccountId} {a : Account}
    (found : register.find? id = some a) : register.insert a = register := by
  apply ext_find?
  intro other
  rw [find?_insert, find?_id found]
  by_cases same : id = other
  · rw [if_pos same, ← same, found]
  · rw [if_neg same]

/-! ## What holds of all open accounts -/

/-- Whether all open accounts have a property. -/
def Every (P : Account → Prop) (register : Register) : Prop :=
  ∀ id a, register.find? id = some a → P a

variable {P Q : Account → Prop} {register : Register}

theorem every_empty (P : Account → Prop) : Every P empty := by
  intro id a found
  cases found

theorem Every.insert (every : Every P register) {a : Account} (holds : P a) :
    Every P (register.insert a) := by
  intro id other found
  rw [find?_insert] at found
  by_cases same : a.id = id
  · rw [if_pos same] at found
    cases found
    exact holds
  · rw [if_neg same] at found
    exact every id other found

theorem Every.erase (every : Every P register) (closed : AccountId) :
    Every P (register.erase closed) := by
  intro id other found
  rw [find?_erase] at found
  by_cases same : id = closed
  · rw [if_pos same] at found
    cases found
  · rw [if_neg same] at found
    exact every id other found

theorem every_map_iff (f : Account → Account) (keeps : ∀ a, (f a).id = a.id) :
    Every P (register.map f keeps) ↔ Every (fun a => P (f a)) register := by
  constructor
  · intro every id a found
    apply every id (f a)
    rw [find?_map, found, Option.map_some]
  · intro every id a found
    rw [find?_map, Option.map_eq_some_iff] at found
    obtain ⟨before, before_found, rfl⟩ := found
    exact every id before before_found

/-- A rewriting of one account matters only to that account. -/
theorem Every.map_only (every : Every P register) {id : AccountId}
    {f : Account → Account} (keeps : ∀ a, (f a).id = a.id) {account : Account}
    (found : register.find? id = some account) (holds : P (f account)) :
    Every P (register.map (only id f) (only_id id keeps)) := by
  rw [every_map_iff]
  intro other a a_found
  have a_id : a.id = other := find?_id a_found
  unfold only
  by_cases same : a.id = id
  · have eq : a = account := by
      rw [← a_id, same, found] at a_found
      exact (Option.some.inj a_found).symm
    rw [if_pos same, eq]
    exact holds
  · rw [if_neg same]
    exact every other a a_found

end Passbook.Register
