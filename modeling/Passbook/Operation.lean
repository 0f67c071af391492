import Passbook.Account
import Passbook.Principal
import Passbook.Record

/-!
# Operations, commands and outcomes

An `Operation` is something that a bank can be asked to do, a `Command` is an
operation on behalf of a principal, and an `Outcome` is what a successful one
answers.

Every operation but two declares its *footprint*, the accounts that it reads or
writes. The two are opening an account under the next free id and crediting
interest to all: they concern the bank as a whole, and nothing may run beside
them.

## Main results

* `footprint_eq_none_iff` — which operations have no footprint.
-/

namespace Passbook

/-- Something a bank can be asked to do. -/
inductive Operation where
  /-- Opens an account, under the next free id if none is given. -/
  | openAccount (account : Option AccountId) (owner : OwnerId)
    (kind : AccountKind)
  | closeAccount (account : AccountId)
  | deposit (account : AccountId) (amount : Decimal)
  | withdraw (account : AccountId) (amount : Decimal)
  | transfer (source destination : AccountId) (amount : Decimal)
  /-- Credits interest to one account, or to all savings accounts. -/
  | creditInterest (account : Option AccountId)
  | setLimit (account : AccountId) (limit : Decimal)
deriving DecidableEq

namespace Operation

/-- The name of the operation in the audit trail. -/
def action : Operation → String
  | openAccount .. => "OPEN_ACCOUNT"
  | closeAccount _ => "CLOSE_ACCOUNT"
  | deposit .. => "DEPOSIT"
  | withdraw .. => "WITHDRAW"
  | transfer .. => "TRANSFER"
  | creditInterest _ => "APPLY_INTEREST"
  | setLimit .. => "SET_OVERDRAFT_LIMIT"

/-- Whether only an administrator may ask for it. -/
def needsAdministrator : Operation → Bool
  | openAccount .. | closeAccount _ | creditInterest _ | setLimit .. => true
  | deposit .. | withdraw .. | transfer .. => false

/-- The accounts the operation reads or writes, if it is confined to some. -/
def footprint : Operation → Option (List AccountId)
  | openAccount account _ _ | creditInterest account => account.map ([·])
  | closeAccount account | deposit account _ | withdraw account
    _ | setLimit account _ =>
    some [account]
  | transfer source destination _ => some [source, destination]

/-- The accounts of the footprint; none if the operation concerns the bank as a
whole. -/
def accounts (operation : Operation) : List AccountId :=
    operation.footprint.getD []

theorem footprint_eq_none_iff {operation : Operation} :
    operation.footprint = none ↔
    (∃ owner kind, operation = openAccount none owner kind) ∨
      operation = creditInterest none := by
  cases operation <;> simp [footprint]

/-- The operation in words. -/
def text : Operation → String
  | openAccount account owner kind =>
    let id := match account with
      | some id => id.text
      | none => "(next)"
    let parameter := match kind with
      | .savings rate => s!"at rate {rate}"
      | .checking limit => s!"with limit {limit}"
    s!"open {kind.name} account {id} for {owner} {parameter}"
  | closeAccount account => s!"close {account}"
  | deposit account amount => s!"deposit {amount} to {account}"
  | withdraw account amount => s!"withdraw {amount} from {account}"
  | transfer source destination amount =>
    s!"transfer {amount} from {source} to {destination}"
  | creditInterest (some account) => s!"apply interest to {account}"
  | creditInterest none => "apply interest to all non_overdraft accounts"
  | setLimit account limit => s!"set overdraft limit of {account} to {limit}"

instance : ToString Operation := ⟨text⟩

end Operation

/-- An operation on behalf of a principal. -/
structure Command where
  principal : Principal
  operation : Operation
deriving DecidableEq

namespace Command

/-- The principal and the operation in words. -/
def text (command : Command) : String :=
  s!"{command.principal}: {command.operation}"

end Command

/-- The answer to an operation that was carried out. -/
inductive Outcome where
  | opened (account : AccountId)
  | closed (account : Account)
  /-- A movement that was journalled, completed or failed. -/
  | recorded (record : Record)
  | credited (records : List Record)
  | limited (account : AccountId) (limit : Decimal)
deriving DecidableEq

end Passbook
