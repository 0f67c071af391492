import Passbook.Operation

/-!
# Who may do what

An administrator may do everything. The holder of an account may pay into, take
out of, and transfer from the accounts that are in the holder's name; nobody
else may touch any. Where a transfer goes to is not asked.

The owner of each account is looked up when the question is asked, so a right
ends when an account is closed and reopened for somebody else.

## Main results

* `mayUse_holder_iff` — a holder may use exactly the holder's own accounts.
-/

namespace Passbook.Access

variable (ownerOf? : AccountId → Option OwnerId)

/-- Whether a principal may use an account. -/
def mayUse (principal : Principal) (account : AccountId) : Bool :=
  match principal with
  | .administrator => true
  | .holder owner => ownerOf? account == some owner
  | .anonymous => false

theorem mayUse_holder_iff {owner : OwnerId} {account : AccountId} :
    mayUse ownerOf? (.holder owner) account ↔ ownerOf? account =
      some owner := by
  simp [mayUse]

/-- Refuses a principal who may not use an account. -/
def checkUse (principal : Principal) (account : AccountId) :
    Except Fault Unit :=
  if mayUse ownerOf? principal account then .ok ()
  else .error (.accessDenied principal.text account.text)

/-- Refuses a principal who is no administrator. -/
def checkAdministrator (principal : Principal) (action : String) :
    Except Fault Unit :=
  if principal.isAdministrator then .ok ()
  else .error (.administratorRequired principal.text action)

/-- Refuses a principal who may not ask for an operation. -/
def authorize (principal : Principal) (operation : Operation) :
    Except Fault Unit :=
  match operation with
  | .deposit account _ | .withdraw account _ | .transfer account _ _ =>
    checkUse ownerOf? principal account
  | .openAccount .. | .closeAccount _ | .creditInterest _ | .setLimit .. =>
    checkAdministrator principal operation.action

end Passbook.Access
