import Passbook.Decimal.Format

/-!
# Faults: why a request was refused

A fault names its cause and what it is about. Accounts, principals and
operations appear in it as texts, since a fault also speaks of accounts that no
valid id can name. The wording is in one place, `Fault.message`, and so is the
division into categories.

Two causes are refusals by rule, `insufficientFunds` and `overdraftExceeded`:
the request was in order and the account's rule said no. These end up in the
journal as failed movements; all others leave no trace there.
-/

namespace Passbook

/-- Why a request was refused. -/
inductive Fault where
  | amountNotPositive (amount : Decimal)
  | tooManyPlaces (amount : Decimal) (places : Nat)
  | malformedAccountId (text : String)
  | malformedOwnerId (text : String)
  | malformedPrincipal (text : String)
  | unknownKind (name : String)
  | rateOutOfRange (rate : Decimal)
  | negativeLimit (limit : Decimal)
  | sameAccount (account : String)
  | noInterest (account : String)
  | noOverdraft (account : String)
  | limitBelowBalance (account : String) (limit balance : Decimal)
  | duplicateAccount (account : String)
  | idsExhausted
  | overflow (operation account : String)
  | malformedCommand (command problem : String)
  | accountNotFound (account : String)
  | insufficientFunds (account : String) (balance requested : Decimal)
  | overdraftExceeded (account : String) (available requested : Decimal)
  | accessDenied (principal account : String)
  | administratorRequired (principal operation : String)
  | inputOutput (message : String)
  | malformedScript (line : Option Nat) (message : String)
deriving DecidableEq

namespace Fault

/-- What a fault is a fault of. -/
inductive Category where
  /-- The request itself is out of order. -/
  | validation
  /-- The account does not exist. -/
  | notFound
  /-- The account's rule forbids it. -/
  | businessRule
  /-- The principal may not do it. -/
  | accessDenied
  /-- A file or script cannot be read or written. -/
  | inputOutput
deriving DecidableEq

/-- The category of a fault. -/
def category : Fault → Category
  | insufficientFunds .. | overdraftExceeded .. => .businessRule
  | accountNotFound _ => .notFound
  | accessDenied .. | administratorRequired .. => .accessDenied
  | inputOutput _ | malformedScript .. => .inputOutput
  | _ => .validation

/-- Whether the account's own rule refused an otherwise valid request. -/
def isRefusal (fault : Fault) : Bool := fault.category == .businessRule

/-- The wording of a fault. -/
def message : Fault → String
  | amountNotPositive amount =>
    s!"Invalid amount {amount}: amounts must be strictly positive"
  | tooManyPlaces amount places =>
    s!"Invalid amount {amount}: at most {places} decimal places are allowed"
  | malformedAccountId text =>
    s!"Invalid account id '{text}': expected ACC followed by three digits"
  | malformedOwnerId text =>
    s!"Invalid owner id '{text}': expected C followed by three digits"
  | malformedPrincipal text => s!"Invalid principal '{text}'"
  | unknownKind name => s!"Unknown account kind '{name}'"
  | rateOutOfRange rate =>
    s!"Invalid interest rate {rate}: must be between 0 and 1"
  | negativeLimit limit =>
    s!"Invalid overdraft limit {limit}: must not be negative"
  | sameAccount account => s!"Cannot transfer from account {account} to itself"
  | noInterest account => s!"Account {account} does not earn interest"
  | noOverdraft account =>
    s!"Account {account} does not have an overdraft facility"
  | limitBelowBalance account limit balance =>
    s!"Overdraft limit {limit} for account {account} is below the current balance {balance}"
  | duplicateAccount account => s!"Account {account} already exists"
  | idsExhausted => "No account ids left to issue"
  | overflow operation account =>
    s!"Arithmetic overflow in {operation} for account {account}"
  | malformedCommand command problem => s!"Invalid {command} command: {problem}"
  | accountNotFound account => s!"Account {account} not found"
  | insufficientFunds account balance requested =>
    s!"Insufficient funds in account {account}: balance {balance}, requested {requested}"
  | overdraftExceeded account available requested =>
    s!"Overdraft limit exceeded for account {account}: available {available}, " ++
      s!"requested {requested}"
  | accessDenied principal account =>
    s!"Access denied for {principal} on account {account}"
  | administratorRequired principal operation =>
    s!"Access denied for {principal}: {operation} requires an administrator"
  | inputOutput message => s!"I/O error: {message}"
  | malformedScript none message => s!"CSV parse error: {message}"
  | malformedScript (some line) message =>
    s!"CSV parse error at line {line}: {message}"

end Fault

end Passbook
