import Passbook.Decimal.Numeral
import Passbook.Operation
import Passbook.Script.Row

/-!
# From a row to a command

The type of a row names what is to be done, and decides which columns are read,
in a fixed order; the others are not looked at. Cells are trimmed, and one of
blanks is missing. The principal is read before anything else.

| type | columns, in the order in which they are read |
|---|---|
| `open` | amount if there is one, account if there is one, owner, kind |
| `close` | account |
| `deposit`, `withdraw`, `withdrawal` | account, amount |
| `transfer` | account, to, amount |
| `interest` | account if there is one |
| `set_limit` | account, amount |
-/

namespace Passbook.Script

/-- What a row asks for. -/
inductive Verb where
  | openAccount
  | close
  | deposit
  | withdraw
  | transfer
  | interest
  | setLimit
deriving DecidableEq

/-- The verb with this name, in lower case. -/
def Verb.ofName? (name : String) : Option Verb :=
  match name with
  | "open" => some .openAccount
  | "close" => some .close
  | "deposit" => some .deposit
  | "withdraw" | "withdrawal" => some .withdraw
  | "transfer" => some .transfer
  | "interest" => some .interest
  | "set_limit" => some .setLimit
  | _ => none

/-- The trimmed content of a cell, if any is left. -/
def content (cell : Option String) : Option String :=
  (cell.map Text.trim).filter (· != "")

/-- The content of a cell that must not be missing. -/
def needed (command : String) (column : Column) (cell : Option String) :
    Except Fault String :=
  match content cell with
  | some text => .ok text
  | none => .error (.malformedCommand command s!"missing {column.name}")

/-- Reads an amount. -/
def readAmount (command text : String) : Except Fault Decimal :=
  match Decimal.ofText? text with
  | some amount => .ok amount
  | none => .error (.malformedCommand command s!"invalid amount '{text}'")

/-- Reads the content of a cell with `read`, if there is any. -/
def optional {α : Type} (read : String → Except Fault α)
    (cell : Option String) :
    Except Fault (Option α) :=
  match content cell with
  | some text => some <$> read text
  | none => .ok none

namespace Row

/-- The type of a row, trimmed and in lower case. -/
def command (row : Row) : String := Text.lower (Text.trim row.type)

/-- The account that the row names. -/
def neededAccount (row : Row) : Except Fault AccountId := do
  AccountId.parse (← needed row.command .account row.account)

/-- The amount that the row names. -/
def neededAmount (row : Row) : Except Fault Decimal := do
  readAmount row.command (← needed row.command .amount row.amount)

/-- The operation that a verb makes of a row. -/
def operation (row : Row) : Verb → Except Fault Operation
  | .openAccount => do
    let parameter ← optional (readAmount row.command) row.amount
    let account ← optional AccountId.parse row.account
    let owner ← OwnerId.parse (← needed row.command .owner row.owner)
    let kind ← AccountKind.parse (← needed row.command .kind row.kind) parameter
    return .openAccount account owner kind
  | .close => return .closeAccount (← row.neededAccount)
  | .deposit => do
    let account ← row.neededAccount
    return .deposit account (← row.neededAmount)
  | .withdraw => do
    let account ← row.neededAccount
    return .withdraw account (← row.neededAmount)
  | .transfer => do
    let source ← row.neededAccount
    let destination ← AccountId.parse
        (← needed row.command .destination row.destination)
    return .transfer source destination (← row.neededAmount)
  | .interest => return .creditInterest (← optional AccountId.parse row.account)
  | .setLimit => do
    let account ← row.neededAccount
    return .setLimit account (← row.neededAmount)

/-- The command that a row asks for. -/
def toCommand (row : Row) : Except Fault Command := do
  let principal ← Principal.parse ((content row.principal).getD "")
  match Verb.ofName? row.command with
  | some verb => return ⟨principal, ← row.operation verb⟩
  | none => throw (.malformedCommand row.command "unknown command type")

end Row

end Passbook.Script
