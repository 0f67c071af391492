import Passbook.Csv.Problem

/-!
# Rows of a command script

A script is a table with the columns `type`, `principal`, `account`, `to`,
`owner`, `kind` and `amount`. The header row names the columns in any order, in
exactly this spelling; further columns are ignored. Every row must have a type,
and may do without the rest. If the header row is no text, the columns are taken
in the order above.
-/

namespace Passbook.Script

/-- The columns that mean something. -/
inductive Column where
  | type
  | principal
  | account
  | destination
  | owner
  | kind
  | amount
deriving DecidableEq

namespace Column

/-- How a column is named in the header row. -/
def name : Column → String
  | type => "type"
  | principal => "principal"
  | account => "account"
  | destination => "to"
  | owner => "owner"
  | kind => "kind"
  | amount => "amount"

/-- The columns in their usual order. -/
def all : List Column :=
    [type, principal, account, destination, owner, kind, amount]

/-- The column with this name. -/
def ofName? (s : String) : Option Column := all.find? (·.name == s)

end Column

/-- One row of a script; a cell is missing if its column is, or if it is
empty. -/
structure Row where
  type : String
  principal : Option String
  account : Option String
  destination : Option String
  owner : Option String
  kind : Option String
  amount : Option String
deriving DecidableEq

namespace Row

/-- Cells that were read, each under its column. -/
abbrev Cells : Type := List (Column × Option String)

/-- The content of a cell, if it has any. -/
def cell (cells : Cells) (column : Column) : Option String :=
    (cells.lookup column).join

/-- The row with these cells, if the type is among them. -/
def ofCells? (cells : Cells) : Option Row := do
  let type ← (← cells.lookup .type)
  return {
    type
    principal := cell cells .principal
    account := cell cells .account
    destination := cell cells .destination
    owner := cell cells .owner
    kind := cell cells .kind
    amount := cell cells .amount }

/-- A field as a cell: an empty field is no content, except for a type. -/
def toCell (column : Column) (field : String) : Option String :=
  if field = "" ∧ column ≠ .type then none else some field

/--
Pairs the names in the header with the fields of a record. The fields may run
out under a column that a row can do without, but not under the type, nor under
a column that means nothing.
-/
def readCells (start : Csv.Position) : List String → List String → Cells →
    Except Csv.Problem Cells
  | [], _, cells => .ok cells
  | name :: names, fields, cells =>
    match Column.ofName? name with
    | none =>
      match fields with
      | [] => .error (.endOfRow start)
      | _ :: fields => readCells start names fields cells
    | some column =>
      if (cells.lookup column).isSome then
        .error (.duplicateColumn start column.name)
      else
        match fields with
        | [] =>
          if column = .type then .error (.endOfRow start)
          else readCells start names [] ((column, none) :: cells)
        | field :: fields =>
          readCells start names fields ((column, toCell column field) :: cells)

/-- The row of a record under the names in the header. -/
def ofNamed (start : Csv.Position) (names fields : List String) :
    Except Csv.Problem Row := do
  let cells ← readCells start names fields []
  match ofCells? cells with
  | some row => return row
  | none => throw (.missingColumn start Column.type.name)

/-- The row of a record whose fields are in the usual order of the columns. -/
def ofPositions (start : Csv.Position) (fields : List String) :
    Except Csv.Problem Row :=
  match ofCells? (Column.all.zip fields |>.map fun (column, field) =>
      (column, toCell column field)) with
  | some row => .ok row
  | none => .error (.missingColumn start Column.type.name)

/-- The row of a record under a header. -/
def ofRecord (header : Except Csv.Problem (List String))
    (record : Csv.RawRecord) :
    Except Csv.Problem Row := do
  let fields ← record.texts
  match header with
  | .ok names => ofNamed record.start names fields
  | .error _ => ofPositions record.start fields

end Row

/-- The rows of a script, or what is wrong with them. -/
def rows (bytes : List UInt8) : List (Except Csv.Problem Row) :=
  match Csv.scan bytes with
  | [] => []
  | header :: records => records.map (Row.ofRecord header.texts)

end Passbook.Script
