/-!
# Writing rows of fields

A field is written within quotation marks if it holds a comma, a quotation mark
or a line end, and each quotation mark in it is written twice. Every row ends
with a line feed.

A sheet may break off: a row that cannot be written ends it, and the rows before
stand.
-/

namespace Passbook.Csv

/-- Characters that a field can only hold within quotation marks. -/
def needsQuotes (c : Char) : Bool :=
  c == ',' || c == '"' || c == '\n' || c == '\r'

/-- Writes each quotation mark twice. -/
def doubleQuotes : List Char → List Char
  | [] => []
  | c :: rest =>
    if c = '"' then '"' :: '"' :: doubleQuotes rest else c :: doubleQuotes rest

/-- A field as it is written. -/
def fieldChars (field : List Char) : List Char :=
  if field.any needsQuotes then '"' :: doubleQuotes field ++ ['"'] else field

/-- A row as it is written. -/
def rowChars (fields : List String) : List Char :=
  (fields.map fun field => fieldChars field.toList).intersperse [','] |>.flatten
    |> (· ++ ['\n'])

/-- Written rows, and whether they are all of them. -/
structure Sheet where
  text : String
  complete : Bool
deriving DecidableEq

/-- The characters of the rows up to the first that cannot be written, and
whether there is one. -/
def sheetChars : List (Option (List String)) → List Char × Bool
  | [] => ([], true)
  | none :: _ => ([], false)
  | some fields :: rest =>
    let (chars, complete) := sheetChars rest
    (rowChars fields ++ chars, complete)

/-- Writes a header and rows. -/
def Sheet.ofRows (header : List String) (rows : List (Option (List String))) :
    Sheet :=
  let (chars, complete) := sheetChars (some header :: rows)
  ⟨String.ofList chars, complete⟩

end Passbook.Csv
