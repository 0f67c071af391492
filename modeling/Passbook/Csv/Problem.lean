import Passbook.Csv.Scanner
import Passbook.Fault
import Passbook.Text.Blank
import Passbook.Text.Utf8

/-!
# Records that cannot be taken as they are

A record may hold bytes that are no text, may have another number of fields than
the first one, or may fail to give a row its columns. Each problem says where
the record began.
-/

namespace Passbook.Csv

/-- What is wrong with a record. -/
inductive Problem where
  /-- A field is not UTF-8 from some byte on. -/
  | notText (start : Position) (field index : Nat)
  /-- The record is longer or shorter than the first one. -/
  | uneven (start : Position) (found expected : Nat)
  /-- A column is named twice. -/
  | duplicateColumn (start : Position) (column : String)
  /-- A column that every row has to have is not named. -/
  | missingColumn (start : Position) (column : String)
  /-- The record ends before a column that every row has to have. -/
  | endOfRow (start : Position)
deriving DecidableEq

namespace Problem

/-- Where the record began. -/
def start : Problem → Position
  | notText start _ _ | uneven start _ _ | duplicateColumn start
    _ | missingColumn start _
  | endOfRow start => start

/-- The place in words. -/
def place (p : Position) : String :=
  s!"record {p.record} (line: {p.line}, byte: {p.byte})"

/-- The wording of a problem. -/
def message : Problem → String
  | notText p field index =>
    s!"CSV parse error: record {p.record} (line {p.line}, field: {field}, byte: {p.byte}): " ++
      s!"invalid utf-8: invalid UTF-8 in field {field} near byte index {index}"
  | uneven p found expected =>
    s!"CSV error: {place p}: found record with {found} fields, " ++
      s!"but the previous record has {expected} fields"
  | duplicateColumn p column =>
    s!"CSV deserialize error: {place p}: duplicate field `{column}`"
  | missingColumn p column =>
    s!"CSV deserialize error: {place p}: missing field `{column}`"
  | endOfRow p =>
    s!"CSV deserialize error: {place p}: expected field, but got end of row"

/-- The fault of a script whose reading ends at this problem; its line is the
record's own. -/
def toFault (problem : Problem) : Fault :=
  .malformedScript (some problem.start.line) problem.message

end Problem

/-! ## Records as text -/

/-- Blanks among the ASCII characters. -/
def isBlankByte (b : UInt8) : Bool :=
    b == 32 || b == 9 || b == 10 || b == 12 || b == 13

/-- Takes ASCII blanks off both ends of a field. -/
def trimBytes (field : List UInt8) : List UInt8 :=
  ((field.dropWhile isBlankByte).reverse.dropWhile isBlankByte).reverse

/-- The trimmed fields as texts, counted from `index`; the first that is no text
is the problem. -/
def textsFrom (start : Position) (index : Nat) :
    List (List UInt8) → Except Problem (List String)
  | [] => .ok []
  | field :: rest =>
    match Text.Utf8.decode (trimBytes field) with
    | .error valid => .error (.notText start index valid)
    | .ok text => do
      let texts ← textsFrom start (index + 1) rest
      return Text.trim text :: texts

/-- The trimmed fields of a record as texts. -/
def RawRecord.texts (record : RawRecord) : Except Problem (List String) :=
  textsFrom record.start 0 record.fields

/-- The first record whose length is not that of the first record. -/
def uneven? : List RawRecord → Option Problem
  | [] => none
  | first :: rest =>
    (rest.find? fun record => record.fields.length != first.fields.length).map
      fun record =>
      .uneven record.start record.fields.length first.fields.length

end Passbook.Csv
