/-!
# Splitting bytes into records and fields

Fields are divided by commas and records by line ends: a line feed, a carriage
return, or both. A field that starts with a quotation mark goes on to the next
single one, commas and line ends included; two marks in a row stand for one.
Text behind the closing mark is appended, and a mark that is not at the start of
a field is a character like any other. Empty lines are passed over, and a byte
order mark at the very start is dropped.

Each record carries the place where the reader stood when it began to look for
it, which is right behind the line end that closed the record before. Of a
carriage return and a line feed only the first closes the record.
-/

namespace Passbook.Csv

/-- A place in the bytes. -/
structure Position where
  /-- How many records were closed before. -/
  record : Nat
  /-- One more than the number of line feeds before. -/
  line : Nat
  /-- How many bytes there are before. -/
  byte : Nat
deriving DecidableEq

/-- The fields of a record, and where the reader stood when it began. -/
structure RawRecord where
  start : Position
  fields : List (List UInt8)
deriving DecidableEq

/-- What the byte before was part of. -/
inductive Mark where
  /-- Nothing of the record was read yet. -/
  | recordStart
  /-- The last record was closed by a carriage return. -/
  | carriageReturn
  /-- A comma was read. -/
  | fieldStart
  /-- Inside a field, outside quotation marks. -/
  | plain
  /-- Inside quotation marks. -/
  | quoted
  /-- Behind a quotation mark inside quotation marks. -/
  | quote
deriving DecidableEq

/-- The state of the reader; lists are in reverse. -/
structure Scanner where
  mark : Mark
  field : List UInt8
  fields : List (List UInt8)
  /-- Where the record that is being read began. -/
  start : Position
  /-- Where the reader stands. -/
  line : Nat
  byte : Nat
  /-- The records that are closed. -/
  records : List RawRecord

namespace Scanner

/-- The byte that divides fields. -/
def comma : UInt8 := 44

/-- The quotation mark. -/
def quoteMark : UInt8 := 34

/-- The byte that ends a line, and is counted as one. -/
def lineFeed : UInt8 := 10

/-- The other byte that ends a line. -/
def carriageReturn : UInt8 := 13

/-- The reader at the start, with some bytes skipped. -/
def initial (skipped : Nat) : Scanner :=
  { mark := .recordStart, field := [], fields := [], start := ⟨0, 1, 0⟩,
    line := 1,
    byte := skipped, records := [] }

/-- Takes a byte into the field. -/
def push (s : Scanner) (b : UInt8) (mark : Mark) : Scanner :=
  { s with mark, field := b :: s.field }

/-- Closes the field. -/
def closeField (s : Scanner) : Scanner :=
  { s with
    mark := .fieldStart, field := [], fields := s.field.reverse :: s.fields }

/-- Closes the field and the record; the next record begins where the reader
stands. -/
def closeRecord (s : Scanner) (mark : Mark) : Scanner :=
  { s with
    mark, field := [], fields := []
    start := ⟨s.start.record + 1, s.line, s.byte⟩
    records := ⟨s.start, (s.field.reverse :: s.fields).reverse⟩ :: s.records }

/-- A byte outside quotation marks. -/
def outside (s : Scanner) (b : UInt8) : Scanner :=
  if b = comma then s.closeField
  else if b = lineFeed then s.closeRecord .recordStart
  else if b = carriageReturn then s.closeRecord .carriageReturn
  else s.push b .plain

/-- A byte at the start of a field. -/
def opening (s : Scanner) (b : UInt8) : Scanner :=
  if b = quoteMark then { s with mark := .quoted } else s.outside b

/-- A byte at the start of a record; line ends are passed over. -/
def beginning (s : Scanner) (b : UInt8) : Scanner :=
  if b = lineFeed ∨ b = carriageReturn then
    { s with mark := .recordStart } else s.opening b

/-- Reads one byte. -/
def step (scanner : Scanner) (b : UInt8) : Scanner :=
  let s := { scanner with
    byte := scanner.byte + 1
    line := if b = lineFeed then scanner.line + 1 else scanner.line }
  match s.mark with
  | .recordStart => s.beginning b
  | .carriageReturn => s.beginning b
  | .fieldStart => s.opening b
  | .plain => s.outside b
  | .quoted =>
    if b = quoteMark then { s with mark := .quote } else s.push b .quoted
  | .quote => if b = quoteMark then s.push b .quoted else s.outside b

/-- The records that were read once there are no more bytes. -/
def finish (s : Scanner) : List RawRecord :=
  match s.mark with
  | .recordStart | .carriageReturn => s.records.reverse
  | _ => (s.closeRecord .recordStart).records.reverse

end Scanner

/-- Takes a byte order mark off the start, and tells how many bytes that was. -/
def dropOrderMark : List UInt8 → Nat × List UInt8
  | 0xEF :: 0xBB :: 0xBF :: rest => (3, rest)
  | bytes => (0, bytes)

/-- All records in order. -/
def scan (bytes : List UInt8) : List RawRecord :=
  let (skipped, bytes) := dropOrderMark bytes
  (bytes.foldl Scanner.step (.initial skipped)).finish

end Passbook.Csv
