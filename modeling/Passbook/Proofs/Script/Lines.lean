import Mathlib.Data.List.Basic
import Passbook.Script

/-!
# The lines on which rows begin

A line ends with a carriage return, a line feed, or both, and with most lines a
record ends. The others are *stray*: empty lines, which the reader passes over,
and those that end inside quotation marks. So the line on which a record begins
is as far down as there are records before it, and stray lines.

The results of a script count rows instead of lines. What is reported of a row
that is rejected is therefore the line on which it begins only if no line before
it is stray. Apart from that the results are as they should be: one for each
row, in the order of the rows, and none depends on another row.

## Main results

* `Csv.countP_endsLine` — a line is stray, or a record ends with it.
* `Csv.lineOf_recordStarts` — the line on which a record begins.
* `toOption_results_congr` — a row asks for the same wherever it is.
* `reported_iff` — when a row is reported under the line on which it begins.
* `pinpoints_iff` — when the results of a script point at its rows.
-/

namespace Passbook

open Csv Script

namespace Csv

/-! ## One byte -/

/-- Whether nothing of a record was read yet. -/
def Mark.isIdle : Mark → Bool
  | recordStart | carriageReturn => true
  | fieldStart | plain | quoted | quote => false

/-- Whether a line end would close the record. -/
def Mark.isOpen : Mark → Bool
  | fieldStart | plain | quote => true
  | recordStart | carriageReturn | quoted => false

namespace Scanner

/-- Whether a byte can end a line. -/
def isLineEnd (b : UInt8) : Bool := b == lineFeed || b == carriageReturn

/-- A record is closed by a line end, and by nothing else. -/
theorem length_records_step (s : Scanner) (b : UInt8) :
    (s.step b).records.length =
      s.records.length + if isLineEnd b && s.mark.isOpen then 1 else 0 := by
  unfold step
  cases mark : s.mark <;>
    simp only [beginning, opening, outside, push, closeField, closeRecord,
      isLineEnd, Mark.isOpen] <;>
    grind [comma, quoteMark, lineFeed, carriageReturn]

/-- Behind a line end the reader is idle, unless inside quotation marks. -/
theorem isIdle_step (s : Scanner) (b : UInt8) :
    (s.step b).mark.isIdle =
      (isLineEnd b && (s.mark.isIdle || s.mark.isOpen)) := by
  unfold step
  cases mark : s.mark <;>
    simp only [beginning, opening, outside, push, closeField, closeRecord,
      isLineEnd, Mark.isOpen, Mark.isIdle] <;>
    grind [comma, quoteMark, lineFeed, carriageReturn, Mark.isIdle]

/-- What follows a carriage return closes no record. -/
theorem isOpen_step_carriageReturn (s : Scanner) :
    (s.step carriageReturn).mark.isOpen = false := by
  unfold step
  cases mark : s.mark <;>
    rfl

end Scanner

/-! ## Lines -/

/-- Whether a line ends with the byte at a place: with a carriage return, and
with a line feed unless it follows one. -/
def endsLine (bytes : List UInt8) (p : Nat) : Bool :=
  bytes[p]? == some Scanner.carriageReturn ||
    (bytes[p]? == some Scanner.lineFeed &&
      (p == 0 || bytes[p - 1]? != some Scanner.carriageReturn))

/-- The line on which the byte at a place is, counted from 1. -/
def lineOf (bytes : List UInt8) (p : Nat) : Nat :=
  (List.range p).countP (endsLine bytes) + 1

section

variable (bytes : List UInt8)

/-- The bytes behind the byte order mark. Places are counted from there. -/
def text : List UInt8 := (dropOrderMark bytes).2

/-- The reader in front of a place. -/
def reader (p : Nat) : Scanner :=
  ((text bytes).take p).foldl Scanner.step (.initial (dropOrderMark bytes).1)

/-- How many records are closed in front of a place. -/
def closed (p : Nat) : Nat := (reader bytes p).records.length

/-- Whether a record begins with the byte at a place. -/
def begins (p : Nat) : Bool :=
  (reader bytes p).mark.isIdle &&
    (text bytes)[p]?.any fun b => !Scanner.isLineEnd b

/-- Whether a line ends at a place and no record does: the line is empty, or it
ends inside quotation marks. -/
def stray (p : Nat) : Bool :=
  endsLine (text bytes) p && !(reader bytes p).mark.isOpen

/-- The places where records begin. -/
def recordStarts : List Nat :=
  (List.range (text bytes).length).filter (begins bytes)

/-- The lines on which records begin. -/
def recordLines : List Nat := (recordStarts bytes).map (lineOf (text bytes))

end

/-! ## Reading on -/

variable {bytes : List UInt8} {p : Nat}

theorem reader_succ {b : UInt8} (found : (text bytes)[p]? = some b) :
    reader bytes (p + 1) = (reader bytes p).step b := by
  unfold reader
  rw [List.take_add_one, found, Option.toList_some, List.foldl_append]
  rfl

theorem reader_succ_of_none (found : (text bytes)[p]? = none) :
    reader bytes (p + 1) = reader bytes p := by
  unfold reader
  rw [List.take_add_one, found, Option.toList_none, List.append_nil]

/-- A line feed that can close a record does not follow a carriage return. -/
theorem not_behind_return (opened : (reader bytes p).mark.isOpen = true) :
    p = 0 ∨ (text bytes)[p - 1]? ≠ some Scanner.carriageReturn := by
  cases p with
  | zero => exact Or.inl rfl
  | succ q =>
    refine Or.inr fun behind => ?_
    rw [Nat.add_sub_cancel] at behind
    rw [reader_succ behind, Scanner.isOpen_step_carriageReturn] at opened
    cases opened

/-- A record is closed at the end of a line that is not stray. -/
theorem closed_succ (bytes : List UInt8) (p : Nat) :
    closed bytes (p + 1) = closed bytes p +
      if endsLine (text bytes) p && (reader bytes p).mark.isOpen then 1
      else 0 := by
  unfold closed
  cases found : (text bytes)[p]? with
  | none =>
    rw [reader_succ_of_none found]
    simp [endsLine, found]
  | some b =>
    rw [reader_succ found, Scanner.length_records_step]
    cases opened : (reader bytes p).mark.isOpen with
    | false => simp
    | true =>
      have not_behind := not_behind_return opened
      simp [endsLine, found, not_behind, Scanner.isLineEnd, or_comm]

/-- The lines that end in front of a place are those with which a record does,
and those that are stray. -/
theorem countP_endsLine (bytes : List UInt8) (p : Nat) :
    (List.range p).countP (endsLine (text bytes)) =
      closed bytes p + (List.range p).countP (stray bytes) := by
  induction p with
  | zero => rfl
  | succ p ih =>
    rw [List.range_succ, List.countP_append, List.countP_append, ih,
      closed_succ, List.countP_singleton, List.countP_singleton]
    unfold stray
    cases endsLine (text bytes) p <;>
      cases (reader bytes p).mark.isOpen <;>
      simp <;> omega

theorem Mark.isOpen_of_isIdle {mark : Mark} (idle : mark.isIdle = true) :
    mark.isOpen = false := by
  cases mark <;> first | rfl | cases idle

/-- A record that was begun has been closed, or is being read. -/
theorem countP_begins (bytes : List UInt8) {p : Nat}
    (le : p ≤ (text bytes).length) :
    (List.range p).countP (begins bytes) =
      closed bytes p + if (reader bytes p).mark.isIdle then 0 else 1 := by
  induction p with
  | zero => rfl
  | succ p ih =>
    obtain ⟨b, found⟩ : ∃ b, (text bytes)[p]? = some b :=
      ⟨_, List.getElem?_eq_getElem le⟩
    rw [List.range_succ, List.countP_append, ih (Nat.le_of_succ_le le),
      List.countP_singleton]
    unfold closed begins
    rw [reader_succ found, Scanner.length_records_step, Scanner.isIdle_step,
      found, Option.any_some]
    cases idle : (reader bytes p).mark.isIdle with
    | true =>
      rw [Mark.isOpen_of_isIdle idle]
      cases Scanner.isLineEnd b <;> rfl
    | false =>
      cases Scanner.isLineEnd b <;> cases (reader bytes p).mark.isOpen <;> rfl

/-! ## Records and their lines -/

theorem length_scan (bytes : List UInt8) :
    (scan bytes).length = closed bytes (text bytes).length +
      if (reader bytes (text bytes).length).mark.isIdle then 0 else 1 := by
  have scan_eq : scan bytes = (reader bytes (text bytes).length).finish := by
    unfold reader
    rw [List.take_length]
    rfl
  rw [scan_eq]
  unfold closed Scanner.finish
  cases (reader bytes (text bytes).length).mark <;>
    simp [Mark.isIdle, Scanner.closeRecord]

/-- Every record begins somewhere. -/
theorem length_recordStarts (bytes : List UInt8) :
    (recordStarts bytes).length = (scan bytes).length := by
  unfold recordStarts
  rw [← List.countP_eq_length_filter, countP_begins bytes (Nat.le_refl _),
    length_scan]

/-- Of the numbers that pass a test, each has as many below as its position
tells. -/
theorem of_getElem?_filter_range {test : Nat → Bool} {n k p : Nat}
    (found : ((List.range n).filter test)[k]? = some p) :
    p < n ∧ test p = true ∧ (List.range p).countP test = k := by
  induction n with
  | zero => cases found
  | succ n ih =>
    rw [List.range_succ, List.filter_append, List.getElem?_append] at found
    split at found
    case isTrue =>
      obtain ⟨lt, passes, count_eq⟩ := ih found
      exact ⟨Nat.lt_succ_of_lt lt, passes, count_eq⟩
    case isFalse not_lt =>
      cases passes : test n with
      | false =>
        rw [List.filter_cons_of_neg (by simp [passes]),
          List.filter_nil] at found
        cases found
      | true =>
        rw [List.filter_cons_of_pos passes, List.filter_nil,
          List.getElem?_singleton] at found
        split at found
        case isTrue last =>
          cases found
          refine ⟨Nat.lt_succ_self _, passes, ?_⟩
          rw [List.countP_eq_length_filter]
          omega
        case isFalse => cases found

/-- As many records are closed in front of a record as come before it. -/
theorem closed_of_recordStarts {k : Nat}
    (found : (recordStarts bytes)[k]? = some p) : closed bytes p = k := by
  obtain ⟨lt, begun, count_eq⟩ := of_getElem?_filter_range found
  have idle : (reader bytes p).mark.isIdle = true :=
    (Bool.and_eq_true_iff.1 begun).1
  rw [countP_begins bytes (Nat.le_of_lt lt), if_pos idle] at count_eq
  exact count_eq

/-- The line on which a record begins is as far down as there are records before
it, and stray lines. -/
theorem lineOf_recordStarts {k : Nat}
    (found : (recordStarts bytes)[k]? = some p) :
    lineOf (text bytes) p = k + (List.range p).countP (stray bytes) + 1 := by
  unfold lineOf
  rw [countP_endsLine, closed_of_recordStarts found]

theorem getElem?_recordLines {k : Nat}
    (found : (recordStarts bytes)[k]? = some p) :
    (recordLines bytes)[k]? =
      some (k + (List.range p).countP (stray bytes) + 1) := by
  unfold recordLines
  rw [List.getElem?_map, found, Option.map_some, lineOf_recordStarts found]

theorem countP_stray_eq_zero_iff :
    (List.range p).countP (stray bytes) = 0 ↔
      ∀ q < p, stray bytes q = false := by
  simp [List.countP_eq_zero]

end Csv

namespace Script

/-! ## Rows on their own -/

theorem toOption_bind {ε α β : Type} (x : Except ε α) (next : α → Except ε β) :
    (x >>= next).toOption = x.toOption.bind fun a => (next a).toOption := by
  cases x <;> rfl

namespace Row

/-- Where a record began matters to what is wrong with it, and to nothing
else. -/
theorem toOption_textsFrom (start other : Position) (index : Nat)
    (fields : List (List UInt8)) :
    (textsFrom start index fields).toOption =
      (textsFrom other index fields).toOption := by
  induction fields generalizing index with
  | nil => rfl
  | cons field rest ih =>
    unfold textsFrom
    cases Text.Utf8.decode (trimBytes field) with
    | error valid => rfl
    | ok text =>
      dsimp only
      rw [toOption_bind, toOption_bind, ih]

theorem toOption_readCells (start other : Position) (names fields : List String)
    (cells : Cells) :
    (readCells start names fields cells).toOption =
      (readCells other names fields cells).toOption := by
  fun_induction readCells start names fields cells <;>
    simp_all [readCells, Except.toOption]

theorem toOption_ofNamed (start other : Position) (names fields : List String) :
    (ofNamed start names fields).toOption =
      (ofNamed other names fields).toOption := by
  unfold ofNamed
  rw [toOption_bind, toOption_bind, toOption_readCells start other]
  congr 1
  funext cells
  cases ofCells? cells <;> rfl

theorem toOption_ofPositions (start other : Position) (fields : List String) :
    (ofPositions start fields).toOption =
      (ofPositions other fields).toOption := by
  unfold ofPositions
  split <;> rfl

theorem toOption_ofRecord (header : Except Problem (List String))
    {record record' : RawRecord} (fields : record.fields = record'.fields) :
    (ofRecord header record).toOption =
      (ofRecord header record').toOption := by
  unfold ofRecord
  rw [toOption_bind, toOption_bind]
  unfold RawRecord.texts
  rw [fields, toOption_textsFrom record.start record'.start]
  congr 1
  funext found
  cases header with
  | error problem => exact toOption_ofPositions _ _ _
  | ok names => exact toOption_ofNamed _ _ _ _

/-- Of the header, a row depends on the names, and on nothing if it is no
text. -/
theorem ofRecord_congr {header header' : Except Problem (List String)}
    (names : header.toOption = header'.toOption) :
    ofRecord header = ofRecord header' := by
  funext record
  unfold ofRecord
  cases header with
  | error problem =>
    cases header' with
    | error problem' => rfl
    | ok names' => cases names
  | ok texts =>
    cases header' with
    | error problem => cases names
    | ok texts' =>
      cases names
      rfl

end Row

/-! ## Results -/

variable {bytes other : List UInt8}

theorem toOption_result (row : Except Problem Row) (index : Nat) :
    (result row index).toOption =
      row.toOption.bind fun row => row.toCommand.toOption := by
  unfold result
  cases row with
  | error problem => rfl
  | ok row =>
    dsimp only
    cases reads : row.toCommand with
    | error fault => simp [Except.toOption, reads]
    | ok command => simp [Except.toOption, reads]

/-- What is reported of a row is its number among the rows. -/
theorem eq_malformedScript_of_result {row : Except Problem Row} {index : Nat}
    {fault : Fault} (rejected : result row index = .error fault) :
    ∃ message,
      fault = .malformedScript (some (reportedLine index)) message := by
  unfold result at rejected
  split at rejected
  · cases rejected
    exact ⟨_, rfl⟩
  · split at rejected
    · cases rejected
    · cases rejected
      exact ⟨_, rfl⟩

/-- The names of the columns, if the header is a text. -/
def columnNames (bytes : List UInt8) : Except Problem (List String) :=
  match scan bytes with
  | [] => .ok []
  | header :: _ => header.texts

theorem getElem?_results (bytes : List UInt8) (k : Nat) :
    (results bytes)[k]? = (scan bytes)[k + 1]?.map fun record =>
      result (Row.ofRecord (columnNames bytes) record) k := by
  unfold results resultsOf rows columnNames
  cases scan bytes with
  | nil => rfl
  | cons header records =>
    rw [List.getElem?_map, List.getElem?_zipIdx, List.getElem?_map,
      Option.map_map, Option.map_map, Nat.zero_add]
    rfl

theorem length_results_eq (bytes : List UInt8) :
    (results bytes).length = (scan bytes).length - 1 := by
  unfold results
  rw [length_results]
  unfold rows
  cases scan bytes with
  | nil => rfl
  | cons header records => exact List.length_map _

/-- The fields of a record, counted from the header. -/
def fieldsAt (bytes : List UInt8) (k : Nat) : Option (List (List UInt8)) :=
  (scan bytes)[k]?.map (·.fields)

theorem ofRecord_columnNames (headers : fieldsAt other 0 = fieldsAt bytes 0) :
    Row.ofRecord (columnNames other) = Row.ofRecord (columnNames bytes) := by
  apply Row.ofRecord_congr
  unfold fieldsAt at headers
  unfold columnNames
  generalize scan other = first at headers ⊢
  generalize scan bytes = second at headers ⊢
  cases first with
  | nil =>
    cases second with
    | nil => rfl
    | cons header records => cases headers
  | cons header' records' =>
    cases second with
    | nil => cases headers
    | cons header records =>
      have fields : header'.fields = header.fields := Option.some.inj headers
      dsimp only
      unfold RawRecord.texts
      rw [fields, Row.toOption_textsFrom header'.start header.start]

/-- What a row asks for depends on its fields and the header, wherever it is. -/
theorem toOption_results_congr {k k' : Nat}
    (headers : fieldsAt other 0 = fieldsAt bytes 0)
    (fields : fieldsAt other (k' + 1) = fieldsAt bytes (k + 1)) :
    (results other)[k']?.map Except.toOption =
      (results bytes)[k]?.map Except.toOption := by
  rw [getElem?_results, getElem?_results, ofRecord_columnNames headers]
  unfold fieldsAt at fields
  cases found : (scan bytes)[k + 1]? with
  | none =>
    rw [found, Option.map_none, Option.map_eq_none_iff] at fields
    rw [fields]
    rfl
  | some record =>
    rw [found, Option.map_some, Option.map_eq_some_iff] at fields
    obtain ⟨record', found', same⟩ := fields
    rw [found', Option.map_some, Option.map_some, Option.map_some,
      Option.map_some, toOption_result, toOption_result,
      Row.toOption_ofRecord _ same]

/-- A result depends on the record of its row and the header. -/
theorem results_congr (headers : fieldsAt other 0 = fieldsAt bytes 0) {k : Nat}
    (same : (scan other)[k + 1]? = (scan bytes)[k + 1]?) :
    (results other)[k]? = (results bytes)[k]? := by
  rw [getElem?_results, getElem?_results, ofRecord_columnNames headers, same]

/-! ## Where rows are reported -/

/-- Whether the result of a row points at the row, and depends on no other. -/
structure Pinpoints (bytes : List UInt8) : Prop where
  /-- There is one result for each record but the header. -/
  one_each : (results bytes).length = (scan bytes).length - 1
  /-- A row that is rejected is reported under the line on which it begins. -/
  lines : ∀ k fault, (results bytes)[k]? = some (.error fault) →
    ∃ line message, (recordLines bytes)[k + 1]? = some line ∧
      fault = .malformedScript (some line) message
  /-- The result of a row is told by its record and the header. -/
  independent : ∀ other k, fieldsAt other 0 = fieldsAt bytes 0 →
    (scan other)[k + 1]? = (scan bytes)[k + 1]? →
    (results other)[k]? = (results bytes)[k]?
  /-- What it asks for, if anything, is told by the fields, wherever they
  are. -/
  commands : ∀ other k k', fieldsAt other 0 = fieldsAt bytes 0 →
    fieldsAt other (k' + 1) = fieldsAt bytes (k + 1) →
    (results other)[k']?.map Except.toOption =
      (results bytes)[k]?.map Except.toOption

/-- A row that is rejected is reported under its number among the records, and
begins somewhere. -/
theorem rejected {k : Nat} {fault : Fault}
    (at_k : (results bytes)[k]? = some (.error fault)) :
    ∃ p message, (recordStarts bytes)[k + 1]? = some p ∧
      fault = .malformedScript (some (k + 2)) message := by
  rw [getElem?_results, Option.map_eq_some_iff] at at_k
  obtain ⟨record, found, result_eq⟩ := at_k
  obtain ⟨message, fault_eq⟩ := eq_malformedScript_of_result result_eq
  obtain ⟨lt, -⟩ := List.getElem?_eq_some_iff.1 found
  rw [← length_recordStarts] at lt
  exact ⟨_, message, List.getElem?_eq_getElem lt, fault_eq⟩

/-- A row that is rejected is reported under the line on which it begins exactly
if no line in front of it is stray. -/
theorem reported_iff {k p : Nat} {fault : Fault}
    (at_k : (results bytes)[k]? = some (.error fault))
    (starts : (recordStarts bytes)[k + 1]? = some p) :
    (∃ line message, (recordLines bytes)[k + 1]? = some line ∧
      fault = .malformedScript (some line) message) ↔
      ∀ q < p, stray bytes q = false := by
  obtain ⟨-, message, -, rfl⟩ := rejected at_k
  rw [getElem?_recordLines starts, ← countP_stray_eq_zero_iff]
  constructor
  · rintro ⟨line, message', line_eq, fault_eq⟩
    cases fault_eq
    have same := Option.some.inj line_eq
    omega
  · intro none_stray
    exact ⟨_, message, rfl, by rw [none_stray]⟩

/-- The results of a text point at its rows exactly if no line that is stray
ends in front of a row that is rejected. -/
theorem pinpoints_iff (bytes : List UInt8) :
    Pinpoints bytes ↔ ∀ k fault p,
      (results bytes)[k]? = some (.error fault) →
      (recordStarts bytes)[k + 1]? = some p →
      ∀ q < p, stray bytes q = false := by
  constructor
  · intro pinpoints k fault p at_k starts
    exact (reported_iff at_k starts).1 (pinpoints.lines k fault at_k)
  · intro straight
    constructor
    case one_each => exact length_results_eq bytes
    case lines =>
      intro k fault at_k
      obtain ⟨p, -, starts, -⟩ := rejected at_k
      exact (reported_iff at_k starts).2 (straight k fault p at_k starts)
    case independent =>
      intro other k headers same
      exact results_congr headers same
    case commands =>
      intro other k k' headers fields
      exact toOption_results_congr headers fields

/-- A row that is rejected on the second line, and an empty line behind it. -/
def straightScript : List UInt8 :=
  "type\nrefund\n\ninterest\n".toList.map fun c => UInt8.ofNat c.toNat

theorem pinpoints_iff_straight :
    (results straightScript)[0]? = some (.error (.malformedScript (some 2)
      "Invalid refund command: unknown command type")) ∧
      stray straightScript 12 = true ∧ Pinpoints straightScript := by
  have first_start : (recordStarts straightScript)[1]? = some 5 := by rfl
  have second : (results straightScript)[1]? =
      some (.ok ⟨.anonymous, .creditInterest none⟩) := by rfl
  have length_eq : (results straightScript).length = 2 := by rfl
  refine ⟨rfl, by decide, (pinpoints_iff straightScript).2 ?_⟩
  intro k fault p at_k starts
  have lt : k < 2 := by
    rw [← length_eq]
    exact (List.getElem?_eq_some_iff.1 at_k).1
  have k_cases : k = 0 ∨ k = 1 := by omega
  rcases k_cases with rfl | rfl
  · rw [first_start] at starts
    cases starts
    decide
  · rw [second] at at_k
    cases at_k

/-- An empty line, and behind it a row that is rejected. -/
def gappedScript : List UInt8 :=
  "type\n\nrefund\n".toList.map fun c => UInt8.ofNat c.toNat

/-- The row begins on the third line, and is reported under the second. -/
theorem not_pinpoints : ¬ Pinpoints gappedScript := by
  intro pinpoints
  obtain ⟨line, message, begins_on, fault_eq⟩ := pinpoints.lines 0
    (.malformedScript (some 2) "Invalid refund command: unknown command type")
    rfl
  have third : (recordLines gappedScript)[1]? = some 3 := by rfl
  rw [third] at begins_on
  cases begins_on
  cases fault_eq

end Script

end Passbook
