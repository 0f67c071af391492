import Passbook.Room
import Passbook.Script.Verb

/-!
# Reading a script

Every data row gives a command or a fault. A fault names a line: the header
counts as line 1 and each data row as one more, whatever lines it takes up.

A script can be read all at once or in batches. Reading in batches passes over
rows that are out of order, and they do not count: a batch is short only if the
rows run out. Room for a whole batch is asked for before its first row is read.

## Main results

* `length_results` — one result for each row.
* `length_takeBatch` — a batch that holds anything leaves fewer rows.
* `readBatches_eq_ok_iff` — a script is read in batches exactly if there is room
  for one.
-/

namespace Passbook.Script

/-- The line that faults of a data row name; rows are counted from zero. -/
def reportedLine (index : Nat) : Nat := index + 2

/-- The command of a row, or the fault as reported for its line. -/
def result (row : Except Csv.Problem Row) (index : Nat) :
    Except Fault Command :=
  match row with
  | .error problem =>
    .error (.malformedScript (some (reportedLine index)) problem.message)
  | .ok row =>
    match row.toCommand with
    | .ok command => .ok command
    | .error fault =>
      .error (.malformedScript (some (reportedLine index)) fault.message)

/-- The results of all rows. -/
def resultsOf (rows : List (Except Csv.Problem Row)) :
    List (Except Fault Command) :=
  rows.zipIdx.map fun (row, index) => result row index

/-- The results of all rows of a script. -/
def results (bytes : List UInt8) : List (Except Fault Command) :=
    resultsOf (rows bytes)

/-- What the file of a script holds. -/
inductive Content where
  /-- Bytes that can be read. -/
  | read (bytes : List UInt8)
  /-- Nothing, as the file can be opened but not read. -/
  | unreadable (reason : String)

/-- The results of all rows of a file; one that cannot be read counts as a row
out of order. -/
def Content.results : Content → List (Except Fault Command)
  | .read bytes => Script.results bytes
  | .unreadable reason =>
    [.error (.malformedScript (some (reportedLine 0)) reason)]

theorem length_results (rows : List (Except Csv.Problem Row)) :
    (resultsOf rows).length = rows.length := by
  simp [resultsOf]

/-- The commands among some results. -/
def commands (results : List (Except Fault Command)) : List Command :=
  results.filterMap Except.toOption

/-! ## Batches -/

/-- Takes up to `size` commands, and the results behind them. -/
def takeBatch : Nat → List (Except Fault Command) →
    List Command × List (Except Fault Command)
  | 0, rest => ([], rest)
  | _ + 1, [] => ([], [])
  | size + 1, .ok command :: rest =>
    let (batch, rest) := takeBatch size rest
    (command :: batch, rest)
  | size + 1, .error _ :: rest => takeBatch (size + 1) rest

theorem takeBatch_rest_le (size : Nat) (results : List (Except Fault Command)) :
    (takeBatch size results).2.length + (takeBatch size results).1.length ≤
      results.length := by
  fun_induction takeBatch size results with
  | case1 => simp
  | case2 => simp
  | case3 _ _ _ batch rest eq ih => simp [eq] at ih ⊢; omega
  | case4 _ _ _ ih => simp only [List.length_cons]; omega

theorem length_takeBatch {size : Nat} {results : List (Except Fault Command)}
    (h : (takeBatch size results).1 ≠ []) :
    (takeBatch size results).2.length < results.length := by
  have := takeBatch_rest_le size results
  have := List.length_pos_iff.2 h
  omega

/-- The batches up to the first empty one. -/
def batches (size : Nat) (results : List (Except Fault Command)) :
    List (List Command) :=
  if (takeBatch size results).1 = [] then []
  else (takeBatch size results).1 :: batches size (takeBatch size results).2
termination_by results.length
decreasing_by exact length_takeBatch (by assumption)

/-- The room for a command in a batch. -/
def commandRoom : Room.Item := ⟨96, 0⟩

/-- The batches of a script on a machine with some bytes of memory. -/
def readBatches (memory size : Nat) (results : List (Except Fault Command)) :
    Except Room.Shortage (List (List Command)) := do
  Room.request memory size commandRoom
  return batches size results

theorem readBatches_eq_ok_iff {memory size : Nat}
    {results : List (Except Fault Command)} {found : List (List Command)} :
    readBatches memory size results = .ok found ↔
      Room.request memory size commandRoom = .ok () ∧
        batches size results = found := by
  unfold readBatches
  cases Room.request memory size commandRoom with
  | error shortage => simp [bind, Except.bind]
  | ok => simp [bind, Except.bind, pure, Except.pure]

end Passbook.Script
