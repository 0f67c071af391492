import Passbook.Proofs.Script

/-!
# Reading a script in batches

Rows that are out of order do not count towards a batch, so there may be more of
them in a row than a batch has commands, before, between or behind the rows that
are in order. What the calls for batches find depends on the commands alone: the
`k`th call takes those from position `k * size` on, up to `size` of them. So an
empty batch means that there is no command left, and the batches before it are
full but for the last.

All of this is so if there is room for a batch. It is asked for before the first
row is read, however few rows there are.

## Main results

* `batchAt_eq` — which commands each call finds.
* `exhausts_batches` — the calls up to the first empty batch.
* `readsWhole_iff` — a script is read whole exactly if there is room for a
  batch.
-/

namespace Passbook.Script

variable {size : Nat} {results : List (Except Fault Command)}

/-! ## Calls for a batch -/

theorem fst_takeBatch (size : Nat) (results : List (Except Fault Command)) :
    (takeBatch size results).1 = (commands results).take size := by
  fun_induction takeBatch size results with
  | case1 rest => rfl
  | case2 size => rfl
  | case3 size command rest batch behind eq ih =>
    rw [eq] at ih
    exact congrArg (command :: ·) ih
  | case4 size fault rest ih => exact ih

theorem commands_snd_takeBatch (size : Nat)
    (results : List (Except Fault Command)) :
    commands (takeBatch size results).2 = (commands results).drop size := by
  have parts := takeBatch_append size results
  rw [fst_takeBatch] at parts
  exact List.append_cancel_left (parts.trans (List.take_append_drop _ _).symm)

/-- What is left to read behind some calls. -/
def behind (size : Nat) :
    Nat → List (Except Fault Command) → List (Except Fault Command)
  | 0, results => results
  | calls + 1, results => behind size calls (takeBatch size results).2

/-- The batch that a call finds, where calls are counted from zero. -/
def batchAt (size call : Nat) (results : List (Except Fault Command)) :
    List Command :=
  (takeBatch size (behind size call results)).1

theorem commands_behind (size calls : Nat)
    (results : List (Except Fault Command)) :
    commands (behind size calls results) =
      (commands results).drop (calls * size) := by
  induction calls generalizing results with
  | zero => rw [behind, Nat.zero_mul, List.drop_zero]
  | succ calls ih =>
    rw [behind, ih, commands_snd_takeBatch, List.drop_drop, Nat.succ_mul,
      Nat.add_comm]

/-- Which commands a call finds. -/
theorem batchAt_eq (size call : Nat) (results : List (Except Fault Command)) :
    batchAt size call results =
      ((commands results).drop (call * size)).take size := by
  rw [batchAt, fst_takeBatch, commands_behind]

/-- A call finds nothing only where no command is left. -/
theorem commands_behind_of_batchAt_nil (positive : 0 < size) {call : Nat}
    (empty : batchAt size call results = []) :
    commands (behind size call results) = [] :=
  commands_of_takeBatch_nil positive empty

/-- A call finds a full batch if a later one finds anything. -/
theorem length_batchAt_of_lt {call later : Nat} (lt : call < later)
    (found : batchAt size later results ≠ []) :
    (batchAt size call results).length = size := by
  rw [batchAt_eq] at found ⊢
  have left : later * size < (commands results).length := by
    apply Nat.lt_of_not_le
    intro none_left
    rw [List.drop_eq_nil_of_le none_left, List.take_nil] at found
    exact found rfl
  have enough : (call + 1) * size ≤ later * size :=
    Nat.mul_le_mul_right size lt
  rw [Nat.add_mul, Nat.one_mul] at enough
  rw [List.length_take, List.length_drop]
  omega

/-! ## Calls up to the first empty batch -/

/-- Whether some batches are what the calls find up to the first empty one, and
all there is to find. -/
structure Exhausts (size : Nat) (results : List (Except Fault Command))
    (found : List (List Command)) : Prop where
  /-- Each batch was found by its call, and there is something in it. -/
  calls : ∀ (call : Nat) (inside : call < found.length),
    found[call] = batchAt size call results ∧ found[call] ≠ []
  /-- The call behind them finds nothing. -/
  stops : batchAt size found.length results = []
  /-- Nothing is lost, and nothing invented. -/
  flatten : found.flatten = commands results
  /-- All batches but the last are full. -/
  full : ∀ batch ∈ found.dropLast, batch.length = size
  /-- No batch is larger. -/
  bounded : ∀ batch ∈ found, batch.length ≤ size
  /-- Whichever call finds nothing, no command is left. -/
  empty : ∀ call, batchAt size call results = [] →
    commands (behind size call results) = []

/-- The batches of a script are what its calls find. -/
theorem getElem?_batches (positive : 0 < size)
    (results : List (Except Fault Command)) (call : Nat) :
    (batches size results)[call]? =
      if batchAt size call results = [] then none
      else some (batchAt size call results) := by
  fun_induction batches size results generalizing call with
  | case1 results empty =>
    have none_left : batchAt size call results = [] := by
      rw [batchAt_eq, commands_of_takeBatch_nil positive empty, List.drop_nil,
        List.take_nil]
    rw [if_pos none_left, List.getElem?_nil]
  | case2 results some_left ih =>
    cases call with
    | zero => exact (if_neg some_left).symm
    | succ call => exact ih call

theorem exhausts_batches (positive : 0 < size)
    (results : List (Except Fault Command)) :
    Exhausts size results (batches size results) := by
  have at_call := getElem?_batches positive results
  have calls (call : Nat) (inside : call < (batches size results).length) :
      (batches size results)[call] = batchAt size call results ∧
        (batches size results)[call] ≠ [] := by
    have found := at_call call
    rw [List.getElem?_eq_getElem inside] at found
    split at found
    · cases found
    · rename_i some_left
      rw [Option.some.inj found]
      exact ⟨rfl, some_left⟩
  refine ⟨calls, ?_, flatten_batches positive results, ?_, ?_, ?_⟩
  · have behind_last := at_call (batches size results).length
    rw [List.getElem?_eq_none (Nat.le_refl _)] at behind_last
    split at behind_last
    · assumption
    · cases behind_last
  · intro batch mem
    obtain ⟨call, inside, rfl⟩ := List.mem_iff_getElem.1 mem
    rw [List.length_dropLast] at inside
    -- the batch behind it is there, so it is full
    have next := calls (call + 1) (by omega)
    rw [List.getElem_dropLast, (calls call (by omega)).1]
    exact length_batchAt_of_lt (Nat.lt_succ_self call) (next.1 ▸ next.2)
  · intro batch mem
    obtain ⟨call, inside, rfl⟩ := List.mem_iff_getElem.1 mem
    rw [(calls call inside).1, batchAt_eq, List.length_take]
    exact Nat.min_le_left _ _
  · intro call empty
    exact commands_behind_of_batchAt_nil positive empty

/-! ## Room for a batch -/

/-- Whether reading rows in batches, on a machine with some bytes of memory,
ends with the first empty batch and finds all commands. -/
def ReadsWhole (memory size : Nat) (rows : List (Except Csv.Problem Row)) :
    Prop :=
  ∃ found, readBatches memory size (resultsOf rows) = .ok found ∧
    Exhausts size (resultsOf rows) found

theorem room_of_readsWhole {memory : Nat}
    {rows : List (Except Csv.Problem Row)}
    (whole : ReadsWhole memory size rows) :
    Room.Fits size commandRoom.place ∧ size * commandRoom.total ≤ memory := by
  obtain ⟨found, read, -⟩ := whole
  exact Room.request_eq_ok_iff.1 (readBatches_eq_ok_iff.1 read).1

/-- Rows are read whole in batches exactly if there is room for a batch. -/
theorem readsWhole_iff (memory : Nat) {size : Nat} (positive : 0 < size)
    (rows : List (Except Csv.Problem Row)) :
    ReadsWhole memory size rows ↔
      Room.Fits size commandRoom.place ∧
        size * commandRoom.total ≤ memory := by
  refine ⟨room_of_readsWhole, fun room => ?_⟩
  exact ⟨batches size (resultsOf rows),
    readBatches_eq_ok_iff.2 ⟨Room.request_eq_ok_iff.2 room, rfl⟩,
    exhausts_batches positive _⟩

/-- A row that has nothing but a type. -/
def bareRow (type : String) : Row :=
  ⟨type, none, none, none, none, none, none⟩

/-- Rows out of order may be more in a row than a batch has commands, and the
last rows of all. -/
theorem readsWhole_iff_scattered :
    let bad : Except Csv.Problem Row := .error (.endOfRow ⟨1, 2, 3⟩)
    let rows := [bad, .ok (bareRow "interest"), bad, .ok (bareRow "none"), bad,
      .ok (bareRow "interest"), .ok (bareRow "interest"), bad]
    0 < 2 ∧ Room.Fits 2 commandRoom.place ∧ 2 * commandRoom.total ≤ 4096 ∧
      ReadsWhole 4096 2 rows :=
  ⟨by decide, by decide, by decide,
    (readsWhole_iff 4096 (by decide) _).2 ⟨by decide, by decide⟩⟩

/-- No memory is enough for a batch of the largest size, even if there is but
one row. -/
theorem not_readsWhole :
    ¬ ∀ (size : Nat) (rows : List (Except Csv.Problem Row)), 0 < size →
      ∃ memory, ReadsWhole memory size rows := by
  intro always
  obtain ⟨memory, whole⟩ :=
    always 18446744073709551615 [.ok (bareRow "interest")] (by decide)
  exact absurd (room_of_readsWhole whole).1 (by decide)

end Passbook.Script
