import Mathlib.Order.Bounds.Defs
import Passbook.Proofs.History

/-!
# The journal under any clock

Commits are made one after the other, each at a reading of the clock. Nothing is
assumed about the readings: the clock may step back, stand still and jump ahead
again. A record is dated with the latest reading there was so far, so the times
in a journal never go back, whatever the clock does.

What carries this over a sequence of commits is that the time of the last record
is the latest of all readings, and that no record is dated after the last.
Numbers and positions go together on the way, so a record that was committed is
found under its number from then on.

## Main results

* `Dated.commit` — one commit keeps time, at any reading.
* `dated_after` — so do any number of them.
* `get?_returned` — what a commit returned is found under its number later.
* `chronicles_filings` — what a sequence of commits leaves in a journal.
* `keepsTime_after` — the times in the journal of a ledger after any run.
-/

namespace Passbook

namespace Instant

theorem le_refl (a : Instant) : a ≤ a := Or.inr ⟨rfl, Nat.le_refl _⟩

theorem le_trans {a b c : Instant} (first : a ≤ b) (second : b ≤ c) :
    a ≤ c := by
  rw [le_iff] at first second ⊢
  omega

/-- The latest of some readings and one more is the later of the latest of them
and that one. -/
theorem isGreatest_later {readings : List Instant} {latest now : Instant}
    (greatest : IsGreatest {reading | reading ∈ readings} latest) :
    IsGreatest {reading | reading ∈ readings ++ [now]} (latest.later now) := by
  constructor
  · show latest.later now ∈ readings ++ [now]
    unfold later
    split
    · exact List.mem_append_right _ (List.mem_singleton_self now)
    · exact List.mem_append_left _ greatest.1
  · intro reading mem
    rcases List.mem_append.1 mem with old | new
    · exact le_trans (greatest.2 old) (le_later_left latest now)
    · rw [List.mem_singleton.1 new]
      exact le_later_right latest now

end Instant

namespace Journal

/-! ## One commit -/

/-- Whether a journal keeps time with the readings that its commits were made
at. -/
structure Dated (readings : List Instant) (journal : Journal) : Prop where
  fresh : journal.latest = none → readings = []
  /-- The last record has the time of the latest reading. -/
  latest : ∀ time, journal.latest = some time →
    IsGreatest {reading | reading ∈ readings} time
  ascending : journal.records.toList.Pairwise
    fun earlier later => earlier.time ≤ later.time
  /-- No record has a time after that of the last. -/
  bounded : ∀ record ∈ journal.records.toList, ∃ time,
    journal.latest = some time ∧ record.time ≤ time

theorem dated_empty : Dated [] empty :=
  ⟨fun _ => rfl, nofun, List.Pairwise.nil, nofun⟩

section

variable {journal : Journal} {readings : List Instant} (now : Instant)
  (transaction : Transaction) (status : Status)

theorem latest_commit :
    (journal.commit now transaction status).2.latest =
      some (journal.commit now transaction status).1.time := rfl

/-- A record is not dated before the one in front of it. -/
theorem le_time_commit {time : Instant} (last : journal.latest = some time) :
    time ≤ (journal.commit now transaction status).1.time := by
  simp only [commit, last]
  exact Instant.le_later_left time now

/-- A record is dated with the latest of all readings, its own included. -/
theorem Dated.isGreatest_commit (dated : journal.Dated readings) :
    IsGreatest {reading | reading ∈ readings ++ [now]}
      (journal.commit now transaction status).1.time := by
  cases last : journal.latest with
  | none =>
    simp only [commit, last, dated.fresh last]
    refine ⟨List.mem_singleton_self now, fun reading mem => ?_⟩
    rw [List.mem_singleton.1 mem]
    exact now.le_refl
  | some time =>
    simp only [commit, last]
    exact Instant.isGreatest_later (dated.latest time last)

/-- A journal that keeps time does so after a commit, at any reading. -/
theorem Dated.commit (dated : journal.Dated readings) :
    (journal.commit now transaction status).2.Dated (readings ++ [now]) := by
  -- the records before are bounded by the last of them, and that by the new one
  have bounded : ∀ record ∈ journal.records.toList,
      record.time ≤ (journal.commit now transaction status).1.time := by
    intro record mem
    obtain ⟨time, last, le⟩ := dated.bounded record mem
    exact Instant.le_trans le (le_time_commit now transaction status last)
  constructor
  · intro never
    rw [latest_commit] at never
    cases never
  · intro time last
    rw [latest_commit] at last
    cases last
    exact dated.isGreatest_commit now transaction status
  · rw [records_commit, Array.toList_push, List.pairwise_append]
    refine ⟨dated.ascending, List.pairwise_singleton _ _, ?_⟩
    intro earlier old later new
    rw [List.mem_singleton.1 new]
    exact bounded earlier old
  · intro record mem
    refine ⟨_, latest_commit now transaction status, ?_⟩
    rw [records_commit, Array.toList_push, List.mem_append] at mem
    rcases mem with old | new
    · exact bounded record old
    · rw [List.mem_singleton.1 new]
      exact Instant.le_refl _

end

/-! ## Any number of commits -/

/-- What is handed in for a commit, and what the clock reads at that moment. -/
structure Filing where
  reading : Instant
  transaction : Transaction
  status : Status

/-- Commits what is handed in. -/
def file (journal : Journal) (filing : Filing) : Record × Journal :=
  journal.commit filing.reading filing.transaction filing.status

/-- The journal after the first `n` of some commits. -/
def after (filings : List Filing) (n : Nat) : Journal :=
  (filings.take n).foldl (fun journal filing => (journal.file filing).2) empty

/-- What the clock read at the first `n` of some commits. -/
def readings (filings : List Filing) (n : Nat) : List Instant :=
  (filings.take n).map (·.reading)

/-- The record that the commit at a position returns. -/
def returned (filings : List Filing) (i : Nat) (inside : i < filings.length) :
    Record :=
  ((after filings i).file filings[i]).1

variable {filings : List Filing} {i m n : Nat}

theorem after_succ (inside : n < filings.length) :
    after filings (n + 1) = ((after filings n).file filings[n]).2 := by
  unfold after
  rw [List.take_succ_eq_append_getElem inside, List.foldl_append]
  rfl

theorem after_of_length_le (outside : filings.length ≤ n) :
    after filings (n + 1) = after filings n := by
  unfold after
  rw [List.take_of_length_le (by omega), List.take_of_length_le outside]

theorem readings_succ (inside : n < filings.length) :
    readings filings (n + 1) =
      readings filings n ++ [filings[n].reading] := by
  unfold readings
  rw [List.take_succ_eq_append_getElem inside, List.map_append]
  rfl

theorem readings_of_length_le (outside : filings.length ≤ n) :
    readings filings (n + 1) = readings filings n := by
  unfold readings
  rw [List.take_of_length_le (by omega), List.take_of_length_le outside]

theorem size_after (le : n ≤ filings.length) : (after filings n).size = n := by
  induction n with
  | zero => rfl
  | succ n ih =>
    rw [after_succ le]
    unfold file
    rw [size_commit, ih (by omega)]

/-- After any number of commits a journal keeps time with all readings. -/
theorem dated_after (filings : List Filing) (n : Nat) :
    (after filings n).Dated (readings filings n) := by
  induction n with
  | zero => exact dated_empty
  | succ n ih =>
    by_cases inside : n < filings.length
    · rw [after_succ inside, readings_succ inside]
      exact ih.commit _ _ _
    · rw [after_of_length_le (by omega), readings_of_length_le (by omega)]
      exact ih

/-- Later commits leave all records where they are. -/
theorem keeps_after (le : m ≤ n) :
    (after filings m).Keeps (after filings n) := by
  induction le with
  | refl => exact Keeps.refl _
  | @step n _ ih =>
    by_cases inside : n < filings.length
    · rw [after_succ inside]
      exact ih.trans (keeps_commit _ _ _)
    · rw [after_of_length_le (by omega)]
      exact ih

theorem number_returned (inside : i < filings.length) :
    (returned filings i inside).number = i + 1 := by
  unfold returned file
  rw [number_commit, size_after (by omega)]

/-- A record that is returned has the time of the latest reading so far. -/
theorem isGreatest_returned (inside : i < filings.length) :
    IsGreatest {reading | reading ∈ readings filings (i + 1)}
      (returned filings i inside).time := by
  rw [readings_succ inside]
  exact (dated_after filings i).isGreatest_commit _ _ _

/-- What a commit returned is found under its number from then on. -/
theorem get?_returned (inside : i < filings.length) (before : i < n) :
    (after filings n).get? (i + 1) = some (returned filings i inside) := by
  have size : (after filings (i + 1)).size = i + 1 := size_after inside
  rw [(keeps_after (m := i + 1) before).2 (i + 1) (by omega) (by omega),
    after_succ inside, ← number_returned inside]
  exact get?_commit_number _ _ _

/-- Under no other number there is a record. -/
theorem get?_eq_none (le : n ≤ filings.length) {number : Nat}
    (outside : number = 0 ∨ n < number) :
    (after filings n).get? number = none := by
  rcases outside with rfl | beyond
  · rfl
  · have size : (after filings n).size = n := size_after le
    rw [get?_eq_getElem? _ (by omega)]
    apply Array.getElem?_eq_none
    unfold Journal.size at size
    omega

/-- Whether a journal is in order of time after each of some commits, and has
all that they returned. -/
structure Chronicles (filings : List Filing) : Prop where
  /-- Times never go back. -/
  ascending : ∀ n, (after filings n).records.toList.Pairwise
    fun earlier later => earlier.time ≤ later.time
  /-- A record has the latest time that the clock read up to its commit. -/
  latest : ∀ i (inside : i < filings.length),
    IsGreatest {reading | reading ∈ readings filings (i + 1)}
      (returned filings i inside).time
  /-- A record says what was committed, and has its position as its number. -/
  sealed : ∀ i (inside : i < filings.length),
    (returned filings i inside).toTransaction = filings[i].transaction ∧
      (returned filings i inside).status = filings[i].status ∧
      (returned filings i inside).number = i + 1
  /-- There are as many records as commits so far. -/
  size : ∀ n ≤ filings.length, (after filings n).size = n
  /-- What a commit returned is what is stored, from then on. -/
  stored : ∀ i (inside : i < filings.length) n, i < n →
    (after filings n).records[i]? = some (returned filings i inside)
  /-- It is found under its number, from then on. -/
  found : ∀ i (inside : i < filings.length) n, i < n →
    (after filings n).get? (returned filings i inside).number =
      some (returned filings i inside)
  /-- Under no other number there is a record. -/
  absent : ∀ n ≤ filings.length, ∀ number, ¬ (1 ≤ number ∧ number ≤ n) →
    (after filings n).get? number = none

theorem chronicles_filings (filings : List Filing) : Chronicles filings where
  ascending n := (dated_after filings n).ascending
  latest i inside := isGreatest_returned inside
  sealed i inside := ⟨rfl, rfl, number_returned inside⟩
  size n le := size_after le
  stored i inside n before := get?_returned inside before
  found i inside n before := by
    rw [number_returned]
    exact get?_returned inside before
  absent n le number outside := get?_eq_none le (by omega)

end Journal

/-! ## Journals of ledgers -/

/-- Whether a journal is what commits have made of an empty one, each at the
reading that a clock has for its position. -/
def Journal.Filed (clock : Clock) (journal : Journal) : Prop :=
  ∃ filings : List Filing, journal = after filings filings.length ∧
    filings.map (·.reading) =
      (List.range filings.length).map clock.journal

/-- Whether the times of a journal ascend, and each is the latest that a clock
read up to that record. -/
structure Journal.KeepsTime (clock : Clock) (journal : Journal) : Prop where
  ascending : journal.records.toList.Pairwise
    fun earlier later => earlier.time ≤ later.time
  latest : ∀ (k : Nat) (record : Record), journal.records[k]? = some record →
    IsGreatest {reading | ∃ j ≤ k, clock.journal j = reading} record.time

/-- What is written to the books is committed at the next reading. -/
theorem Journal.Filed.write {clock : Clock} {books : Books}
    (filed : books.journal.Filed clock) (posting : Posting) :
    (posting.write clock books).journal.Filed clock := by
  cases posting with
  | moved balances transaction status =>
    obtain ⟨filings, journal_eq, readings_eq⟩ := filed
    have size_eq : books.journal.size = filings.length := by
      rw [journal_eq]
      exact size_after (Nat.le_refl _)
    refine ⟨filings ++ [⟨clock.journal filings.length, transaction, status⟩],
      ?_, ?_⟩
    · show (books.journal.commit (clock.journal books.journal.size)
        transaction status).2 = _
      rw [size_eq, journal_eq]
      unfold after
      rw [List.take_length, List.take_length, List.foldl_append]
      rfl
    · rw [List.map_append, readings_eq, List.length_append,
        List.length_singleton, List.range_succ, List.map_append]
      rfl
  | opened | closed | amended => exact filed

namespace Bookkeeping

variable {β : Type} [Bookkeeping β] [Lawful β]

/-- Operations on a ledger leave a journal that is made by commits at the
readings of the clock. -/
theorem filed_after {clock : Clock} {ledger : β}
    (filed : (books ledger).journal.Filed clock)
    (operations : List Operation) :
    (books (after clock ledger operations)).journal.Filed clock := by
  induction operations generalizing ledger with
  | nil => exact filed
  | cons operation rest ih =>
    apply ih
    exact (Lawful.performs clock operation ledger).induction
      (motive := fun books => books.journal.Filed clock)
      (fun before _ => before.write _) filed

/-- After any run of operations the journal keeps time with the clock. -/
theorem keepsTime_after (clock : Clock) (operations : List Operation) :
    (journal (after clock (empty : β) operations)).KeepsTime clock := by
  have fresh : (books (empty : β)).journal.Filed clock := by
    rw [Lawful.books_empty]
    exact ⟨[], rfl, rfl⟩
  obtain ⟨filings, journal_eq, readings_eq⟩ := filed_after fresh operations
  have journal_eq : journal (after clock (empty : β) operations) =
      Journal.after filings filings.length := journal_eq
  rw [journal_eq]
  refine ⟨(Journal.dated_after filings filings.length).ascending, ?_⟩
  intro k record at_k
  have inside : k < filings.length := by
    obtain ⟨below, -⟩ := Array.getElem?_eq_some_iff.1 at_k
    have size : (Journal.after filings filings.length).size = filings.length :=
      Journal.size_after (Nat.le_refl _)
    rwa [← size]
  obtain rfl := Option.some.inj
    (at_k.symm.trans (Journal.get?_returned inside inside))
  have greatest := Journal.isGreatest_returned inside
  unfold Journal.readings at greatest
  rw [List.map_take, readings_eq, ← List.map_take, List.take_range,
    Nat.min_eq_left inside] at greatest
  simpa only [List.mem_map, List.mem_range, Nat.lt_succ_iff] using greatest

end Bookkeeping

/-- Whatever is committed, and whatever the clock reads, the journal is in order
of time and has all that the commits returned. The journals of both ledgers are
made in this way, and keep time after any run. -/
theorem Journal.chronicles :
    (∀ filings, Chronicles filings) ∧
      (∀ (clock : Clock) (operations : List Operation),
        (Bookkeeping.after clock Ledger.empty operations).journal.KeepsTime
          clock) ∧
      ∀ (clock : Clock) (operations : List Operation),
        (Bookkeeping.after clock SharedLedger.empty
          operations).journal.KeepsTime clock :=
  ⟨chronicles_filings, Bookkeeping.keepsTime_after (β := Ledger),
    Bookkeeping.keepsTime_after (β := SharedLedger)⟩

end Passbook
