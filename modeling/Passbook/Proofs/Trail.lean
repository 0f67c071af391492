import Passbook.Proofs.History
import Passbook.Proofs.Likeness
import Passbook.Proofs.Refusals

/-!
# The audit trail and the journal

The trail is kept by the desk and the journal by the ledger. They go together:
one entry for each command in order, and its verdict tells what the ledger has
done. A command that was denied or rejected has changed nothing; one that failed
has left one failed record in the journal and in the history of the account that
was to give the money, and nothing else.

`Writes` says what an operation adds to the journal along with its answer. The
counts follow from it by one step for each command.

## Main results

* `Performs.writes` — what an operation adds to the journal.
* `told_entryOf` — the entry of a command tells what became of it.
* `accounted_executeAll` — the trail after any number of commands.
-/

namespace Passbook

/-! ## What an operation adds to the journal -/

/-- The movement that an operation asks for. -/
def Operation.movement? : Operation → Option Movement
  | deposit id _ => some (.deposit id)
  | withdraw id _ => some (.withdrawal id)
  | transfer source destination _ => some (.transfer source destination)
  | openAccount .. | closeAccount _ | creditInterest _ | setLimit .. => none

/-- Whether a record is of interest that was credited. -/
def Record.OfInterest (record : Record) : Prop :=
  record.status = .completed ∧ ∃ id, record.movement = .interest id

/-- What an operation adds to the journal, along with what it answers. -/
inductive Writes (operation : Operation) :
    Except Fault Outcome → List Record → Prop
  | nothing (fault : Fault) : Writes operation (.error fault) []
  | movement {record : Record}
      (asked : operation.movement? = some record.movement) :
      Writes operation (.ok (.recorded record)) [record]
  | other {outcome : Outcome} {records : List Record}
      (unasked : operation.movement? = none)
      (unrecorded : ∀ record, outcome ≠ .recorded record)
      (of_interest : ∀ record ∈ records, record.OfInterest) :
      Writes operation (.ok outcome) records

/-- An operation that asks for no movement adds nothing but interest. -/
theorem Writes.ofInterest {operation : Operation}
    {answer : Except Fault Outcome} {records : List Record}
    (writes : Writes operation answer records)
    (unasked : operation.movement? = none) :
    ∀ record ∈ records, record.OfInterest := by
  cases writes with
  | nothing fault => exact nofun
  | movement asked =>
    rw [unasked] at asked
    cases asked
  | other _ _ of_interest => exact of_interest

/-- A movement that is answered with its record adds this record. -/
theorem Writes.of_recorded {operation : Operation} {record : Record}
    {records : List Record}
    (writes : Writes operation (.ok (.recorded record)) records) :
    operation.movement? = some record.movement ∧ records = [record] := by
  cases writes with
  | movement asked => exact ⟨asked, rfl⟩
  | other _ unrecorded _ => exact absurd rfl (unrecorded record)

theorem Change.writes (clock : Clock) {books : Books} {operation : Operation}
    {posting : Posting}
    (change : Change books.accounts.find? operation posting) :
    ∃ written,
      (posting.write clock books).journal.records.toList =
          books.journal.records.toList ++ written ∧
        Writes operation (.ok (posting.outcome clock books)) written := by
  cases change with
  | deposited | withdrawn | notWithdrawn | transferred | notTransferred =>
    exact ⟨_, Array.toList_push, .movement rfl⟩
  | credited =>
    refine ⟨_, Array.toList_push, .other rfl nofun ?_⟩
    intro record mem
    rw [List.mem_singleton.1 mem]
    exact ⟨rfl, _, rfl⟩
  | opened | closed | notCredited | limited =>
    exact ⟨[], (List.append_nil _).symm, .other rfl nofun nofun⟩

theorem Credits.writes {clock : Clock} {books books' : Books}
    {ids : List AccountId} {records : List Record}
    (credits : Credits clock books ids records books') :
    ∃ written,
      books'.journal.records.toList = books.journal.records.toList ++ written ∧
        ∀ record ∈ written, record.OfInterest := by
  induction credits with
  | done => exact ⟨[], (List.append_nil _).symm, nofun⟩
  | passed _ ih => exact ih
  | @credited books books' id ids records posting change _ ih =>
    obtain ⟨first, first_eq, writes⟩ := change.writes clock
    obtain ⟨later, later_eq, later_interest⟩ := ih
    have first_interest := writes.ofInterest rfl
    refine ⟨first ++ later, ?_, ?_⟩
    · rw [later_eq, first_eq, List.append_assoc]
    · intro record mem
      rcases List.mem_append.1 mem with mem | mem
      · exact first_interest record mem
      · exact later_interest record mem

/-- What an operation adds to the journal. -/
theorem Performs.writes {clock : Clock} {books books' : Books}
    {operation : Operation} {answer : Except Fault Outcome}
    (performs : Performs clock books operation answer books') :
    ∃ written,
      books'.journal.records.toList = books.journal.records.toList ++ written ∧
        Writes operation answer written := by
  cases performs with
  | refused fault => exact ⟨[], (List.append_nil _).symm, .nothing fault⟩
  | posted change => exact change.writes clock
  | creditedAll credits =>
    obtain ⟨written, grown, of_interest⟩ := credits.writes
    exact ⟨written, grown, .other rfl nofun of_interest⟩

/-- An operation that is refused changes nothing. -/
theorem Performs.eq_of_refused {clock : Clock} {books books' : Books}
    {operation : Operation} {fault : Fault}
    (performs : Performs clock books operation (.error fault) books') :
    books' = books := by
  cases performs
  rfl

/-- A failed record is attached to the account that was to give the money. -/
theorem Posting.attachIf_of_failed {record : Record} {source : AccountId}
    (failed : record.status = .failed)
    (gives : record.movement.source? = some source) (account : Account) :
    attachIf record account =
      if account.id = source then account.attach record.number
        else account := by
  have concerned : account.id ∈ record.concerned ↔ account.id = source := by
    rw [Record.mem_concerned_iff, failed, gives, Option.some.injEq]
    simp only [reduceCtorEq, false_and, or_false]
    exact eq_comm
  unfold attachIf
  by_cases same : account.id = source
  · rw [if_pos (concerned.2 same), if_pos same]
  · rw [if_neg (fun mem => same (concerned.1 mem)), if_neg same]

/-- What a failed posting that gives every account the balance it has makes of
the accounts. -/
theorem Posting.find?_write_of_kept {clock : Clock} {books : Books}
    {balances : List (AccountId × Decimal)} {transaction : Transaction}
    {source : AccountId} (gives : transaction.movement.source? = some source)
    (kept : ∀ id account, books.accounts.find? id = some account →
      (balances.lookup id).getD account.balance = account.balance)
    (id : AccountId) :
    ((moved balances transaction .failed).write clock books).accounts.find? id =
      (books.accounts.find? id).map fun account =>
        if id = source then
          account.attach (sealed clock books.journal transaction .failed).number
        else account := by
  rw [find?_write_moved]
  cases found : books.accounts.find? id with
  | none => rfl
  | some account =>
    have account_id : account.id = id := Register.find?_id found
    rw [Option.map_some, Option.map_some,
      settle_of_kept (account_id ▸ kept id account found),
      attachIf_of_failed rfl gives, account_id]

/-- What a failed movement makes of the accounts: the one that was to give the
money gets the record, and no balance changes. -/
theorem Performs.find?_of_failed {clock : Clock} {books books' : Books}
    {operation : Operation} {record : Record}
    (performs : Performs clock books operation (.ok (.recorded record)) books')
    (failed : record.status = .failed) :
    ∃ source account, record.movement.source? = some source ∧
      books.accounts.find? source = some account ∧
      ∀ id, books'.accounts.find? id = (books.accounts.find? id).map
        fun account =>
          if id = source then account.attach record.number else account := by
  generalize answered : Except.ok (Outcome.recorded record) = answer at performs
  cases performs with
  | refused fault => cases answered
  | creditedAll credits => cases answered
  | posted change =>
    cases change with
    | deposited | withdrawn | transferred =>
      cases answered
      cases failed
    | opened | closed | credited | notCredited | limited => cases answered
    | @notWithdrawn source amount account fault valid found refusal by_rule =>
      cases answered
      refine ⟨source, account, rfl, found, Posting.find?_write_of_kept rfl ?_⟩
      apply Posting.kept_of_own
      simp only [List.forall_mem_singleton, found, Option.map_some]
    | @notTransferred source destination amount a b fault valid different
        a_found b_found refusal by_rule =>
      cases answered
      refine ⟨source, a, rfl, a_found, Posting.find?_write_of_kept rfl ?_⟩
      apply Posting.kept_of_own
      rw [List.forall_mem_cons, List.forall_mem_singleton, a_found, b_found]
      exact ⟨rfl, rfl⟩

/-! ## Actions that move money -/

/-- The actions that move money, with the names of the movements. -/
def moneyActions : List (String × String) :=
  [("DEPOSIT", "deposit"), ("WITHDRAW", "withdraw"), ("TRANSFER", "transfer")]

/-- Whether an entry is of an action that was carried out. -/
def AuditEntry.carries (entry : AuditEntry) (action : String) : Bool :=
  entry.verdict == .completed && entry.action == action

/-- Whether a record is of a movement that was carried out. -/
def Record.carries (record : Record) (name : String) : Bool :=
  record.isCompleted && record.movement.name == name

/-- An operation is of an action that moves money exactly if it asks for such a
movement. -/
theorem Operation.action_eq_iff {action name : String}
    (mem : (action, name) ∈ moneyActions) (operation : Operation) :
    operation.action = action ↔
      operation.movement?.map Movement.name = some name := by
  simp only [moneyActions, List.mem_cons, List.not_mem_nil, or_false,
    Prod.mk.injEq] at mem
  rcases mem with ⟨rfl, rfl⟩ | ⟨rfl, rfl⟩ | ⟨rfl, rfl⟩ <;>
    cases operation <;> simp [action, movement?, Movement.name]

theorem Record.OfInterest.not_carries {record : Record}
    (of_interest : record.OfInterest) {action name : String}
    (mem : (action, name) ∈ moneyActions) : record.carries name = false := by
  obtain ⟨completed, id, movement_eq⟩ := of_interest
  have name_ne : ("interest" == name) = false := by
    simp only [moneyActions, List.mem_cons, List.not_mem_nil, or_false,
      Prod.mk.injEq] at mem
    rcases mem with ⟨-, rfl⟩ | ⟨-, rfl⟩ | ⟨-, rfl⟩ <;> decide
  unfold carries
  rw [movement_eq]
  show (_ && "interest" == name) = false
  rw [name_ne, Bool.and_false]

/-! ## The gate -/

/-- A principal who is turned away has no access. -/
theorem Access.category_of_authorize {ownerOf? : AccountId → Option OwnerId}
    {principal : Principal} {operation : Operation} {fault : Fault}
    (refused : authorize ownerOf? principal operation = .error fault) :
    fault.category = .accessDenied := by
  have use_category : ∀ id, checkUse ownerOf? principal id = .error fault →
      fault.category = .accessDenied := by
    intro id refused
    unfold checkUse at refused
    split at refused
    · cases refused
    · cases refused
      rfl
  have administrator_category : ∀ action,
      checkAdministrator principal action = .error fault →
        fault.category = .accessDenied := by
    intro action refused
    unfold checkAdministrator at refused
    split at refused
    · cases refused
    · cases refused
      rfl
  cases operation with
  | deposit id | withdraw id | transfer id => exact use_category id refused
  | openAccount | closeAccount | creditInterest | setLimit =>
    exact administrator_category _ refused

/-! ## Verdicts -/

namespace Desk

theorem verdict_recorded (record : Record) :
    verdict (.ok (.recorded record)) =
      match record.status with
      | .completed => .completed
      | .failed => .failed := by
  unfold verdict
  dsimp only
  unfold Record.isCompleted
  cases record.status <;> rfl

theorem verdict_of_unrecorded {outcome : Outcome}
    (unrecorded : ∀ record, outcome ≠ .recorded record) :
    verdict (.ok outcome) = .completed := by
  cases outcome with
  | recorded record => exact absurd rfl (unrecorded record)
  | opened | closed | credited | limited => rfl

/-- A fault is a denial or a rejection by its category. -/
theorem verdict_error (fault : Fault) :
    verdict (.error fault) =
      if fault.category = .accessDenied then .denied else .rejected := rfl

variable {answer : Except Fault Outcome}

theorem verdict_eq_denied_iff :
    verdict answer = .denied ↔
      ∃ fault, answer = .error fault ∧ fault.category = .accessDenied := by
  cases answer with
  | error fault => simp [verdict_error]
  | ok outcome =>
    cases outcome with
    | recorded record =>
      cases status : record.status <;> simp [verdict_recorded, status]
    | opened | closed | credited | limited => simp [verdict]

theorem verdict_eq_rejected_iff :
    verdict answer = .rejected ↔
      ∃ fault, answer = .error fault ∧ fault.category ≠ .accessDenied := by
  cases answer with
  | error fault => simp [verdict_error]
  | ok outcome =>
    cases outcome with
    | recorded record =>
      cases status : record.status <;> simp [verdict_recorded, status]
    | opened | closed | credited | limited => simp [verdict]

theorem verdict_eq_failed_iff :
    verdict answer = .failed ↔
      ∃ record, answer = .ok (.recorded record) ∧ record.status = .failed := by
  cases answer with
  | error fault =>
    by_cases denied : fault.category = .accessDenied <;>
      simp [verdict_error, denied]
  | ok outcome =>
    cases outcome with
    | recorded record =>
      cases status : record.status <;> simp [verdict_recorded, status]
    | opened | closed | credited | limited => simp [verdict]

end Desk

/-! ## How records and entries are counted -/

namespace Writes

variable {operation : Operation} {answer : Except Fault Outcome}
  {records : List Record}

/-- A command adds as many failed records as entries. -/
theorem countP_failed (writes : Writes operation answer records)
    {entry : AuditEntry} (verdict_eq : entry.verdict = Desk.verdict answer) :
    records.countP (·.status == .failed) =
      [entry].countP (·.verdict == .failed) := by
  rw [List.countP_singleton, verdict_eq]
  cases writes with
  | nothing fault =>
    rw [Desk.verdict_error]
    by_cases denied : fault.category = .accessDenied <;> simp [denied]
  | @movement record asked =>
    rw [List.countP_singleton, Desk.verdict_recorded]
    cases record.status <;> rfl
  | other unasked unrecorded of_interest =>
    rw [Desk.verdict_of_unrecorded unrecorded]
    apply List.countP_eq_zero.2
    intro record mem
    rw [(of_interest record mem).1]
    decide

/-- A command adds as many records of a movement that was carried out as entries
of the action that asks for it. -/
theorem countP_carries {action name : String}
    (mem : (action, name) ∈ moneyActions)
    (writes : Writes operation answer records) {entry : AuditEntry}
    (verdict_eq : entry.verdict = Desk.verdict answer)
    (action_eq : entry.action = operation.action) :
    records.countP (·.carries name) = [entry].countP (·.carries action) := by
  have asks := Operation.action_eq_iff mem operation
  rw [List.countP_singleton]
  unfold AuditEntry.carries
  rw [verdict_eq, action_eq]
  cases writes with
  | nothing fault =>
    rw [Desk.verdict_error]
    by_cases denied : fault.category = .accessDenied <;> simp [denied]
  | @movement record asked =>
    rw [asked, Option.map_some, Option.some.injEq] at asks
    have named_eq : (operation.action == action) =
        (record.movement.name == name) := by
      rw [Bool.eq_iff_iff, beq_iff_eq, beq_iff_eq]
      exact asks
    rw [List.countP_singleton, Desk.verdict_recorded, named_eq]
    unfold Record.carries Record.isCompleted
    cases record.status <;> rfl
  | other unasked unrecorded of_interest =>
    rw [unasked, Option.map_none] at asks
    have action_ne : (operation.action == action) = false := by
      rw [beq_eq_false_iff_ne]
      intro eq
      cases asks.1 eq
    rw [action_ne, Bool.and_false]
    apply List.countP_eq_zero.2
    intro record record_mem
    rw [(of_interest record record_mem).not_carries mem]
    decide

end Writes

namespace Desk

open Bookkeeping Transact

variable {β : Type} [Bookkeeping β]

/-- What the gate says to a command. -/
def gate (desk : Desk β) (command : Command) : Except Fault Unit :=
  Access.authorize (ownerOf? desk.books) command.principal command.operation

/-- What the ledger answers to a command, if it gets that far. -/
def engine (clock : Clock) (desk : Desk β) (command : Command) :
    Except Fault Outcome :=
  answer ((perform clock command.operation).run desk.books)

/-- The entry that a command gets. -/
def entryOf (clock : Clock) (desk : Desk β) (command : Command) :
    AuditEntry where
  time := clock.audit desk.trail.size
  principal := command.principal.text
  action := command.operation.action
  details := command.operation.text
  verdict := verdict (desk.execute clock command).1

/-- A command that is turned away gets the fault of the gate, and every other
the answer of the ledger. -/
theorem answer_execute (clock : Clock) (desk : Desk β) (command : Command) :
    (desk.execute clock command).1 =
      match desk.gate command with
      | .error fault => .error fault
      | .ok _ => desk.engine clock command := by
  show answer ((attempt clock command).run desk.books) = _
  rw [run_attempt]
  unfold gate
  cases Access.authorize (ownerOf? desk.books) command.principal
    command.operation <;> rfl

/-! ## What an entry tells -/

/-- The records that a command adds to the journal. -/
def written (clock : Clock) (before : Desk β) (command : Command) :
    List Record :=
  (journal (before.execute clock command).2.books).records.toList.drop
    (journal before.books).size

/--
Whether an entry tells what a command was and what became of it, where its
verdict goes with what the gate said, what the ledger answered, and what is in
the books then.
-/
structure Told (clock : Clock) (before : Desk β) (command : Command)
    (entry : AuditEntry) : Prop where
  principal : entry.principal = command.principal.text
  action : entry.action = command.operation.action
  details : entry.details = command.operation.text
  denied : entry.verdict = .denied ↔
    ∃ fault, before.gate command = .error fault
  rejected : entry.verdict = .rejected ↔
    before.gate command = .ok () ∧
      ∃ fault, before.engine clock command = .error fault
  failed : entry.verdict = .failed ↔
    ∃ record ∈ before.written clock command, record.status = .failed
  completed : entry.verdict = .completed ↔
    before.gate command = .ok () ∧
      (∃ outcome, before.engine clock command = .ok outcome) ∧
        ∀ record ∈ before.written clock command, record.status = .completed
  /-- The journal keeps what it has. -/
  grown : (journal (before.execute clock command).2.books).records.toList =
    (journal before.books).records.toList ++ before.written clock command
  /-- What was denied or rejected has changed neither accounts nor journal. -/
  untouched : entry.verdict = .denied ∨ entry.verdict = .rejected →
    Bookkeeping.books (before.execute clock command).2.books =
      Bookkeeping.books before.books
  /-- What failed has changed no balance, and is in one history. -/
  failure : entry.verdict = .failed →
    ∃ record source account, before.written clock command = [record] ∧
      record.status = .failed ∧ record.movement.source? = some source ∧
      (accounts before.books).find? source = some account ∧
      ∀ id, (accounts (before.execute clock command).2.books).find? id =
        ((accounts before.books).find? id).map fun account =>
          if id = source then account.attach record.number else account

variable {clock : Clock} {desk : Desk β} {command : Command}

/-- What the journal has more of was written by the command. -/
theorem written_eq {records : List Record}
    (grown : (journal (desk.execute clock command).2.books).records.toList =
      (journal desk.books).records.toList ++ records) :
    desk.written clock command = records := by
  unfold written
  rw [grown]
  exact List.drop_left

theorem writes_written [Lawful β] (clock : Clock) (desk : Desk β)
    (command : Command) :
    (journal (desk.execute clock command).2.books).records.toList =
        (journal desk.books).records.toList ++ desk.written clock command ∧
      Writes command.operation (desk.execute clock command).1
        (desk.written clock command) := by
  obtain ⟨records, grown, writes⟩ :=
    (performs_execute clock desk command).writes
  rw [written_eq grown]
  exact ⟨grown, writes⟩

/-- The ledger's refusals are not mistaken for those of the gate. -/
theorem denied_iff [Impartial β] :
    verdict (desk.execute clock command).1 = .denied ↔
      ∃ fault, desk.gate command = .error fault := by
  rw [verdict_eq_denied_iff, answer_execute]
  cases refused : desk.gate command with
  | error fault =>
    simp only [Except.error.injEq, exists_eq_left', exists_eq', iff_true]
    exact Access.category_of_authorize refused
  | ok _ =>
    simp only [reduceCtorEq, exists_false, iff_false, not_exists, not_and]
    intro fault answered
    exact (Impartial.yields_perform clock command.operation desk.books fault
      answered).1

theorem rejected_iff [Impartial β] :
    verdict (desk.execute clock command).1 = .rejected ↔
      desk.gate command = .ok () ∧
        ∃ fault, desk.engine clock command = .error fault := by
  rw [verdict_eq_rejected_iff, answer_execute]
  cases refused : desk.gate command with
  | error fault =>
    have category := Access.category_of_authorize refused
    simp [category]
  | ok _ =>
    simp only [true_and]
    constructor
    · rintro ⟨fault, answered, -⟩
      exact ⟨fault, answered⟩
    · rintro ⟨fault, answered⟩
      exact ⟨fault, answered, (Impartial.yields_perform clock command.operation
        desk.books fault answered).1⟩

/-- An answer fails exactly if a failed record goes with it. -/
theorem failed_iff [Lawful β] :
    verdict (desk.execute clock command).1 = .failed ↔
      ∃ record ∈ desk.written clock command, record.status = .failed := by
  rw [verdict_eq_failed_iff]
  have writes := (writes_written clock desk command).2
  generalize (desk.execute clock command).1 = answer at writes
  generalize desk.written clock command = records at writes
  cases writes with
  | nothing fault => simp
  | movement asked => simp
  | other unasked unrecorded of_interest =>
    constructor
    · rintro ⟨record, answered, -⟩
      exact absurd (Except.ok.inj answered) (unrecorded record)
    · rintro ⟨record, mem, failed⟩
      rw [(of_interest record mem).1] at failed
      cases failed

theorem completed_iff [Lawful β] [Impartial β] :
    verdict (desk.execute clock command).1 = .completed ↔
      desk.gate command = .ok () ∧
        (∃ outcome, desk.engine clock command = .ok outcome) ∧
          ∀ record ∈ desk.written clock command,
            record.status = .completed := by
  have others : ∀ verdict : Verdict, verdict = .completed ↔
      verdict ≠ .denied ∧ verdict ≠ .rejected ∧ verdict ≠ .failed := by
    intro verdict
    cases verdict <;> decide
  have not_failed : ∀ record : Record,
      record.status ≠ .failed ↔ record.status = .completed := by
    intro record
    cases record.status <;> decide
  -- It is the verdict that is left when the other three are ruled out.
  rw [others, ne_eq, ne_eq, ne_eq, denied_iff, rejected_iff, failed_iff]
  simp only [not_exists, not_and, ← ne_eq, not_failed]
  cases gate : desk.gate command with
  | error fault => simp
  | ok _ => cases engine : desk.engine clock command <;> simp

/-- The entry of a command tells what became of it. -/
theorem told_entryOf [Lawful β] [Impartial β] (clock : Clock) (desk : Desk β)
    (command : Command) :
    Told clock desk command (desk.entryOf clock command) where
  principal := rfl
  action := rfl
  details := rfl
  denied := denied_iff
  rejected := rejected_iff
  failed := failed_iff
  completed := completed_iff
  grown := (writes_written clock desk command).1
  untouched := by
    intro refused
    have performs := performs_execute clock desk command
    have is_fault : ∃ fault, (desk.execute clock command).1 = .error fault := by
      rcases refused with denied | rejected
      · obtain ⟨fault, answered, -⟩ := verdict_eq_denied_iff.1 denied
        exact ⟨fault, answered⟩
      · obtain ⟨fault, answered, -⟩ := verdict_eq_rejected_iff.1 rejected
        exact ⟨fault, answered⟩
    obtain ⟨fault, answered⟩ := is_fault
    rw [answered] at performs
    exact performs.eq_of_refused
  failure := by
    intro failed
    obtain ⟨record, answered, record_failed⟩ := verdict_eq_failed_iff.1 failed
    have performs := performs_execute clock desk command
    have writes := (writes_written clock desk command).2
    rw [answered] at performs writes
    obtain ⟨source, account, gives, found, others⟩ :=
      performs.find?_of_failed record_failed
    exact ⟨record, source, account, writes.of_recorded.2, record_failed, gives,
      found, others⟩

/-! ## Any number of commands -/

/-- An entry stays where it is. -/
theorem entries_kept (clock : Clock) (desk : Desk β) (commands : List Command)
    {i : Nat} {entry : AuditEntry}
    (noted : desk.trail.entries[i]? = some entry) :
    (desk.executeAll clock commands).2.trail.entries[i]? = some entry := by
  induction commands generalizing desk with
  | nil => exact noted
  | cons command rest ih =>
    apply ih
    show (desk.trail.entries.push (desk.entryOf clock command))[i]? = some entry
    obtain ⟨inside, -⟩ := Array.getElem?_eq_some_iff.1 noted
    rw [Array.getElem?_push, if_neg (Nat.ne_of_lt inside), noted]

/-- The commands of a sequence get their entries in order. -/
theorem entries_executeAll (clock : Clock) (desk : Desk β)
    (commands : List Command) {n : Nat} (inside : n < commands.length) :
    (desk.executeAll clock commands).2.trail.entries[desk.trail.size + n]? =
      some ((desk.executeAll clock (commands.take n)).2.entryOf clock
        commands[n]) := by
  induction commands generalizing desk n with
  | nil => cases inside
  | cons command rest ih =>
    cases n with
    | zero =>
      apply entries_kept clock (desk.execute clock command).2 rest
      exact Array.getElem?_push_size
    | succ n =>
      have later := ih (desk.execute clock command).2
        (Nat.lt_of_succ_lt_succ inside)
      rw [trail_execute, Nat.add_right_comm] at later
      exact later

theorem size_trail_executeAll (clock : Clock) (desk : Desk β)
    (commands : List Command) :
    (desk.executeAll clock commands).2.trail.size =
      desk.trail.size + commands.length := by
  induction commands generalizing desk with
  | nil => rfl
  | cons command rest ih =>
    have later := ih (desk.execute clock command).2
    rw [trail_execute, Nat.add_right_comm] at later
    exact later

/-! ## Counts -/

/-- Whether there are as many entries of a verdict, or of an action that was
carried out, as there are records of that. -/
structure Tallied (desk : Desk β) : Prop where
  failed : desk.trail.count .failed =
    (journal desk.books).records.toList.countP (·.status == .failed)
  carried : ∀ action name, (action, name) ∈ moneyActions →
    desk.trail.entries.toList.countP (·.carries action) =
      (journal desk.books).records.toList.countP (·.carries name)

/-- A command adds as much to the one count as to the other. -/
theorem Tallied.execute [Lawful β] {desk : Desk β} (tallied : Tallied desk)
    (clock : Clock) (command : Command) :
    Tallied (desk.execute clock command).2 := by
  obtain ⟨grown, writes⟩ := writes_written clock desk command
  have entries_eq : (desk.execute clock command).2.trail.entries.toList =
      desk.trail.entries.toList ++ [desk.entryOf clock command] :=
    Array.toList_push
  constructor
  · show List.countP _ (desk.execute clock command).2.trail.entries.toList = _
    rw [entries_eq, grown, List.countP_append, List.countP_append,
      ← writes.countP_failed (rfl : (desk.entryOf clock command).verdict = _)]
    exact congrArg (· + _) tallied.failed
  · intro action name mem
    rw [entries_eq, grown, List.countP_append, List.countP_append,
      writes.countP_carries mem
        (rfl : (desk.entryOf clock command).verdict = _) rfl,
      tallied.carried action name mem]

theorem Tallied.executeAll [Lawful β] {desk : Desk β} (tallied : Tallied desk)
    (clock : Clock) (commands : List Command) :
    Tallied (desk.executeAll clock commands).2 := by
  induction commands generalizing desk with
  | nil => exact tallied
  | cons command rest ih => exact ih (tallied.execute clock command)

/-- Whether the trail at the end of a sequence of commands has an entry for each
of them, in order, that tells what became of it, and as many of each sort as the
journal has records. -/
structure Accounted (clock : Clock) (desk : Desk β) (commands : List Command) :
    Prop where
  size : (desk.executeAll clock commands).2.trail.size = commands.length
  told : ∀ n (inside : n < commands.length), ∃ entry,
    (desk.executeAll clock commands).2.trail.entries[n]? = some entry ∧
      Told clock (desk.executeAll clock (commands.take n)).2 commands[n] entry
  tallied : Tallied (desk.executeAll clock commands).2

/-- From an empty trail and an empty journal on, the trail accounts for every
command. -/
theorem accounted_of_blank [Lawful β] [Impartial β] (clock : Clock)
    {desk : Desk β} (no_entries : desk.trail.size = 0)
    (no_records : (journal desk.books).size = 0) (commands : List Command) :
    Accounted clock desk commands where
  size := by rw [size_trail_executeAll, no_entries, Nat.zero_add]
  told := by
    intro n inside
    refine ⟨_, ?_, told_entryOf clock _ _⟩
    have noted := entries_executeAll clock desk commands inside
    rwa [no_entries, Nat.zero_add] at noted
  tallied := by
    have entries_nil : desk.trail.entries = #[] :=
      Array.eq_empty_of_size_eq_zero no_entries
    have records_nil : (journal desk.books).records = #[] :=
      Array.eq_empty_of_size_eq_zero no_records
    have start : Tallied desk := by
      constructor
      · unfold AuditTrail.count
        rw [entries_nil, records_nil]
        rfl
      · intro action name _
        rw [entries_nil, records_nil]
        rfl
    exact start.executeAll clock commands

end Desk

/-- On either ledger the trail accounts for every command. -/
theorem accounted_executeAll (clock : Clock) (commands : List Command) :
    (∀ desk : Desk Ledger, desk.trail.size = 0 → desk.books.journal.size = 0 →
      desk.Accounted clock commands) ∧
      ∀ desk : Desk SharedLedger, desk.trail.size = 0 →
        desk.books.journal.size = 0 → desk.Accounted clock commands :=
  ⟨fun _ no_entries no_records =>
      Desk.accounted_of_blank clock no_entries no_records commands,
    fun _ no_entries no_records =>
      Desk.accounted_of_blank clock no_entries no_records commands⟩

/-- Commands with a verdict of each sort: an account is opened, somebody without
a right takes money out, the owner takes out more than there is, and some other
account is to be closed. -/
def everyVerdict (id other : AccountId) (owner : OwnerId) : List Command :=
  [⟨.administrator, .openAccount (some id) owner (.savings .zero)⟩,
    ⟨.anonymous, .withdraw id .one⟩,
    ⟨.holder owner, .withdraw id .one⟩,
    ⟨.administrator, .closeAccount other⟩]

theorem accounted_executeAll_everyVerdict :
    let commands := everyVerdict ⟨1, by decide⟩ ⟨2, by decide⟩ ⟨1, by decide⟩
    (Desk.empty : Desk Ledger).trail.size = 0 ∧
      (Desk.empty : Desk Ledger).books.journal.size = 0 ∧
      (Desk.empty : Desk Ledger).Accounted (.still default) commands ∧
      (Desk.empty : Desk SharedLedger).trail.size = 0 ∧
      (Desk.empty : Desk SharedLedger).books.journal.size = 0 ∧
      (Desk.empty : Desk SharedLedger).Accounted (.still default) commands :=
  ⟨rfl, rfl, (accounted_executeAll (.still default) _).1 .empty rfl rfl,
    rfl, rfl, (accounted_executeAll (.still default) _).2 .empty rfl rfl⟩

end Passbook
