import Passbook.Desk
import Passbook.Proofs.Bare
import Passbook.Proofs.History
import Passbook.Proofs.Picture

/-!
# A shared ledger does what its picture does

An operation with a footprint makes of a ledger something that looks like what
it makes of the ledger's picture, at any reading of the clock. It follows that
two ledgers that look alike still do after the same operation, and that answers
look alike as well.

## Main results

* `picture_perform` — an operation with a footprint, on a ledger and on its
  picture.
* `scene_execute` — a command with a footprint, at a desk and on what the desk
  looks like.
-/

namespace Passbook.SharedLedger

open Bookkeeping Transact Posting

variable {ledger : SharedLedger} {clock : Clock}

/-- The ledger after a posting. -/
def posted (clock : Clock) (ledger : SharedLedger) (posting : Posting) :
    SharedLedger :=
  { ledger.withBooks (posting.write clock (books ledger)) with
    counter := max ledger.counter posting.raised }

theorem find?_picture (ledger : SharedLedger) :
    ledger.picture.find? = Operation.bared ledger.accounts.find? := by
  funext id
  show ((ledger.accounts.find? id).map _).map _ = _
  rw [Option.map_map]
  rfl

theorem decide_picture (ledger : SharedLedger) {operation : Operation}
    {posting : Except Fault Posting}
    (posts : operation.posting? ledger.accounts.find?
      (opening ledger.accounts.find?) =
      some posting) :
    ledger.picture.decide operation = posting.map Posting.bare := by
  unfold Picture.decide
  rw [find?_picture, Operation.posting?_bared, posts]
  rfl

/-! ## What a posting makes of the picture -/

theorem concerned_sealed (clock : Clock) (journal : Journal)
    (transaction : Transaction) (status : Status) :
    (sealed clock journal transaction status).concerned =
      (Content.mk transaction status).concerned := by
  cases status <;> rfl

/-- What an account looks like after a movement. -/
theorem portrait_settle (clock : Clock) {journal : Journal} {account : Account}
    (holds : journal.Holds account.history)
    (balances : List (AccountId × Decimal))
    (transaction : Transaction) (status : Status) :
    (settle balances (sealed clock journal transaction status) account).portrait
        (journal.commit (clock.journal journal.size) transaction status).2 =
      { account.portrait journal with
        balance := (balances.lookup account.id).getD account.balance
        records :=
          if account.id ∈ (Content.mk transaction status).concerned then
            (account.portrait journal).records ++ [⟨transaction, status⟩]
          else (account.portrait journal).records } := by
  unfold settle attachIf
  rw [rebalance_id, concerned_sealed]
  by_cases concerned : account.id ∈ (Content.mk transaction status).concerned
  · have selected := Journal.select_push_commit (clock.journal journal.size)
      transaction status holds
    rw [if_pos concerned, if_pos concerned]
    unfold Account.portrait Account.attach rebalance sealed
    dsimp only
    rw [selected, List.map_append]
    rfl
  · have selected := Journal.select_commit (clock.journal journal.size)
      transaction status holds
    rw [if_neg concerned, if_neg concerned]
    unfold Account.portrait rebalance
    dsimp only
    rw [selected]

/-- What the account under an id looks like after a posting. -/
theorem portrait?_write (clock : Clock) {books : Books}
    (numbered : books.Numbered) {posting : Posting}
    (unused : ∀ account, posting = .opened account → account.history = #[])
    (id : AccountId) :
    ((posting.write clock books).accounts.find? id).map
        (Account.portrait (posting.write clock books).journal) =
      posting.bare.redraw id
        ((books.accounts.find? id).map (Account.portrait books.journal)) := by
  cases posting with
  | opened account =>
    show ((books.accounts.insert account).find? id).map
      (Account.portrait books.journal) = _
    rw [Register.find?_insert]
    simp only [bare, redraw]
    by_cases same : account.id = id
    · rw [if_pos same, if_pos same.symm, Option.map_some, Account.portrait,
        unused account rfl]
      rfl
    · rw [if_neg same, if_neg (Ne.symm same)]
  | closed other account =>
    show ((books.accounts.erase other).find? id).map
      (Account.portrait books.journal) = _
    rw [Register.find?_erase]
    simp only [bare, redraw]
    by_cases same : id = other
    · rw [if_pos same, if_pos same]
      rfl
    · rw [if_neg same, if_neg same]
  | amended other kind balance outcome =>
    rw [find?_write_amended]
    simp only [bare, redraw]
    show Option.map _ (Option.map _ (books.accounts.find? id)) = _
    cases found : books.accounts.find? id with
    | none => split <;> rfl
    | some account =>
      have account_id : account.id = id := Register.find?_id found
      simp only [Option.map_some, Register.only, account_id]
      split <;> rfl
  | moved balances transaction status =>
    rw [find?_write_moved]
    simp only [bare, redraw]
    show Option.map _ (Option.map _ (books.accounts.find? id)) = _
    cases found : books.accounts.find? id with
    | none => rfl
    | some account =>
      have account_id : account.id = id := Register.find?_id found
      have settled := portrait_settle clock (numbered id account found) balances
        transaction status
      rw [account_id] at settled
      exact congrArg some settled

theorem contents_write (books : Books) (posting : Posting) :
    (((posting.write clock books).journal.records.toList.map Record.content :
      List Content) :
        Multiset Content) =
      posting.bare.contents +
        (books.journal.records.toList.map Record.content : List Content) := by
  cases posting with
  | moved balances transaction status =>
    show (((books.journal.records.push _).toList.map Record.content :
      List Content) :
      Multiset Content) = _
    rw [Array.toList_push, List.map_append, ← Multiset.coe_add,
      Multiset.add_comm]
    rfl
  | opened | closed | amended => exact (Multiset.zero_add _).symm

/-- What a ledger looks like after a posting. -/
theorem picture_posted (clock : Clock) (numbered : (books ledger).Numbered)
    {posting : Posting}
    (unused : ∀ account, posting = .opened account → account.history = #[]) :
    (ledger.posted clock posting).picture =
      ledger.picture.post posting.bare := by
  have raised_bare : posting.bare.raised = posting.raised := by
    cases posting <;> rfl
  have accounts_eq : (ledger.posted clock posting).picture.accounts =
      fun id => posting.bare.redraw id (ledger.picture.accounts id) :=
    funext (portrait?_write clock numbered unused)
  have records_eq : (ledger.posted clock posting).picture.records =
      posting.bare.contents + ledger.picture.records :=
        contents_write (books ledger) posting
  show Picture.mk (ledger.posted clock posting).picture.accounts
    (max ledger.counter posting.raised)
    (ledger.posted clock posting).picture.records = _
  rw [accounts_eq, records_eq, ← raised_bare]
  rfl

theorem unused_of_change {find? : AccountId → Option Account}
    {operation : Operation}
    {posting : Posting} (change : Change find? operation posting)
    (account : Account)
    (opened : posting = .opened account) : account.history = #[] := by
  cases change with
  | opened =>
    cases opened
    rfl
  | _ => cases opened

/-- What is seen of the answer to a posting. -/
theorem seen_outcome (clock : Clock) {operation : Operation} {posting : Posting}
    (change : Change ledger.accounts.find? operation posting) :
    (posting.outcome clock (books ledger)).seen
      (ledger.posted clock posting).journal =
      ledger.picture.seen posting.bare := by
  cases change with
  | @closed id account found =>
    have drawn : ledger.picture.accounts id =
        some (account.portrait ledger.journal) := by
      show (ledger.accounts.find? id).map _ = _
      rw [found, Option.map_some]
    show Seen.closed _ = Seen.closed ((ledger.picture.accounts id).getD _)
    rw [drawn]
    rfl
  | _ => rfl

/-! ## Operations -/

/-- A posting that raises no number leaves the counter alone. -/
theorem posted_eq_withBooks {posting : Posting}
    (unraised : posting.raised = 0) :
    ledger.posted clock posting =
      ledger.withBooks (posting.write clock (books ledger)) := by
  have counter_eq : max ledger.counter posting.raised = ledger.counter := by
    rw [unraised]
    apply UInt32.toNat_inj.1
    rw [UInt32.toNat_max]
    exact Nat.max_zero _
  unfold posted
  rw [counter_eq]
  rfl

theorem raised_eq_zero {find? : AccountId → Option Account}
    {operation : Operation}
    {posting : Posting} (change : Change find? operation posting)
    (opens_none : ∀ given owner kind,
      operation ≠ .openAccount given owner kind) :
    posting.raised = 0 := by
  cases change with
  | @opened given owner kind => exact absurd rfl (opens_none given owner kind)
  | _ => rfl

/-- What a ledger with a posting, or with the fault there is instead, is left
as. -/
def decided (clock : Clock) (ledger : SharedLedger) : Except Fault Posting →
    EStateM.Result Fault SharedLedger Outcome
  | .error fault => .error fault ledger
  | .ok posting =>
    .ok (posting.outcome clock (books ledger)) (ledger.posted clock posting)

/-- An operation with a footprint does what is decided for it. -/
theorem run_confined (clock : Clock) (ledger : SharedLedger)
    {operation : Operation} {posting : Except Fault Posting}
    (posts : operation.posting? ledger.accounts.find?
      (opening ledger.accounts.find?) =
      some posting) :
    (perform clock operation).run ledger = ledger.decided clock posting ∧
      ∀ p, posting = .ok p → Change ledger.accounts.find? operation p := by
  by_cases opens : ∃ given owner kind, operation = .openAccount given owner kind
  · obtain ⟨given, owner, kind, rfl⟩ := opens
    cases given with
    | none => cases posts
    | some id =>
      have decision : opening ledger.accounts.find? id owner kind = posting :=
        Option.some.inj posts
      constructor
      · show (Outcome.opened <$> openAs id owner kind :
          Transact SharedLedger Outcome).run ledger = _
        rw [run_map, run_openAs clock, decision]
        cases posting with
        | error fault => rfl
        | ok p =>
          obtain ⟨-, -, rfl⟩ := opening_eq_ok decision
          rfl
      · rintro p rfl
        obtain ⟨free, valid, rfl⟩ := opening_eq_ok decision
        exact .opened (by simp) free valid
  · have opens_none : ∀ given owner kind,
        operation ≠ .openAccount given owner kind :=
      fun given owner kind eq => opens ⟨given, owner, kind, eq⟩
    have changes : ∀ p, posting = .ok p →
        Change ledger.accounts.find? operation p := by
      rintro p rfl
      exact Change.of_posting? opens_none posts
    refine ⟨?_, changes⟩
    rw [run_perform opens_none posts]
    cases posting with
    | error fault => rfl
    | ok p =>
      have unraised := raised_eq_zero (changes p rfl) opens_none
      rw [carryOut, ← posted_eq_withBooks unraised]
      rfl

/-- An operation with a footprint, on a ledger and on its picture. -/
theorem picture_perform (clock : Clock) {ledger : SharedLedger}
    {operation : Operation} (numbered : (books ledger).Numbered)
    (confined : operation.footprint.isSome = true) :
    let run := (perform clock operation).run ledger
    ((answer run).map (Outcome.seen (state run).journal), (state run).picture) =
      ledger.picture.carryOut (ledger.picture.decide operation) := by
  cases posts : operation.posting? ledger.accounts.find?
    (opening ledger.accounts.find?) with
  | none =>
    rw [Operation.posting?_eq_none_iff] at posts
    rw [posts] at confined
    cases confined
  | some posting =>
    obtain ⟨run_eq, changes⟩ := run_confined clock ledger posts
    intro run
    have run_decided : run = ledger.decided clock posting := run_eq
    rw [run_decided, decide_picture ledger posts]
    cases posting with
    | error fault => rfl
    | ok p =>
      have change := changes p rfl
      have seen := seen_outcome clock change
      have drawn := picture_posted clock numbered (unused_of_change change)
      show (Except.ok _, _) = (Except.ok _, _)
      rw [← drawn, ← seen]
      rfl

end Passbook.SharedLedger

namespace Passbook.Desk

open Bookkeeping Transact

variable {desk : Desk SharedLedger} {command : Command}

/-- What a desk looks like. -/
def scene (desk : Desk SharedLedger) : Scene where
  books := desk.books.picture
  trail := desk.trail.entries.toList.map AuditEntry.line

/-- An attempt asks who may, and then performs. -/
theorem run_attempt {β : Type} [Bookkeeping β] (clock : Clock)
    (command : Command) (ledger : β) :
    (attempt clock command).run ledger =
      match Access.authorize (ownerOf? ledger) command.principal
        command.operation with
      | .error fault => .error fault ledger
      | .ok _ => (perform clock command.operation).run ledger := by
  unfold attempt
  simp only [EStateM.run_bind, EStateM.run_get]
  cases Access.authorize (ownerOf? ledger) command.principal
    command.operation <;> rfl

/-- A command makes of the books what its operation can. -/
theorem performs_execute {β : Type} [Bookkeeping β] [Lawful β] (clock : Clock)
    (desk : Desk β) (command : Command) :
    Performs clock (Bookkeeping.books desk.books) command.operation
      (desk.execute clock command).1
      (Bookkeeping.books (desk.execute clock command).2.books) := by
  show Performs clock (Bookkeeping.books desk.books) command.operation
    (answer ((attempt clock command).run desk.books))
    (Bookkeeping.books (state ((attempt clock command).run desk.books)))
  rw [run_attempt]
  cases Access.authorize (ownerOf? desk.books) command.principal
    command.operation with
  | error fault => exact .refused fault
  | ok _ => exact Lawful.performs clock command.operation desk.books

section Books

variable {β : Type} [Bookkeeping β] {clock : Clock} {desk : Desk β}

/-- A command that is turned away leaves the books. -/
theorem books_execute_of_error {fault : Fault}
    (refused : Access.authorize (ownerOf? desk.books) command.principal
      command.operation = .error fault) :
    (desk.execute clock command).2.books = desk.books := by
  show state ((attempt clock command).run desk.books) = _
  rw [run_attempt, refused]
  rfl

/-- A command that is let pass makes of the books what its operation does. -/
theorem books_execute_of_ok
    (allowed : Access.authorize (ownerOf? desk.books) command.principal
      command.operation = .ok ()) :
    (desk.execute clock command).2.books =
      next clock desk.books command.operation := by
  show state ((attempt clock command).run desk.books) = _
  rw [run_attempt, allowed]
  rfl

theorem reachable_execute (reached : Reachable desk.books) :
    Reachable (desk.execute clock command).2.books := by
  cases allowed : Access.authorize (ownerOf? desk.books) command.principal
    command.operation with
  | error fault =>
    rw [books_execute_of_error allowed]
    exact reached
  | ok _ =>
    rw [books_execute_of_ok allowed]
    exact reached.step clock command.operation

theorem reachable_executeAll (clock : Clock) (commands : List Command)
    {desk : Desk β} (reached : Reachable desk.books) :
    Reachable (desk.executeAll clock commands).2.books := by
  induction commands generalizing desk with
  | nil => exact reached
  | cons command rest ih => exact ih (reachable_execute reached)

end Books

theorem ownerOf?_picture (ledger : SharedLedger) :
    (fun id => (ledger.picture.find? id).map (·.owner)) = ownerOf? ledger := by
  funext id
  rw [SharedLedger.find?_picture]
  show ((ledger.accounts.find? id).map Account.bare).map _ =
    (ledger.accounts.find? id).map _
  rw [Option.map_map]
  rfl

theorem verdict_seen (journal : Journal) (answer : Except Fault Outcome) :
    Seen.verdict (answer.map (Outcome.seen journal)) = verdict answer := by
  cases answer with
  | error fault => rfl
  | ok outcome =>
    cases outcome with
    | recorded record =>
      show (if record.status = .completed then
        _ else _) = if record.isCompleted then _ else _
      unfold Record.isCompleted
      cases record.status <;> rfl
    | opened | closed | credited | limited => rfl

/-- An attempt at a command with a footprint, on a ledger and on its picture. -/
theorem picture_attempt (clock : Clock) {ledger : SharedLedger}
    (numbered : (Bookkeeping.books ledger).Numbered)
    (confined : command.operation.footprint.isSome = true) :
    let run := (attempt clock command).run ledger
    ((answer run).map (Outcome.seen (state run).journal), (state run).picture) =
      ledger.picture.attempt command := by
  intro run
  have run_eq : run = _ := run_attempt clock command ledger
  unfold Picture.attempt Picture.decideFor
  rw [run_eq, ownerOf?_picture]
  cases Access.authorize (ownerOf? ledger) command.principal
    command.operation with
  | error fault => rfl
  | ok _ => exact SharedLedger.picture_perform clock numbered confined

/-- The last line of a trail is that of the last entry. -/
theorem lines_note (trail : AuditTrail) (entry : AuditEntry) :
    (trail.note entry).entries.toList.map AuditEntry.line =
      trail.entries.toList.map AuditEntry.line ++ [entry.line] := by
  show (trail.entries.push entry).toList.map AuditEntry.line = _
  rw [Array.toList_push, List.map_append]
  rfl

/-- What the trail looks like after an entry. -/
theorem coe_lines_note (trail : AuditTrail) (entry : AuditEntry) :
    ((trail.note entry).entries.toList.map AuditEntry.line :
        Multiset AuditLine) =
      {entry.line} + (trail.entries.toList.map AuditEntry.line : List _) := by
  rw [lines_note, ← Multiset.coe_add, Multiset.add_comm]
  rfl

/-- What the trail looks like after a command. -/
theorem trail_scene_execute (clock : Clock) (desk : Desk SharedLedger)
    (command : Command) :
    (desk.execute clock command).2.scene.trail =
      {⟨command.principal.text, command.operation.action,
        command.operation.text,
        verdict (desk.execute clock command).1⟩} + desk.scene.trail :=
  coe_lines_note desk.trail _

/-- A command with a footprint, executed at a desk and on what the desk looks
like. -/
theorem scene_execute (clock : Clock) (desk : Desk SharedLedger)
    (numbered : (Bookkeeping.books desk.books).Numbered)
    (confined : command.operation.footprint.isSome = true) :
    let result := desk.execute clock command
    (result.1.map (Outcome.seen result.2.books.journal), result.2.scene) =
      desk.scene.execute command := by
  have attempted := picture_attempt clock numbered confined
  have answered : (desk.execute clock command).1.map
      (Outcome.seen (desk.execute clock command).2.books.journal) =
        (desk.scene.books.attempt command).1 := congrArg Prod.fst attempted
  have drawn : (desk.execute clock command).2.books.picture =
      (desk.scene.books.attempt command).2 := congrArg Prod.snd attempted
  have traced := trail_scene_execute clock desk command
  rw [← verdict_seen (desk.execute clock command).2.books.journal,
    answered] at traced
  have scene_eq : (desk.execute clock command).2.scene =
      (desk.scene.execute command).2 := by
    show Scene.mk (desk.execute clock command).2.books.picture
      (desk.execute clock command).2.scene.trail =
        (desk.scene.execute command).2
    rw [traced, drawn]
    rfl
  exact Prod.ext answered scene_eq

end Passbook.Desk
