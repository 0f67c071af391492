import Mathlib.Data.Multiset.AddSub
import Passbook.Access
import Passbook.Audit
import Passbook.Proofs.Change
import Passbook.Proofs.SharedLedgerPosting

/-!
# What a ledger looks like

Numbers and times of records depend on who came first, and everything else that
can be seen of a ledger does not. A `Picture` has everything else: of each open
account its owner, kind and balance and what its records say, of the journal
what its records say in no order, and the counter.

Operations with a footprint can be carried out on a picture. What they do there
to an account is decided by the accounts of the footprint and done to these
alone, so operations with disjoint footprints commute.

## Main results

* `decide_congr` — what is decided depends on the accounts of the footprint.
* `carryOut_comm` — postings that touch different accounts commute.
-/

namespace Passbook

/-- What a record says, its number and its time aside. -/
structure Content where
  transaction : Transaction
  status : Status

def Record.content (record : Record) : Content :=
    ⟨record.toTransaction, record.status⟩

/-- The accounts that a record of this content concerns. -/
def Content.concerned (content : Content) : List AccountId :=
  content.transaction.movement.source?.toList ++
    if content.status = .completed then
      content.transaction.movement.destination?.toList else []

theorem Content.mem_concerned {content : Content} {id : AccountId}
    (mem : id ∈ content.concerned) :
    content.transaction.movement.source? = some id ∨
      content.transaction.movement.destination? = some id := by
  rcases List.mem_append.1 mem with source | destination
  · exact Or.inl (Option.mem_toList.1 source)
  · split at destination
    · exact Or.inr (Option.mem_toList.1 destination)
    · cases destination

/-- What an open account looks like. -/
structure Portrait where
  id : AccountId
  owner : OwnerId
  kind : AccountKind
  balance : Decimal
  records : List Content

/-- The account of a portrait, with nothing attached. -/
def Portrait.account (portrait : Portrait) : Account :=
  ⟨portrait.id, portrait.owner, portrait.kind, portrait.balance, #[]⟩

/-- What a shared ledger looks like. -/
structure Picture where
  accounts : AccountId → Option Portrait
  counter : UInt32
  records : Multiset Content

/-- What is seen of an outcome. -/
inductive Seen where
  | opened (account : AccountId)
  | closed (portrait : Portrait)
  | recorded (content : Content)
  | credited (contents : List Content)
  | limited (account : AccountId) (limit : Decimal)

def Account.portrait (journal : Journal) (account : Account) : Portrait :=
  ⟨account.id, account.owner, account.kind, account.balance,
    (journal.select account.history).map Record.content⟩

def Outcome.seen (journal : Journal) : Outcome → Seen
  | opened account => .opened account
  | closed account => .closed (account.portrait journal)
  | recorded record => .recorded record.content
  | credited records => .credited (records.map Record.content)
  | limited account limit => .limited account limit

def SharedLedger.picture (ledger : SharedLedger) : Picture where
  accounts id := (ledger.accounts.find? id).map
    (Account.portrait ledger.journal)
  counter := ledger.counter
  records := ledger.journal.records.toList.map Record.content

/-! ## Postings on a picture -/

namespace Posting

/-- What a posting makes of the portrait under an id. -/
def redraw (id : AccountId) (portrait : Option Portrait) :
    Posting → Option Portrait
  | opened account =>
    if id = account.id then
      some ⟨account.id, account.owner, account.kind, account.balance, []⟩
    else portrait
  | closed other _ => if id = other then none else portrait
  | amended other kind balance _ =>
    if id = other then
      portrait.map fun p => { p with kind, balance } else portrait
  | moved balances transaction status =>
    portrait.map fun p =>
      { p with
        balance := (balances.lookup id).getD p.balance
        records :=
          if id ∈ (Content.mk transaction status).concerned then
            p.records ++ [⟨transaction, status⟩]
          else p.records }

/-- The accounts that a posting touches. -/
def touched : Posting → List AccountId
  | opened account => [account.id]
  | closed id _ | amended id _ _ _ => [id]
  | moved balances transaction _ =>
    balances.map (·.1) ++ transaction.movement.source?.toList ++
      transaction.movement.destination?.toList

/-- What a posting adds to the journal. -/
def contents : Posting → Multiset Content
  | moved _ transaction status => {⟨transaction, status⟩}
  | opened _ | closed .. | amended .. => 0

/-- The number that a posting takes the counter to at least. -/
def raised : Posting → UInt32
  | opened account => UInt32.ofNat account.id.number
  | closed .. | amended .. | moved .. => 0

/-- A movement has no balance for an account that it does not touch, and its
record does not concern it. -/
theorem untouched_moved {balances : List (AccountId × Decimal)}
    {transaction : Transaction} {status : Status} {id : AccountId}
    (apart : id ∉ (moved balances transaction status).touched) :
    balances.lookup id = none ∧
      id ∉ (Content.mk transaction status).concerned := by
  unfold touched at apart
  rw [List.mem_append, List.mem_append, not_or, not_or] at apart
  obtain ⟨⟨no_balance, no_source⟩, no_destination⟩ := apart
  constructor
  · rw [List.lookup_eq_none_iff]
    intro entry mem
    rw [bne_iff_ne]
    intro eq
    exact no_balance (List.mem_map.2 ⟨entry, mem, eq.symm⟩)
  · intro mem
    rcases Content.mem_concerned mem with source | destination
    · exact no_source (Option.mem_toList.2 source)
    · exact no_destination (Option.mem_toList.2 destination)

/-- A posting leaves the accounts alone that it does not touch. -/
theorem redraw_of_not_mem {posting : Posting} {id : AccountId}
    (apart : id ∉ posting.touched)
    (portrait : Option Portrait) : posting.redraw id portrait = portrait := by
  cases posting with
  | opened account | closed other | amended other =>
    have ne : id ≠ _ := fun eq => apart (List.mem_singleton.2 eq)
    exact if_neg ne
  | moved balances transaction status =>
    obtain ⟨unlisted, unconcerned⟩ := untouched_moved apart
    simp only [redraw, unlisted, if_neg unconcerned, Option.getD_none]
    exact Option.map_id_apply

/-- A successful operation touches no account outside its footprint. -/
theorem touched_subset {find? : AccountId → Option Account}
    {operation : Operation} {posting : Posting} {footprint : List AccountId}
    (change : Change find? operation posting)
    (confined : operation.footprint = some footprint) :
    ∀ id ∈ posting.touched, id ∈ footprint := by
  cases change with
  | @opened given owner kind id asked =>
    cases given with
    | none => cases confined
    | some other =>
      cases confined
      rw [asked other rfl]
      exact fun _ mem => mem
  | closed | notCredited | limited =>
    cases confined
    exact fun _ mem => mem
  | deposited | withdrawn | notWithdrawn | credited =>
    cases confined
    simp [touched, Movement.source?, Movement.destination?]
  | transferred | notTransferred =>
    cases confined
    simp [touched, Movement.source?, Movement.destination?]

end Posting

namespace Picture

open Operation

variable {picture other : Picture} {operation : Operation}

/-- The account found in a picture. -/
def find? (picture : Picture) (id : AccountId) : Option Account :=
  (picture.accounts id).map Portrait.account

/-- What an operation with a footprint posts on a picture. -/
def decide (picture : Picture) (operation : Operation) : Except Fault Posting :=
  (operation.posting? picture.find? (SharedLedger.opening picture.find?)).getD
    (.error .idsExhausted)

/-- A picture after a posting. -/
def post (picture : Picture) (posting : Posting) : Picture where
  accounts id := posting.redraw id (picture.accounts id)
  counter := max picture.counter posting.raised
  records := posting.contents + picture.records

/-- What is seen of the answer to an operation that made a posting. -/
def seen (picture : Picture) : Posting → Seen
  | .opened account => .opened account.id
  | .closed id account =>
    .closed ((picture.accounts id).getD (account.portrait .empty))
  | .amended _ _ _ outcome => outcome.seen .empty
  | .moved _ transaction status =>
    match transaction.movement with
    | .interest _ => .credited [⟨transaction, status⟩]
    | .deposit _ | .withdrawal _ | .transfer .. =>
      .recorded ⟨transaction, status⟩

/-- A picture, and what is seen of the answer, after a posting or the fault
there is instead. -/
def carryOut (picture : Picture) :
    Except Fault Posting → Except Fault Seen × Picture
  | .error fault => (.error fault, picture)
  | .ok posting => (.ok (picture.seen posting), picture.post posting)

theorem seek_congr {find? find?' : AccountId → Option Account} {id : AccountId}
    (same : find? id = find?' id) : seek find? id = seek find?' id := by
  unfold seek
  rw [same]

/-- What is decided depends on the accounts of the footprint. -/
theorem decide_congr
    (same : ∀ id ∈ operation.accounts,
      picture.accounts id = other.accounts id) :
    picture.decide operation = other.decide operation := by
  have found_same : ∀ id ∈ operation.accounts,
      picture.find? id = other.find? id := by
    intro id mem
    unfold find?
    rw [same id mem]
  unfold decide
  congr 1
  cases operation with
  | openAccount given owner kind =>
    cases given with
    | none => rfl
    | some id =>
      have same_id := found_same id List.mem_cons_self
      simp only [posting?, SharedLedger.opening, same_id]
  | closeAccount id =>
    simp only [posting?, closing, seek_congr (found_same id List.mem_cons_self)]
  | deposit id amount =>
    simp only [posting?, depositing,
      seek_congr (found_same id List.mem_cons_self)]
  | withdraw id amount =>
    simp only [posting?, withdrawing,
      seek_congr (found_same id List.mem_cons_self)]
  | transfer source destination amount =>
    have destination_mem : destination ∈ [source, destination] :=
      List.mem_cons_of_mem source List.mem_cons_self
    simp only [posting?, transferring,
      seek_congr (found_same source List.mem_cons_self),
      seek_congr (found_same destination destination_mem)]
  | creditInterest given =>
    cases given with
    | none => rfl
    | some id =>
      simp only [posting?, crediting,
        seek_congr (found_same id List.mem_cons_self)]
  | setLimit id limit =>
    simp only [posting?, limiting,
      seek_congr (found_same id List.mem_cons_self)]

/-- What is decided for an operation with a footprint is a change. -/
theorem change_of_decide {footprint : List AccountId} {posting : Posting}
    (confined : operation.footprint = some footprint)
    (decided : picture.decide operation = .ok posting) :
    Change picture.find? operation posting := by
  unfold decide at decided
  cases posts : operation.posting? picture.find?
    (SharedLedger.opening picture.find?) with
  | none =>
    rw [posting?_eq_none_iff, confined] at posts
    cases posts
  | some result =>
    rw [posts, Option.getD_some] at decided
    rw [decided] at posts
    by_cases opens : ∃ given owner kind,
      operation = .openAccount given owner kind
    · obtain ⟨given, owner, kind, rfl⟩ := opens
      cases given with
      | none => cases confined
      | some id =>
        obtain ⟨free, valid, rfl⟩ :=
          SharedLedger.opening_eq_ok (Option.some.inj posts)
        exact .opened (by simp) free valid
    · exact Change.of_posting?
        (fun given owner kind eq => opens ⟨given, owner, kind, eq⟩) posts

theorem touched_of_decide {footprint : List AccountId} {posting : Posting}
    (confined : operation.footprint = some footprint)
    (decided : picture.decide operation = .ok posting) :
    ∀ id ∈ posting.touched, id ∈ footprint :=
  Posting.touched_subset (change_of_decide confined decided) confined

/-! ## Carrying out two postings -/

/-- Whether a posting, if there is one, touches none of some accounts. -/
def Spares (decision : Except Fault Posting) (accounts : List AccountId) :
    Prop :=
  ∀ posting, decision = .ok posting → ∀ id ∈ accounts, id ∉ posting.touched

theorem accounts_carryOut {decision : Except Fault Posting}
    {accounts : List AccountId}
    (spares : Spares decision accounts) {id : AccountId} (mem : id ∈ accounts) :
    (picture.carryOut decision).2.accounts id = picture.accounts id := by
  cases decision with
  | error fault => rfl
  | ok posting => exact Posting.redraw_of_not_mem (spares posting rfl id mem) _

/-- What is seen of a posting depends on the accounts it touches. -/
theorem seen_congr {posting : Posting}
    (same : ∀ id ∈ posting.touched, picture.accounts id = other.accounts id) :
    picture.seen posting = other.seen posting := by
  cases posting with
  | closed id account =>
    simp only [seen, same id List.mem_cons_self]
  | opened | amended | moved => rfl

theorem carryOut_fst_congr {decision : Except Fault Posting}
    (same : ∀ posting, decision = .ok posting →
      ∀ id ∈ posting.touched, picture.accounts id = other.accounts id) :
    (picture.carryOut decision).1 = (other.carryOut decision).1 := by
  cases decision with
  | error fault => rfl
  | ok posting => simp only [carryOut, seen_congr (same posting rfl)]

/-- Postings that touch different accounts commute. -/
theorem post_comm {first second : Posting}
    (apart : ∀ id ∈ first.touched, id ∉ second.touched) :
    (picture.post first).post second = (picture.post second).post first := by
  unfold post
  congr 1
  · funext id
    dsimp only
    by_cases mem : id ∈ first.touched
    · rw [Posting.redraw_of_not_mem (apart id mem),
        Posting.redraw_of_not_mem (apart id mem)]
    · rw [Posting.redraw_of_not_mem mem, Posting.redraw_of_not_mem mem]
  · apply UInt32.toNat_inj.1
    simp only [UInt32.toNat_max]
    omega
  · rw [← Multiset.add_assoc, ← Multiset.add_assoc,
      Multiset.add_comm second.contents]

theorem carryOut_comm {decision decision' : Except Fault Posting}
    (apart : ∀ posting posting', decision = .ok posting →
      decision' = .ok posting' →
      ∀ id ∈ posting.touched, id ∉ posting'.touched) :
    ((picture.carryOut decision).2.carryOut decision').2 =
      ((picture.carryOut decision').2.carryOut decision).2 := by
  cases decision with
  | error fault => rfl
  | ok posting =>
    cases decision' with
    | error fault => rfl
    | ok posting' => exact post_comm (apart posting posting' rfl rfl)

/-! ## Commands -/

/-- What a command posts, if its principal may ask for it. -/
def decideFor (picture : Picture) (command : Command) :
    Except Fault Posting := do
  Access.authorize (fun id => (picture.find? id).map (·.owner))
    command.principal command.operation
  picture.decide command.operation

/-- A command carried out on a picture. -/
def attempt (picture : Picture) (command : Command) :
    Except Fault Seen × Picture :=
  picture.carryOut (picture.decideFor command)

/-- Who may ask for an operation depends on the owners of the accounts of its
footprint. -/
theorem authorize_congr {ownerOf? ownerOf?' : AccountId → Option OwnerId}
    (principal : Principal)
    (same : ∀ id ∈ operation.accounts, ownerOf? id = ownerOf?' id) :
    Access.authorize ownerOf? principal operation =
      Access.authorize ownerOf?' principal operation := by
  have use_same : ∀ id ∈ operation.accounts,
      Access.checkUse ownerOf? principal id =
        Access.checkUse ownerOf?' principal id := by
    intro id mem
    unfold Access.checkUse Access.mayUse
    rw [same id mem]
  cases operation with
  | deposit id | withdraw id | transfer id =>
    exact use_same id List.mem_cons_self
  | openAccount | closeAccount | creditInterest | setLimit => rfl

theorem decideFor_congr {command : Command}
    (same : ∀ id ∈ command.operation.accounts,
      picture.accounts id = other.accounts id) :
    picture.decideFor command = other.decideFor command := by
  have owner_same : ∀ id ∈ command.operation.accounts,
      (picture.find? id).map (·.owner) = (other.find? id).map (·.owner) := by
    intro id mem
    unfold find?
    rw [same id mem]
  unfold decideFor
  rw [authorize_congr command.principal owner_same, decide_congr same]

theorem decideFor_eq_ok {command : Command} {posting : Posting}
    (decided : picture.decideFor command = .ok posting) :
    picture.decide command.operation = .ok posting := by
  obtain ⟨_, -, decided⟩ := Transact.bind_eq_ok decided
  exact decided

theorem touched_of_decideFor {command : Command} {posting : Posting}
    (confined : command.operation.footprint.isSome = true)
    (decided : picture.decideFor command = .ok posting) :
    ∀ id ∈ posting.touched, id ∈ command.operation.accounts := by
  obtain ⟨footprint, footprint_eq⟩ := Option.isSome_iff_exists.1 confined
  have touched := touched_of_decide footprint_eq (decideFor_eq_ok decided)
  unfold Operation.accounts
  rw [footprint_eq]
  exact touched

/-- A command spares the accounts of commands with disjoint footprints. -/
theorem spares_decideFor (picture : Picture) {a b : Command}
    (a_confined : a.operation.footprint.isSome = true)
    (apart : ∀ id ∈ a.operation.accounts, id ∉ b.operation.accounts) :
    Spares (picture.decideFor a) b.operation.accounts := by
  intro posting decided id mem touched
  exact apart id (touched_of_decideFor a_confined decided id touched) mem

/-- Commands with disjoint footprints decide alike, whichever of them goes
first. -/
theorem decideFor_attempt (picture : Picture) {a b : Command}
    (a_confined : a.operation.footprint.isSome = true)
    (apart : ∀ id ∈ a.operation.accounts, id ∉ b.operation.accounts) :
    (picture.attempt a).2.decideFor b = picture.decideFor b := by
  apply decideFor_congr
  intro id mem
  exact accounts_carryOut (picture.spares_decideFor a_confined apart) mem

/-- What a command is answered does not depend on a command with a disjoint
footprint before it. -/
theorem attempt_fst_attempt (picture : Picture) {a b : Command}
    (a_confined : a.operation.footprint.isSome = true)
    (b_confined : b.operation.footprint.isSome = true)
    (apart : ∀ id ∈ a.operation.accounts, id ∉ b.operation.accounts) :
    ((picture.attempt a).2.attempt b).1 = (picture.attempt b).1 := by
  show ((picture.attempt a).2.carryOut ((picture.attempt a).2.decideFor b)).1 =
    (picture.carryOut (picture.decideFor b)).1
  rw [picture.decideFor_attempt a_confined apart]
  apply carryOut_fst_congr
  intro posting decided id touched
  exact accounts_carryOut (picture.spares_decideFor a_confined apart)
    (touched_of_decideFor b_confined decided id touched)

/-- Commands with disjoint footprints reach the same picture in either order. -/
theorem attempt_comm (picture : Picture) {a b : Command}
    (a_confined : a.operation.footprint.isSome = true)
    (b_confined : b.operation.footprint.isSome = true)
    (apart : ∀ id ∈ a.operation.accounts, id ∉ b.operation.accounts) :
    ((picture.attempt a).2.attempt b).2 =
      ((picture.attempt b).2.attempt a).2 := by
  have apart' : ∀ id ∈ b.operation.accounts, id ∉ a.operation.accounts :=
    fun id b_mem a_mem => apart id a_mem b_mem
  have b_decided := picture.decideFor_attempt a_confined apart
  have a_decided := picture.decideFor_attempt b_confined apart'
  show ((picture.attempt a).2.carryOut ((picture.attempt a).2.decideFor b)).2 =
    ((picture.attempt b).2.carryOut ((picture.attempt b).2.decideFor a)).2
  rw [b_decided, a_decided]
  apply carryOut_comm
  intro posting posting' decided decided' id touched touched'
  exact apart id (touched_of_decideFor a_confined decided id touched)
    (touched_of_decideFor b_confined decided' id touched')

end Picture

/-! ## With an audit trail -/

/-- What an audit entry says, its time aside. -/
structure AuditLine where
  principal : String
  action : String
  details : String
  verdict : Verdict

def AuditEntry.line (entry : AuditEntry) : AuditLine :=
  ⟨entry.principal, entry.action, entry.details, entry.verdict⟩

/-- What the trail says about what is seen of an answer. -/
def Seen.verdict : Except Fault Seen → Verdict
  | .ok (.recorded content) =>
    if content.status = .completed then .completed else .failed
  | .ok _ => .completed
  | .error fault =>
    if fault.category = .accessDenied then .denied else .rejected

/-- What a desk looks like. -/
structure Scene where
  books : Picture
  trail : Multiset AuditLine

/-- A command executed on what a desk looks like. -/
def Scene.execute (scene : Scene) (command : Command) :
    Except Fault Seen × Scene :=
  let (answer, books) := scene.books.attempt command
  (answer, {
    books
    trail :=
      {⟨command.principal.text, command.operation.action,
        command.operation.text,
      Seen.verdict answer⟩} + scene.trail })

/-- Commands with disjoint footprints commute. -/
theorem Scene.execute_commutes {a b : Command}
    (a_confined : a.operation.footprint.isSome = true)
    (b_confined : b.operation.footprint.isSome = true)
    (apart : ∀ id ∈ a.operation.accounts, id ∉ b.operation.accounts)
    (scene : Scene) :
    ((scene.execute a).2.execute b).1 = (scene.execute b).1 ∧
      ((scene.execute b).2.execute a).1 = (scene.execute a).1 ∧
        ((scene.execute a).2.execute b).2 =
          ((scene.execute b).2.execute a).2 := by
  have apart' : ∀ id ∈ b.operation.accounts, id ∉ a.operation.accounts :=
    fun id b_mem a_mem => apart id a_mem b_mem
  have b_same := scene.books.attempt_fst_attempt a_confined b_confined apart
  have a_same := scene.books.attempt_fst_attempt b_confined a_confined apart'
  have books_same := scene.books.attempt_comm a_confined b_confined apart
  refine ⟨b_same, a_same, ?_⟩
  unfold execute
  dsimp only
  rw [b_same, a_same, books_same]
  congr 1
  rw [← Multiset.add_assoc, ← Multiset.add_assoc, Multiset.add_comm {_}]

end Passbook
