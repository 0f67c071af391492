import Passbook.Proofs.Coherence
import Passbook.Proofs.Likeness
import Passbook.Proofs.Parallel

/-!
# Footprints cover all that operations have to do with

An operation with a footprint asks about the accounts of its footprint, and
writes to these alone. So two ledgers in which these accounts look alike answer
it alike, whatever else is in them, and the accounts look alike afterwards; and
in each of the two all other accounts are left as they were.

To look alike is to have the same portrait: numbers and times of records are
left out of it. Figures may be the same, or worth the same.

## Main results

* `Decided` — a ledger does with an operation what was decided.
* `alike_execute` — a command at two desks where its accounts look alike.
* `covers_footprint` — footprints cover operations, on both ledgers.
-/

namespace Passbook

open Decimal (Congruence)

/-! ## Looking alike -/

section

variable (R : Decimal → Decimal → Prop)

/-- Whether two records say the same but for their amounts, which match. -/
structure Content.Matches (c c' : Content) : Prop where
  movement : c.transaction.movement = c'.transaction.movement
  amount : R c.transaction.amount c'.transaction.amount
  status : c.status = c'.status

/-- Whether two accounts look the same but for figures that match. -/
structure Portrait.Matches (p p' : Portrait) : Prop where
  id : p.id = p'.id
  owner : p.owner = p'.owner
  kind : p.kind.Matches R p'.kind
  balance : R p.balance p'.balance
  records : List.Forall₂ (Content.Matches R) p.records p'.records

/-- Whether two outcomes look the same but for figures that match. -/
inductive Seen.Matches : Seen → Seen → Prop
  | opened (account : AccountId) : Matches (.opened account) (.opened account)
  | closed {p p' : Portrait} (portraits : p.Matches R p') :
      Matches (.closed p) (.closed p')
  | recorded {c c' : Content} (contents : c.Matches R c') :
      Matches (.recorded c) (.recorded c')
  | credited {cs cs' : List Content}
      (contents : List.Forall₂ (Content.Matches R) cs cs') :
      Matches (.credited cs) (.credited cs')
  | limited (account : AccountId) (limit : Decimal) :
      Matches (.limited account limit) (.limited account limit)

end

namespace Books

/-- What the account under an id looks like, if there is one. -/
def portrait? (books : Books) (id : AccountId) : Option Portrait :=
  (books.accounts.find? id).map (Account.portrait books.journal)

/-- Whether some accounts look alike in two states of the books. -/
def AgreeOn (R : Decimal → Decimal → Prop) (accounts : List AccountId)
    (books books' : Books) : Prop :=
  ∀ id ∈ accounts,
    Option.Rel (Portrait.Matches R) (books.portrait? id) (books'.portrait? id)

/-- Whether nothing but some accounts was touched on the way from one state of
the books to another. -/
structure TouchedOnly (accounts : List AccountId) (books books' : Books) :
    Prop where
  /-- Other accounts are as they were, histories included. -/
  untouched : ∀ id, id ∉ accounts →
    books'.accounts.find? id = books.accounts.find? id
  /-- So are the records in their histories. -/
  undisturbed : ∀ id, id ∉ accounts →
    books'.portrait? id = books.portrait? id
  /-- There is at most one new record, and it names none but these. -/
  appended : ∃ written : Option Record,
    books'.journal.records.toList =
        books.journal.records.toList ++ written.toList ∧
      ∀ record ∈ written, ∀ id ∈ record.movement.accounts, id ∈ accounts

end Books

variable {R : Decimal → Decimal → Prop}

/-- What matches in a portrait matches in the account. -/
theorem Books.AgreeOn.find? {accounts : List AccountId} {books books' : Books}
    (agree : books.AgreeOn R accounts books') {id : AccountId}
    (mem : id ∈ accounts) :
    Option.Rel (Account.Matches R) (books.accounts.find? id)
      (books'.accounts.find? id) := by
  have portraits := agree id mem
  unfold portrait? at portraits
  generalize books.accounts.find? id = account at portraits
  generalize books'.accounts.find? id = account' at portraits
  match account, account', portraits with
  | none, none, _ => exact .none
  | some _, some _, .some same =>
    exact .some ⟨same.id, same.owner, same.kind, same.balance⟩

/-! ## Postings -/

namespace Posting

variable {posting posting' : Posting}

theorem Matches.bare (postings : posting.Matches R posting') :
    posting.bare.Matches R posting'.bare := by
  cases postings with
  | opened account => exact .opened account
  | closed id accounts =>
    exact .closed id ⟨accounts.id, accounts.owner, accounts.kind,
      accounts.balance⟩
  | amended id outcome kinds balances =>
    exact .amended id outcome kinds balances
  | moved movement status each amounts =>
    exact .moved movement status each amounts

theorem lookup_matches {balances balances' : List (AccountId × Decimal)}
    (each : MatchBalances R balances balances') (id : AccountId) :
    Option.Rel R (balances.lookup id) (balances'.lookup id) := by
  induction each with
  | nil => exact .none
  | @cons entry entry' rest rest' same _ ih =>
    rw [List.lookup_cons, List.lookup_cons, same.1]
    split
    · exact .some same.2
    · exact ih

/-- Matching postings make of matching portraits what matches. -/
theorem redraw_matches (cong : Congruence R)
    (postings : posting.Matches R posting') (id : AccountId)
    {portrait portrait' : Option Portrait}
    (portraits : Option.Rel (Portrait.Matches R) portrait portrait') :
    Option.Rel (Portrait.Matches R) (posting.redraw id portrait)
      (posting'.redraw id portrait') := by
  cases postings with
  | opened account =>
    simp only [redraw]
    split
    · exact .some ⟨rfl, rfl, .refl cong _, cong.refl _, .nil⟩
    · exact portraits
  | closed other accounts =>
    simp only [redraw]
    split
    · exact .none
    · exact portraits
  | amended other outcome kinds balances =>
    simp only [redraw]
    split
    · cases portraits with
      | none => exact .none
      | some same =>
        exact .some ⟨same.id, same.owner, kinds, balances, same.records⟩
    · exact portraits
  | @moved balances balances' movement amount amount' status each amounts =>
    simp only [redraw]
    cases portraits with
    | none => exact .none
    | some same =>
      have new := lookup_matches each id
      have content : Content.Matches R ⟨⟨movement, amount⟩, status⟩
          ⟨⟨movement, amount'⟩, status⟩ := ⟨rfl, amounts, rfl⟩
      refine .some ⟨same.id, same.owner, same.kind, ?_, ?_⟩
      · generalize balances.lookup id = balance at new
        generalize balances'.lookup id = balance' at new
        cases new with
        | none => exact same.balance
        | some given => exact given
      · have concerned_eq :
            (Content.mk ⟨movement, amount'⟩ status).concerned =
              (Content.mk ⟨movement, amount⟩ status).concerned := rfl
        rw [concerned_eq]
        split
        · exact List.rel_append same.records (.cons content .nil)
        · exact same.records

/-- What a posting does not touch is left as it was. -/
theorem find?_write_of_not_mem (clock : Clock) (books : Books)
    {posting : Posting} {id : AccountId} (apart : id ∉ posting.touched) :
    (posting.write clock books).accounts.find? id =
      books.accounts.find? id := by
  cases posting with
  | opened account =>
    exact Register.find?_insert_of_ne
      fun eq => apart (List.mem_singleton.2 eq.symm)
  | closed other account =>
    show (books.accounts.erase other).find? id = _
    rw [Register.find?_erase,
      if_neg fun eq => apart (List.mem_singleton.2 eq)]
  | amended other kind balance outcome =>
    rw [find?_write_amended]
    cases found : books.accounts.find? id with
    | none => rfl
    | some account =>
      have account_id : account.id = id := Register.find?_id found
      have ne : account.id ≠ other := fun eq =>
        apart (List.mem_singleton.2 (account_id.symm.trans eq))
      rw [Option.map_some, Register.only, if_neg ne]
  | moved balances transaction status =>
    obtain ⟨unlisted, unconcerned⟩ := untouched_moved apart
    rw [find?_write_moved]
    cases found : books.accounts.find? id with
    | none => rfl
    | some account =>
      have account_id : account.id = id := Register.find?_id found
      rw [← account_id] at unlisted unconcerned
      have kept : (balances.lookup account.id).getD account.balance =
          account.balance := by
        rw [unlisted, Option.getD_none]
      rw [Option.map_some, settle_of_kept kept, attachIf,
        SharedLedger.concerned_sealed, if_neg unconcerned]

/-- A posting adds one record at most, which names accounts that are touched. -/
theorem exists_written (clock : Clock) (books : Books) (posting : Posting) :
    ∃ written : Option Record,
      (posting.write clock books).journal.records.toList =
          books.journal.records.toList ++ written.toList ∧
        ∀ record ∈ written, ∀ id ∈ record.movement.accounts,
          id ∈ posting.touched := by
  cases posting with
  | opened | closed | amended =>
    exact ⟨none, (List.append_nil _).symm, nofun⟩
  | moved balances transaction status =>
    refine ⟨some (sealed clock books.journal transaction status),
      Array.toList_push, ?_⟩
    intro record is_written id mem
    obtain rfl := Option.mem_some.1 is_written
    unfold touched
    rw [List.mem_append, List.mem_append]
    rcases Record.mem_accounts_iff.1 mem with source | destination
    · exact Or.inl (Or.inr (Option.mem_toList.2 source))
    · exact Or.inr (Option.mem_toList.2 destination)

end Posting

/-! ## Changes -/

namespace Change

variable {clock clock' : Clock} {books books' : Books} {operation : Operation}
  {posting posting' : Posting} {footprint : List AccountId}

/-- A change touches the accounts of the footprint only. -/
theorem touchedOnly (change : Change books.accounts.find? operation posting)
    (numbered : books.Numbered)
    (confined : operation.footprint = some footprint) :
    books.TouchedOnly footprint (posting.write clock books) := by
  have subset := Posting.touched_subset change confined
  refine ⟨?_, ?_, ?_⟩
  · intro id apart
    exact Posting.find?_write_of_not_mem clock books (mt (subset id) apart)
  · intro id apart
    have bare_apart : id ∉ posting.bare.touched := by
      cases posting <;> exact mt (subset id) apart
    exact (SharedLedger.portrait?_write clock numbered
      (SharedLedger.unused_of_change change) id).trans
        (Posting.redraw_of_not_mem bare_apart _)
  · obtain ⟨written, grown, names⟩ := posting.exists_written clock books
    exact ⟨written, grown, fun record is_written id mem =>
      subset id (names record is_written id mem)⟩

/-- Matching changes leave accounts alike that were alike. -/
theorem agreeOn (cong : Congruence R)
    (change : Change books.accounts.find? operation posting)
    (change' : Change books'.accounts.find? operation posting')
    (numbered : books.Numbered) (numbered' : books'.Numbered)
    (postings : posting.Matches R posting') {accounts : List AccountId}
    (agree : books.AgreeOn R accounts books') :
    (posting.write clock books).AgreeOn R accounts
      (posting'.write clock' books') := by
  intro id mem
  have drawn := SharedLedger.portrait?_write clock numbered
    (SharedLedger.unused_of_change change) id
  have drawn' := SharedLedger.portrait?_write clock' numbered'
    (SharedLedger.unused_of_change change') id
  unfold Books.portrait?
  rw [drawn, drawn']
  exact Posting.redraw_matches cong postings.bare id (agree id mem)

/-- Matching changes are answered alike. -/
theorem seen_matches (change : Change books.accounts.find? operation posting)
    (change' : Change books'.accounts.find? operation posting')
    (postings : posting.Matches R posting')
    (agree : books.AgreeOn R operation.accounts books') :
    Seen.Matches R
      ((posting.outcome clock books).seen
        (posting.write clock books).journal)
      ((posting'.outcome clock' books').seen
        (posting'.write clock' books').journal) := by
  cases change with
  | opened =>
    cases postings
    exact .opened _
  | @closed id account found =>
    cases postings
    cases change' with
    | closed found' =>
      have portraits := agree id List.mem_cons_self
      unfold Books.portrait? at portraits
      rw [found, found'] at portraits
      cases portraits with
      | some same => exact .closed same
  | deposited | withdrawn | notWithdrawn | transferred | notTransferred =>
    cases postings with
    | moved _ _ _ amounts => exact .recorded ⟨rfl, amounts, rfl⟩
  | credited =>
    cases postings with
    | moved _ _ _ amounts =>
      exact .credited (.cons ⟨rfl, amounts, rfl⟩ .nil)
  | notCredited =>
    cases postings
    exact .credited .nil
  | limited =>
    cases postings
    exact .limited _ _

end Change

/-! ## Ledgers -/

open Transact

/-- What is answered and what becomes of the books, once something was
decided. -/
def Decided (clock : Clock) (books : Books) :
    Except Fault Posting → Except Fault Outcome → Books → Prop
  | .error fault, answer, books' => answer = .error fault ∧ books' = books
  | .ok posting, answer, books' =>
    answer = .ok (posting.outcome clock books) ∧
      books' = posting.write clock books

/-- A ledger in which the accounts decide what an operation with a footprint
does. How an account is opened is up to the ledger, as long as it asks no more
of the others than whether the id is taken. -/
class Confining (β : Type) [Bookkeeping β] where
  opening : (AccountId → Option Account) → AccountId → OwnerId → AccountKind →
    Except Fault Posting
  opening_congr : ∀ {find? find?' : AccountId → Option Account} {id : AccountId}
    (owner : OwnerId) (kind : AccountKind),
      (find? id).isSome = (find?' id).isSome →
        opening find? id owner kind = opening find?' id owner kind
  decided : ∀ (clock : Clock) (ledger : β) {operation : Operation}
    {decision : Except Fault Posting},
      operation.posting? (Bookkeeping.accounts ledger).find?
          (opening (Bookkeeping.accounts ledger).find?) = some decision →
        Decided clock (Bookkeeping.books ledger) decision
            (answer ((Bookkeeping.perform clock operation).run ledger))
            (Bookkeeping.books
              (state ((Bookkeeping.perform clock operation).run ledger))) ∧
          ∀ posting, decision = .ok posting →
            Change (Bookkeeping.accounts ledger).find? operation posting

instance : Confining SharedLedger where
  opening := SharedLedger.opening
  opening_congr owner kind same := by
    unfold SharedLedger.opening
    rw [same]
  decided := by
    intro clock ledger operation decision posts
    obtain ⟨run, changes⟩ := SharedLedger.run_confined clock ledger posts
    rw [run]
    refine ⟨?_, changes⟩
    cases decision <;> exact ⟨rfl, rfl⟩

instance : Confining Ledger where
  opening := Ledger.opening
  opening_congr owner kind same := by
    unfold Ledger.opening
    rw [same]
  decided := by
    intro clock ledger operation decision posts
    by_cases opens : ∃ given owner kind,
      operation = .openAccount given owner kind
    · obtain ⟨given, owner, kind, rfl⟩ := opens
      cases given with
      | none => cases posts
      | some id =>
        have decision_eq : Ledger.opening ledger.accounts.find? id owner kind =
            decision := Option.some.inj posts
        rw [Bookkeeping.answer_perform_openAccount,
          Bookkeeping.state_perform_openAccount]
        show Decided clock (Bookkeeping.books ledger) decision
          ((answer ((Ledger.openAs id owner kind).run ledger)).map .opened)
          (Bookkeeping.books
            (state ((Ledger.openAs id owner kind).run ledger))) ∧ _
        rw [Ledger.run_openAs clock, decision_eq]
        cases decision with
        | error fault =>
          refine ⟨⟨rfl, rfl⟩, ?_⟩
          intro posting eq
          cases eq
        | ok posting =>
          obtain ⟨free, valid, rfl⟩ := Ledger.opening_eq_ok decision_eq
          refine ⟨⟨rfl, rfl⟩, ?_⟩
          rintro _ ⟨⟩
          exact .opened (by simp) free valid
    · have opens_none : ∀ given owner kind,
          operation ≠ .openAccount given owner kind :=
        fun given owner kind eq => opens ⟨given, owner, kind, eq⟩
      rw [Ledger.run_perform opens_none posts]
      refine ⟨?_, ?_⟩
      · cases decision <;> exact ⟨rfl, rfl⟩
      · rintro posting rfl
        exact Change.of_posting? opens_none posts

/-! ## Commands -/

section

open Bookkeeping

variable {β : Type} [Bookkeeping β]

/-- What is seen of the answer to a command, numbers and times of records
aside. -/
def Desk.seen (clock : Clock) (desk : Desk β) (command : Command) :
    Except Fault Seen :=
  (desk.execute clock command).1.map
    (Outcome.seen
      (Bookkeeping.books (desk.execute clock command).2.books).journal)

theorem owner_eq {ledger ledger' : β} {id : AccountId}
    (found : Option.Rel (Account.Matches R) ((accounts ledger).find? id)
      ((accounts ledger').find? id)) :
    Desk.ownerOf? ledger id = Desk.ownerOf? ledger' id := by
  unfold Desk.ownerOf? Register.ownerOf?
  generalize (accounts ledger).find? id = account at found
  generalize (accounts ledger').find? id = account' at found
  cases found with
  | none => rfl
  | some same => exact congrArg some same.owner

theorem isSome_eq {x y : Option Account}
    (found : Option.Rel (Account.Matches R) x y) : x.isSome = y.isSome := by
  cases found <;> rfl

variable [Confining β]

/-- What is decided about a command with a footprint: first whether its
principal may ask for it, then what to post. -/
def decision (ledger : β) (command : Command) : Except Fault Posting := do
  Access.authorize (Desk.ownerOf? ledger) command.principal command.operation
  (command.operation.posting? (accounts ledger).find?
    (Confining.opening β (accounts ledger).find?)).getD (.error .idsExhausted)

variable {clock clock' : Clock} {desk desk' : Desk β} {command : Command}
  {footprint : List AccountId}

theorem exists_posting (ledger : β) {operation : Operation}
    (confined : operation.footprint = some footprint) :
    ∃ posting, operation.posting? (accounts ledger).find?
      (Confining.opening β (accounts ledger).find?) = some posting := by
  apply Option.ne_none_iff_exists'.1
  rw [ne_eq, Operation.posting?_eq_none_iff, confined]
  exact nofun

/-- A command with a footprint does what was decided about it. -/
theorem decided_execute (clock : Clock) (desk : Desk β)
    (confined : command.operation.footprint = some footprint) :
    Decided clock (books desk.books) (decision desk.books command)
        (desk.execute clock command).1
        (books (desk.execute clock command).2.books) ∧
      ∀ posting, decision desk.books command = .ok posting →
        Change (accounts desk.books).find? command.operation posting := by
  obtain ⟨posting, posts⟩ := exists_posting desk.books confined
  have performed := Confining.decided clock desk.books posts
  show Decided clock _ _ (answer ((Desk.attempt clock command).run desk.books))
    (books (state ((Desk.attempt clock command).run desk.books))) ∧ _
  unfold decision
  rw [Desk.run_attempt, posts]
  cases Access.authorize (Desk.ownerOf? desk.books) command.principal
    command.operation with
  | error fault =>
    refine ⟨⟨rfl, rfl⟩, ?_⟩
    intro posting eq
    cases eq
  | ok _ => exact performed

/-- Commands are decided alike if the accounts of their footprints match. -/
theorem decision_parallel (cong : Congruence R)
    (confined : command.operation.footprint = some footprint)
    (found : ∀ id ∈ command.operation.accounts,
      Option.Rel (Account.Matches R) ((accounts desk.books).find? id)
        ((accounts desk'.books).find? id)) :
    Parallel R (Posting.Matches R) (decision desk.books command)
      (decision desk'.books command) := by
  have owners : ∀ id ∈ command.operation.accounts,
      Desk.ownerOf? desk.books id = Desk.ownerOf? desk'.books id :=
    fun id mem => owner_eq (found id mem)
  unfold decision
  rw [Picture.authorize_congr command.principal owners]
  refine .bind_same fun _ => ?_
  have openings : ∀ id owner kind,
      command.operation = .openAccount (some id) owner kind →
        Confining.opening β (accounts desk.books).find? id owner kind =
          Confining.opening β (accounts desk'.books).find? id owner kind := by
    rintro id owner kind opens
    have mem : id ∈ command.operation.accounts := by
      rw [opens]
      exact List.mem_cons_self
    exact Confining.opening_congr owner kind (isSome_eq (found id mem))
  have postings := Operation.posting?_parallel cong found openings
  obtain ⟨posting, posts⟩ := exists_posting desk.books confined
  obtain ⟨posting', posts'⟩ := exists_posting desk'.books confined
  rw [posts, posts'] at postings ⊢
  cases postings with
  | some parallel => exact parallel

/-- What a command does at two desks is alike if the accounts of its footprint
are. -/
theorem alike_execute [Lawful β] (cong : Congruence R)
    (confined : command.operation.footprint = some footprint)
    (reached : Reachable desk.books) (reached' : Reachable desk'.books)
    (agree : (books desk.books).AgreeOn R footprint (books desk'.books)) :
    Parallel R (Seen.Matches R) (desk.seen clock command)
        (desk'.seen clock' command) ∧
      (books (desk.execute clock command).2.books).AgreeOn R footprint
        (books (desk'.execute clock' command).2.books) := by
  have accounts_eq : command.operation.accounts = footprint := by
    unfold Operation.accounts
    rw [confined, Option.getD_some]
  obtain ⟨decided, changes⟩ := decided_execute clock desk confined
  obtain ⟨decided', changes'⟩ := decided_execute clock' desk' confined
  have parallel : Parallel R (Posting.Matches R)
      (decision desk.books command) (decision desk'.books command) := by
    apply decision_parallel cong confined
    intro id mem
    exact agree.find? (accounts_eq ▸ mem)
  generalize decision desk.books command = result at *
  generalize decision desk'.books command = result' at *
  cases parallel with
  | error faults =>
    obtain ⟨answer_eq, books_eq⟩ := decided
    obtain ⟨answer'_eq, books'_eq⟩ := decided'
    unfold Desk.seen
    rw [answer_eq, answer'_eq, books_eq, books'_eq]
    exact ⟨.error faults, agree⟩
  | ok postings =>
    obtain ⟨answer_eq, books_eq⟩ := decided
    obtain ⟨answer'_eq, books'_eq⟩ := decided'
    have change := changes _ rfl
    have change' := changes' _ rfl
    unfold Desk.seen
    rw [answer_eq, answer'_eq, books_eq, books'_eq]
    exact ⟨.ok (change.seen_matches change' postings (accounts_eq ▸ agree)),
      change.agreeOn cong change' reached.numbered reached'.numbered postings
        agree⟩

/-- A command touches the accounts of its footprint only. -/
theorem touchedOnly_execute [Lawful β] (clock : Clock)
    (confined : command.operation.footprint = some footprint)
    (reached : Reachable desk.books) :
    (books desk.books).TouchedOnly footprint
      (books (desk.execute clock command).2.books) := by
  obtain ⟨decided, changes⟩ := decided_execute clock desk confined
  cases result : decision desk.books command with
  | error fault =>
    rw [result] at decided
    rw [decided.2]
    exact ⟨fun _ _ => rfl, fun _ _ => rfl, none, (List.append_nil _).symm,
      nofun⟩
  | ok posting =>
    rw [result] at decided
    rw [decided.2]
    exact (changes posting result).touchedOnly reached.numbered confined

end

/-! ## The same figures -/

theorem AccountKind.Matches.eq {kind kind' : AccountKind}
    (same : kind.Matches Eq kind') : kind = kind' := by
  cases same with
  | savings rates => rw [rates]
  | checking limits => rw [limits]

theorem Fault.Matches.eq {f g : Fault} (same : f.Matches Eq g) : f = g := by
  cases same with
  | same => rfl
  | limitBelowBalance _ _ figures | insufficientFunds _ _ figures
  | overdraftExceeded _ _ figures => rw [figures]

theorem Content.matches_eq : Content.Matches Eq = Eq := by
  funext c c'
  obtain ⟨⟨movement, amount⟩, status⟩ := c
  obtain ⟨⟨movement', amount'⟩, status'⟩ := c'
  apply propext
  constructor
  · rintro ⟨rfl, rfl, rfl⟩
    rfl
  · rintro ⟨⟩
    exact ⟨rfl, rfl, rfl⟩

theorem Portrait.matches_eq : Portrait.Matches Eq = Eq := by
  funext p p'
  obtain ⟨id, owner, kind, balance, records⟩ := p
  obtain ⟨id', owner', kind', balance', records'⟩ := p'
  apply propext
  constructor
  · rintro ⟨rfl, rfl, kinds, rfl, contents⟩
    rw [Content.matches_eq, List.forall₂_eq_eq_eq] at contents
    obtain rfl := contents
    obtain rfl := kinds.eq
    rfl
  · rintro ⟨⟩
    refine ⟨rfl, rfl, .refl Decimal.congruence_eq kind, rfl, ?_⟩
    rw [Content.matches_eq, List.forall₂_eq_eq_eq]

theorem Seen.Matches.eq {s s' : Seen} (same : s.Matches Eq s') : s = s' := by
  cases same with
  | opened | limited => rfl
  | closed portraits =>
    rw [Portrait.matches_eq] at portraits
    rw [portraits]
  | recorded contents =>
    rw [Content.matches_eq] at contents
    rw [contents]
  | credited contents =>
    rw [Content.matches_eq, List.forall₂_eq_eq_eq] at contents
    rw [contents]

theorem Parallel.eq {answer answer' : Except Fault Seen}
    (parallel : Parallel Eq (Seen.Matches Eq) answer answer') :
    answer = answer' := by
  cases parallel with
  | ok seen => rw [seen.eq]
  | error faults => rw [faults.eq]

theorem Books.agreeOn_eq_iff {accounts : List AccountId}
    {books books' : Books} :
    books.AgreeOn Eq accounts books' ↔
      ∀ id ∈ accounts, books.portrait? id = books'.portrait? id := by
  unfold AgreeOn
  rw [Portrait.matches_eq]
  constructor
  · intro agree id mem
    have same := agree id mem
    generalize books.portrait? id = p at same
    generalize books'.portrait? id = p' at same
    cases same with
    | none => rfl
    | some same => rw [same]
  · intro same id mem
    rw [same id mem]
    cases books'.portrait? id with
    | none => exact .none
    | some p => exact .some rfl

/-! ## Footprints -/

open Bookkeeping

/-- Whether a command has to do with some accounts only, on any ledger of a
kind. -/
structure Covers (β : Type) [Bookkeeping β] (accounts : List AccountId)
    (command : Command) : Prop where
  /-- It touches no others. -/
  touched : ∀ (clock : Clock) (desk : Desk β), Reachable desk.books →
    (books desk.books).TouchedOnly accounts
      (books (desk.execute clock command).2.books)
  /-- Where these accounts look the same it does the same. -/
  same : ∀ (clock clock' : Clock) (desk desk' : Desk β),
    Reachable desk.books → Reachable desk'.books →
      (∀ id ∈ accounts,
        (books desk.books).portrait? id = (books desk'.books).portrait? id) →
      desk.seen clock command = desk'.seen clock' command ∧
        ∀ id ∈ accounts,
          (books (desk.execute clock command).2.books).portrait? id =
            (books (desk'.execute clock' command).2.books).portrait? id
  /-- Where their figures are worth the same it does what is worth the same. -/
  worth : ∀ (clock clock' : Clock) (desk desk' : Desk β),
    Reachable desk.books → Reachable desk'.books →
      (books desk.books).AgreeOn Decimal.SameWorth accounts
        (books desk'.books) →
      Parallel Decimal.SameWorth (Seen.Matches Decimal.SameWorth)
          (desk.seen clock command) (desk'.seen clock' command) ∧
        (books (desk.execute clock command).2.books).AgreeOn Decimal.SameWorth
          accounts (books (desk'.execute clock' command).2.books)

theorem Covers.of_footprint {β : Type} [Bookkeeping β] [Lawful β]
    [Confining β] {command : Command} {footprint : List AccountId}
    (confined : command.operation.footprint = some footprint) :
    Covers β footprint command where
  touched clock _ reached := touchedOnly_execute clock confined reached
  same clock clock' desk desk' reached reached' looks_same := by
    have alike : Parallel Eq (Seen.Matches Eq) (desk.seen clock command)
          (desk'.seen clock' command) ∧
        (books (desk.execute clock command).2.books).AgreeOn Eq footprint
          (books (desk'.execute clock' command).2.books) :=
      alike_execute Decimal.congruence_eq confined reached reached'
        (Books.agreeOn_eq_iff.2 looks_same)
    exact ⟨alike.1.eq, Books.agreeOn_eq_iff.1 alike.2⟩
  worth _ _ _ _ reached reached' agree :=
    alike_execute Decimal.congruence_sameWorth confined reached reached' agree

/-- On either ledger, a footprint covers all that a command has to do with. -/
theorem covers_footprint {command : Command} {footprint : List AccountId}
    (confined : command.operation.footprint = some footprint) :
    Covers Ledger footprint command ∧ Covers SharedLedger footprint command :=
  ⟨.of_footprint confined, .of_footprint confined⟩

/-- Two accounts, with one in the first of them. -/
def stocked (source destination : AccountId) (owner : OwnerId) :
    List Operation :=
  [.openAccount (some source) owner (.savings .zero),
    .openAccount (some destination) owner (.checking .one),
    .deposit source .one]

/-- The same two accounts, next to a third one that was there before. -/
def crowded (third source destination : AccountId) (owner : OwnerId) :
    List Operation :=
  [.openAccount (some third) owner (.savings .one),
    .deposit third .largest] ++ stocked source destination owner

/-- A transfer between the two is the same with and without the third. -/
theorem covers_footprint_crowded :
    let source : AccountId := ⟨1, by decide⟩
    let destination : AccountId := ⟨2, by decide⟩
    let owner : OwnerId := ⟨1, by decide⟩
    let command : Command :=
      ⟨.holder owner, .transfer source destination .one⟩
    let desk : Desk SharedLedger :=
      ⟨after (.still default) .empty (stocked source destination owner), .empty⟩
    let desk' : Desk SharedLedger :=
      ⟨after (.still default) .empty
        (crowded ⟨3, by decide⟩ source destination owner), .empty⟩
    desk.seen (.still default) command = desk'.seen (.still default) command :=
  ((covers_footprint rfl).2.same (.still default) (.still default) _ _
    (Reachable.empty.after _ _) (Reachable.empty.after _ _)
    (List.forall_mem_cons.2
      ⟨rfl, List.forall_mem_cons.2 ⟨rfl, List.forall_mem_nil _⟩⟩)).1

end Passbook
