import Passbook.Proofs.Agreement
import Passbook.Proofs.Coherence
import Passbook.Proofs.Refusals

/-!
# The numbers of new accounts

An account that is opened without a given id gets the number after the highest
that any account ever had. So ids come in order, none is given out twice, and
they run out when the last has been in use, and not before.

The ledger of one owner keeps to that: the highest number moves when an account
has been opened, and at no other time. The ledger that workers share advances
its counter before an account is opened, and leaves it there if the account is
refused. A kind that is not valid, made by hand, costs a number in this way: the
next account gets a later one, and after 999 of them there are no ids left for
anybody. The counter moves on when there are no ids left, too, which does no
harm until its 32 bits are used up and it starts again. Apart from these two,
the shared ledger keeps to the order as well.

## Main results

* `Ledger.orderly` — one operation on the ledger of one owner.
* `Level.orderly`, `Level.thrifty_of_orderly` — one operation on the shared
  ledger.
* `inOrder_iff` — which runs keep to the order in each ledger.
-/

namespace Passbook

open Bookkeeping Transact

/-! ## Numbers -/

namespace AccountId

/-- The last id there is. -/
def last : AccountId := ⟨maxNumber, by decide⟩

/-- The highest number of some accounts. -/
def highest : List AccountId → Nat
  | [] => 0
  | id :: ids => max id.number (highest ids)

theorem highest_append (first second : List AccountId) :
    highest (first ++ second) = max (highest first) (highest second) := by
  induction first with
  | nil => exact (Nat.zero_max _).symm
  | cons id ids ih =>
    rw [List.cons_append, highest, highest, ih, Nat.max_assoc]

theorem number_le_highest {ids : List AccountId} {id : AccountId}
    (mem : id ∈ ids) : id.number ≤ highest ids := by
  induction ids with
  | nil => cases mem
  | cons other ids ih =>
    unfold highest
    rcases List.mem_cons.1 mem with rfl | mem
    · exact Nat.le_max_left _ _
    · exact Nat.le_trans (ih mem) (Nat.le_max_right _ _)

theorem highest_le (ids : List AccountId) : highest ids ≤ maxNumber := by
  induction ids with
  | nil => exact Nat.zero_le _
  | cons id ids ih => exact Nat.max_le.2 ⟨Nat.le_of_lt_succ id.number_lt, ih⟩

theorem exists_mem_of_highest {ids : List AccountId}
    (some_in : 0 < highest ids) : ∃ id ∈ ids, id.number = highest ids := by
  induction ids with
  | nil => cases some_in
  | cons id ids ih =>
    unfold highest at some_in ⊢
    by_cases above : highest ids ≤ id.number
    · exact ⟨id, List.mem_cons_self, (Nat.max_eq_left above).symm⟩
    · obtain ⟨other, mem, number_eq⟩ := ih (by omega)
      exact ⟨other, List.mem_cons_of_mem _ mem, by omega⟩

/-- The last id has been in use exactly if its number is the highest. -/
theorem last_mem_iff {ids : List AccountId} :
    last ∈ ids ↔ highest ids = maxNumber := by
  constructor
  · intro mem
    exact Nat.le_antisymm (highest_le ids) (number_le_highest mem)
  · intro full
    have some_in : 0 < highest ids := by
      rw [full]
      decide
    obtain ⟨id, mem, number_eq⟩ := exists_mem_of_highest some_in
    have same : last = id := ext_number (number_eq.trans full).symm
    rw [same]
    exact mem

/-- If there is no id after the highest, the highest is the last. -/
theorem last_mem_of_issue {ids : List AccountId} {fault : Fault}
    (none_next : issue (highest ids + 1) = .error fault) : last ∈ ids := by
  have full := (issue_eq_error_iff.1 none_next).1
  have bound := highest_le ids
  exact last_mem_iff.2 (by omega)

end AccountId

open AccountId

/-! ## Runs -/

/-- Whether an answer is that there are no ids left. -/
def isExhausted : Except Fault Outcome → Bool
  | .error fault => fault == .idsExhausted
  | .ok _ => false

theorem isExhausted_iff {answer : Except Fault Outcome} :
    isExhausted answer = true ↔ answer = .error .idsExhausted := by
  cases answer <;> simp [isExhausted]

theorem isExhausted_eq_false {answer : Except Fault Outcome}
    (left : answer ≠ .error .idsExhausted) : isExhausted answer = false :=
  Bool.eq_false_iff.2 fun exhausted => left (isExhausted_iff.1 exhausted)

namespace Bookkeeping

variable {β : Type} [Bookkeeping β]

/-- The accounts that are opened in a run, in turn. -/
def opened (clock : Clock) (ledger : β) (operations : List Operation) :
    List AccountId :=
  (answers clock ledger operations).filterMap openedBy

variable {operations : List Operation} {n : Nat}

theorem opened_take_succ (clock : Clock) (ledger : β)
    (inside : n < operations.length) :
    opened clock ledger (operations.take (n + 1)) =
      opened clock ledger (operations.take n) ++
        (openedBy (answer ((perform clock operations[n]).run
          (after clock ledger (operations.take n))))).toList := by
  unfold opened
  rw [answers_take_succ clock ledger inside, List.filterMap_append,
    List.filterMap_cons]
  cases openedBy _ <;> rfl

/-- Whether an operation keeps to the order of numbers, given all accounts that
were ever opened before. -/
structure Orderly (clock : Clock) (past : List AccountId) (ledger : β)
    (operation : Operation) : Prop where
  /-- An account that is opened without a given id gets the number after the
  highest there was, and an id that no account has had. -/
  generated : ∀ owner kind id, operation = .openAccount none owner kind →
    answer ((perform clock operation).run ledger) = .ok (.opened id) →
      id.number = highest past + 1 ∧ id ∉ past
  /-- If no account is opened, the next id remains. -/
  refused : ∀ given owner kind fault,
    operation = .openAccount given owner kind →
    answer ((perform clock operation).run ledger) = .error fault →
      nextId (next clock ledger operation) = nextId ledger
  /-- There are ids left as long as the last was not in use. -/
  exhausted : answer ((perform clock operation).run ledger) =
      .error .idsExhausted ∨ nextId ledger = .error .idsExhausted →
    last ∈ past
  /-- From then on there are none. -/
  remains : last ∈ past →
    ∀ owner kind, operation = .openAccount none owner kind →
      answer ((perform clock operation).run ledger) = .error .idsExhausted

/-- Whether all operations of a run from an empty ledger keep to the order of
numbers. -/
def InOrder (β : Type) [Bookkeeping β] (clock : Clock)
    (operations : List Operation) : Prop :=
  ∀ n (inside : n < operations.length),
    Orderly clock (opened clock (empty : β) (operations.take n))
      (after clock (empty : β) (operations.take n)) operations[n]

end Bookkeeping

/-- An operation that is not asked to open an account opens none. -/
theorem Performs.openedBy_eq_none {clock : Clock} {books books' : Books}
    {operation : Operation} {answer : Except Fault Outcome}
    (performs : Performs clock books operation answer books')
    (opens_none : ∀ given owner kind,
      operation ≠ .openAccount given owner kind) :
    openedBy answer = none := by
  cases performs with
  | refused fault => rfl
  | creditedAll credits => rfl
  | posted change =>
    cases change with
    | opened => exact absurd rfl (opens_none _ _ _)
    | closed | deposited | withdrawn | notWithdrawn | transferred
    | notTransferred | credited | notCredited | limited => rfl

section

variable {β : Type} [Bookkeeping β] [Impartial β] {clock : Clock}
  {operation : Operation} {ledger : β}

/-- An operation that has no id to find is not answered that there are none
left. -/
theorem Bookkeeping.not_exhausted
    (given : ∀ owner kind, operation ≠ .openAccount none owner kind) :
    answer ((perform clock operation).run ledger) ≠ .error .idsExhausted :=
  fun exhausted => (Impartial.yields_given clock operation ledger given _
    exhausted).1 rfl

/-- What is answered that there are no ids left opens an account without a given
id. -/
theorem Bookkeeping.opensNext_of_exhausted
    (exhausted : answer ((perform clock operation).run ledger) =
      .error .idsExhausted) :
    ∃ owner kind, operation = .openAccount none owner kind := by
  by_contra other
  exact not_exhausted (fun owner kind eq => other ⟨owner, kind, eq⟩) exhausted

end

/-! ## The ledger of one owner -/

namespace Ledger

variable {clock : Clock} {ledger : Ledger}

/-- Opening under a given id leaves the ledger alone, or raises the highest
number to that of the id. -/
theorem openAs_cases (ledger : Ledger) (id : AccountId) (owner : OwnerId)
    (kind : AccountKind) :
    (∃ fault, answer ((openAs id owner kind).run ledger) = .error fault ∧
      state ((openAs id owner kind).run ledger) = ledger ∧
      fault ≠ .idsExhausted) ∨
    (answer ((openAs id owner kind).run ledger) = .ok id ∧
      (state ((openAs id owner kind).run ledger)).highest.getD 0 =
        max (ledger.highest.getD 0) id.number) := by
  have plain := yields_openAs id owner kind ledger
  rw [run_openAs (.still default)] at plain ⊢
  cases posts : opening ledger.accounts.find? id owner kind with
  | error fault =>
    rw [posts] at plain
    exact Or.inl ⟨fault, rfl, rfl, (plain fault rfl).1⟩
  | ok posting => exact Or.inr ⟨rfl, rfl⟩

/-- Opening an account is opening it under the id that is given, or under the
next one if there is one. -/
theorem openAccount_eq (ledger : Ledger) (given : Option AccountId)
    (owner : OwnerId) (kind : AccountKind) :
    (∃ fault, ledger.nextId = .error fault ∧
      (openAccount given owner kind).run ledger = .error fault ledger) ∨
    ∃ id, (given = none → ledger.nextId = .ok id) ∧
      (openAccount given owner kind).run ledger =
        (openAs id owner kind).run ledger := by
  cases given with
  | some id => exact Or.inr ⟨id, nofun, rfl⟩
  | none =>
    have run : (openAccount none owner kind).run ledger = _ :=
      run_openNext owner kind
    cases next : ledger.nextId with
    | error fault =>
      rw [next] at run
      exact Or.inl ⟨fault, rfl, run⟩
    | ok id =>
      rw [next] at run
      exact Or.inr ⟨id, fun _ => rfl, run⟩

/-- Opening an account leaves the ledger alone, or raises the highest number to
that of the account, which has the next id if none is given. -/
theorem openAccount_cases (clock : Clock) (ledger : Ledger)
    (given : Option AccountId) (owner : OwnerId) (kind : AccountKind) :
    let run := (perform clock (.openAccount given owner kind)).run ledger
    (∃ fault, answer run = .error fault ∧ state run = ledger ∧
      (fault = .idsExhausted → ledger.nextId = .error .idsExhausted)) ∨
    ∃ id, answer run = .ok (.opened id) ∧
      (state run).highest.getD 0 = max (ledger.highest.getD 0) id.number ∧
      (given = none → ledger.nextId = .ok id) := by
  intro run
  have answered : answer run =
      (answer ((openAccount given owner kind).run ledger)).map .opened :=
    answer_perform_openAccount clock given owner kind ledger
  have reached : state run =
      state ((openAccount given owner kind).run ledger) :=
    state_perform_openAccount clock given owner kind ledger
  rw [answered, reached]
  rcases openAccount_eq ledger given owner kind with
    ⟨fault, none_next, opens⟩ | ⟨id, next, opens⟩
  · rw [opens]
    exact Or.inl ⟨fault, rfl, rfl, fun eq => eq ▸ none_next⟩
  · rw [opens]
    rcases openAs_cases ledger id owner kind with
      ⟨fault, refused, same, left⟩ | ⟨done, raised⟩
    · rw [refused]
      exact Or.inl ⟨fault, rfl, same, fun eq => absurd eq left⟩
    · rw [done]
      exact Or.inr ⟨id, rfl, raised, next⟩

/-- The highest number after an operation is the highest before it, or that of
the account it has opened. -/
theorem highest_next_eq (clock : Clock) (ledger : Ledger)
    (operation : Operation) :
    (next clock ledger operation).highest.getD 0 =
      max (ledger.highest.getD 0) (AccountId.highest
        (openedBy (answer ((perform clock operation).run ledger))).toList) := by
  by_cases opens : ∃ given owner kind, operation = .openAccount given owner kind
  · obtain ⟨given, owner, kind, rfl⟩ := opens
    unfold next
    rcases openAccount_cases clock ledger given owner kind with
      ⟨fault, refused, same, -⟩ | ⟨id, done, raised, -⟩
    · rw [refused, same]
      exact (Nat.max_zero _).symm
    · rw [done, raised]
      show _ = max _ (max id.number 0)
      rw [Nat.max_zero]
  · have opens_none : ∀ given owner kind,
        operation ≠ .openAccount given owner kind :=
      fun given owner kind eq => opens ⟨given, owner, kind, eq⟩
    rw [highest_next clock ledger opens_none,
      (Lawful.performs clock operation ledger).openedBy_eq_none opens_none]
    exact (Nat.max_zero _).symm

/-- The ledger knows the highest number of all accounts that were opened. -/
theorem highest_after (clock : Clock) (operations : List Operation) (n : Nat) :
    (after clock Ledger.empty (operations.take n)).highest.getD 0 =
      AccountId.highest (opened clock Ledger.empty (operations.take n)) := by
  induction n with
  | zero => rfl
  | succ n ih =>
    by_cases inside : n < operations.length
    · rw [after_take_succ clock _ _ inside, highest_next_eq, ih,
        opened_take_succ clock _ inside, highest_append]
    · rw [List.take_of_length_le (by omega)] at ih ⊢
      exact ih

/-- An operation keeps to the order of numbers if the ledger knows the highest
there was. -/
theorem orderly (clock : Clock) {past : List AccountId}
    (known : ledger.highest.getD 0 = AccountId.highest past)
    (operation : Operation) : Orderly clock past ledger operation := by
  have next_eq : ledger.nextId = issue (AccountId.highest past + 1) := by
    rw [InStep.nextId_ledger, known]
  have none_left : ledger.nextId = .error .idsExhausted → last ∈ past := by
    rw [next_eq]
    exact last_mem_of_issue
  constructor
  · rintro owner kind id rfl opens
    rcases openAccount_cases clock ledger none owner kind with
      ⟨fault, refused, -, -⟩ | ⟨other, done, -, is_next⟩
    · rw [refused] at opens
      cases opens
    · rw [done] at opens
      cases opens
      have issued := is_next rfl
      rw [next_eq] at issued
      have number_eq := issue_eq_ok_iff.1 issued
      refine ⟨number_eq, fun mem => ?_⟩
      have below := number_le_highest mem
      omega
  · rintro given owner kind fault rfl refused
    rcases openAccount_cases clock ledger given owner kind with
      ⟨-, -, same, -⟩ | ⟨id, done, -, -⟩
    · exact congrArg nextId same
    · rw [done] at refused
      cases refused
  · rintro (exhausted | none_next)
    · obtain ⟨owner, kind, rfl⟩ := opensNext_of_exhausted exhausted
      rcases openAccount_cases clock ledger none owner kind with
        ⟨fault, refused, -, left⟩ | ⟨id, done, -, -⟩
      · rw [refused] at exhausted
        exact none_left (left (Except.error.inj exhausted))
      · rw [done] at exhausted
        cases exhausted
    · exact none_left none_next
  · rintro mem owner kind rfl
    have none_next : ledger.nextId = .error .idsExhausted := by
      rw [next_eq, last_mem_iff.1 mem]
      rfl
    rw [answer_perform_openAccount]
    show (answer ((openNext owner kind).run ledger)).map _ = _
    rw [run_openNext, none_next]
    rfl

end Ledger

/-! ## The ledger that workers share -/

/-- A new account is not refused because of its id. -/
theorem Account.new_ne_duplicate (id : AccountId) (owner : OwnerId)
    (kind : AccountKind) (text : String) :
    Account.new id owner kind ≠ .error (.duplicateAccount text) := by
  have yields : Yields (· ≠ .duplicateAccount text)
      (Account.new id owner kind) := by
    refine Yields.bind ?_ fun _ => .ok _
    cases kind with
    | savings rate => exact .ite (.error nofun) (.ok _)
    | checking limit =>
      refine .ite (.error nofun) (.bind ?_ fun _ => .ok _)
      exact .ite (.ok _) (.error nofun)
  exact fun taken => yields _ taken rfl

/-- Whether an operation wastes no number: while there are ids left, it asks for
no account of an invalid kind without giving an id. -/
def Operation.Thrifty (past : List AccountId) (operation : Operation) : Prop :=
  ∀ owner kind, operation = .openAccount none owner kind →
    kind.validate = .ok kind ∨ last ∈ past

/-- How many times the counter of 32 bits can be advanced behind the last id
until the next number is zero. -/
def counterSpan : Nat := 4294966296

namespace SharedLedger

variable {clock : Clock} {ledger : SharedLedger} {past : List AccountId}
  {tries : Nat}

/-- Whether the counter is at the highest number of all accounts that were
opened, and has been advanced `tries` times since there are no ids left. -/
structure Level (past : List AccountId) (tries : Nat) (ledger : SharedLedger) :
    Prop where
  counter : ledger.counter.toNat = AccountId.highest past + tries
  full : tries = 0 ∨ last ∈ past
  known : ∀ id, (ledger.accounts.find? id).isSome → id ∈ past

/-- What opening leaves if the kind is not valid: the number is gone. -/
theorem openNextFrom_of_invalid
    (in_range : (ledger.counter + 1).toNat < 1000) (owner : OwnerId)
    {kind : AccountKind} (invalid : kind.validate ≠ .ok kind) :
    ∃ fault, fault ≠ .idsExhausted ∧ openNextFrom owner kind ledger =
      .error fault { ledger with counter := ledger.counter + 1 } := by
  let id : AccountId := ⟨(ledger.counter + 1).toNat, in_range⟩
  cases fresh : Account.new id owner kind with
  | ok account => exact absurd (Account.new_eq_ok_iff.1 fresh).1 invalid
  | error fault =>
    have tried : tryNext owner kind ledger in_range =
        .error fault { ledger with counter := ledger.counter + 1 } := by
      have run : tryNext owner kind ledger in_range = _ :=
        run_openAs (.still default) id owner kind
      unfold opening at run
      rw [fresh] at run
      exact run
    refine ⟨fault, (Account.yields_new id owner kind fault fresh).1, ?_⟩
    rw [openNextFrom_of_free ledger in_range, tried]
    intro text taken
    rw [tried] at taken
    cases taken
    exact Account.new_ne_duplicate id owner kind text fresh

namespace Level

theorem toNat_advanced (level : Level past tries ledger)
    (few : tries < counterSpan) :
    (ledger.counter + 1).toNat = AccountId.highest past + tries + 1 := by
  have bound := highest_le past
  have counter := level.counter
  unfold maxNumber at bound
  unfold counterSpan at few
  rw [UInt32.toNat_add]
  show (ledger.counter.toNat + 1) % 4294967296 = _
  omega

/-- The next id is the one after the highest, if there is one. -/
theorem nextId_eq (level : Level past tries ledger)
    (few : tries < counterSpan) :
    ledger.nextId = issue (AccountId.highest past + 1) := by
  have advanced := level.toNat_advanced few
  unfold SharedLedger.nextId
  rw [advanced]
  rcases level.full with rfl | full
  · rfl
  · have highest_eq := last_mem_iff.1 full
    rw [issue_eq_error_iff.2 ⟨by omega, rfl⟩,
      issue_eq_error_iff.2 ⟨by omega, rfl⟩]

/-- The number behind the counter is free. -/
theorem find?_advanced (level : Level past tries ledger) {id : AccountId}
    (behind : id.number = AccountId.highest past + tries + 1) :
    ledger.accounts.find? id = none := by
  rw [← Option.not_isSome_iff_eq_none]
  intro taken
  have below := number_le_highest (level.known id taken)
  omega

/-- How opening without a given id can end: with the account after the highest,
with a number wasted on an invalid kind, or with no ids left. The counter is
advanced in each case. -/
theorem openNext_cases (level : Level past tries ledger)
    (few : tries < counterSpan) (clock : Clock) (owner : OwnerId)
    (kind : AccountKind) :
    let run := (perform clock (.openAccount none owner kind)).run ledger
    (state run).counter = ledger.counter + 1 ∧
    ((last ∉ past ∧ kind.validate = .ok kind ∧ ∃ id,
        answer run = .ok (.opened id) ∧
        id.number = AccountId.highest past + 1) ∨
      (last ∉ past ∧ kind.validate ≠ .ok kind ∧ ∃ fault,
        answer run = .error fault ∧ fault ≠ .idsExhausted) ∨
      (last ∈ past ∧ answer run = .error .idsExhausted)) := by
  intro run
  have answered : answer run =
      (answer (openNextFrom owner kind ledger)).map .opened :=
    answer_perform_openAccount clock none owner kind ledger
  have reached : state run = state (openNextFrom owner kind ledger) :=
    state_perform_openAccount clock none owner kind ledger
  rw [answered, reached]
  have advanced := level.toNat_advanced few
  have bound := highest_le past
  have last_iff : last ∈ past ↔ AccountId.highest past = 999 := last_mem_iff
  by_cases in_range : (ledger.counter + 1).toNat < 1000
  · -- ids are left, so the counter was never advanced in vain
    have left : last ∉ past := by
      rw [last_iff]
      omega
    have none_tried : tries = 0 := level.full.resolve_right left
    have free : ledger.accounts.find? ⟨(ledger.counter + 1).toNat, in_range⟩ =
        none := level.find?_advanced advanced
    by_cases valid : kind.validate = .ok kind
    · rw [openNextFrom_of_unused in_range free owner valid]
      refine ⟨rfl, Or.inl ⟨left, valid, _, rfl, ?_⟩⟩
      show (ledger.counter + 1).toNat = _
      omega
    · obtain ⟨fault, other, refused⟩ :=
        openNextFrom_of_invalid in_range owner valid
      rw [refused]
      exact ⟨rfl, Or.inr (Or.inl ⟨left, valid, fault, rfl, other⟩)⟩
  · have full : last ∈ past := by
      rcases level.full with rfl | full
      · unfold maxNumber at bound
        rw [last_iff]
        omega
      · exact full
    rw [openNextFrom, dif_neg in_range]
    exact ⟨rfl, Or.inr (Or.inr ⟨full, rfl⟩)⟩

end Level

/-- Opening under a given id leaves the ledger alone, or brings the counter up
to the number of the id. -/
theorem openAs_cases (clock : Clock) (ledger : SharedLedger) (id : AccountId)
    (owner : OwnerId) (kind : AccountKind) :
    let run := (perform clock (.openAccount (some id) owner kind)).run ledger
    (∃ fault, answer run = .error fault ∧ state run = ledger ∧
      fault ≠ .idsExhausted) ∨
    (answer run = .ok (.opened id) ∧
      (state run).counter.toNat = max ledger.counter.toNat id.number) := by
  intro run
  have answered : answer run =
      (answer ((openAs id owner kind).run ledger)).map .opened :=
    answer_perform_openAccount clock (some id) owner kind ledger
  have reached : state run = state ((openAs id owner kind).run ledger) :=
    state_perform_openAccount clock (some id) owner kind ledger
  have plain := yields_openAs id owner kind ledger
  rw [answered, reached]
  rw [run_openAs clock] at plain ⊢
  cases posts : opening ledger.accounts.find? id owner kind with
  | error fault =>
    rw [posts] at plain
    exact Or.inl ⟨fault, rfl, rfl, (plain fault rfl).1⟩
  | ok posting => exact Or.inr ⟨rfl, InStep.toNat_max_ofNat ledger.counter id⟩

/-- Whether the counter goes up with an operation by what the account that is
opened, or the lack of ids, asks for. -/
structure Tallies (clock : Clock) (past : List AccountId) (tries : Nat)
    (ledger : SharedLedger) (operation : Operation) : Prop where
  counter : (next clock ledger operation).counter.toNat =
    max (AccountId.highest past) (AccountId.highest
      (openedBy (answer ((perform clock operation).run ledger))).toList) +
      (tries +
        (isExhausted (answer ((perform clock operation).run ledger))).toNat)
  full : isExhausted (answer ((perform clock operation).run ledger)) = true →
    last ∈ past

namespace Level

theorem tallies_openAs (level : Level past tries ledger) (clock : Clock)
    (id : AccountId) (owner : OwnerId) (kind : AccountKind) :
    Tallies clock past tries ledger (.openAccount (some id) owner kind) := by
  have counter := level.counter
  have full := level.full.imp_right last_mem_iff.1
  have in_range : id.number ≤ maxNumber := Nat.le_of_lt_succ id.number_lt
  constructor
  · unfold next
    rcases openAs_cases clock ledger id owner kind with
      ⟨fault, refused, same, other⟩ | ⟨done, raised⟩
    · have left : isExhausted (.error fault) = false :=
        isExhausted_eq_false fun eq => other (Except.error.inj eq)
      rw [same, refused, left]
      show _ = max _ 0 + (tries + 0)
      omega
    · rw [raised, done]
      show _ = max _ (max id.number 0) + (tries + 0)
      omega
  · intro exhausted
    exact absurd (isExhausted_iff.1 exhausted)
      (not_exhausted fun _ _ => nofun)

theorem tallies_openNext (level : Level past tries ledger)
    (few : tries < counterSpan) (clock : Clock) {owner : OwnerId}
    {kind : AccountKind}
    (thrifty : kind.validate = .ok kind ∨ last ∈ past) :
    Tallies clock past tries ledger (.openAccount none owner kind) := by
  have advanced_eq := level.toNat_advanced few
  obtain ⟨advanced, outcomes⟩ := level.openNext_cases few clock owner kind
  rcases outcomes with ⟨left, -, id, done, number_eq⟩ | ⟨left, invalid, -⟩ |
    ⟨full, exhausted⟩
  · constructor
    · unfold next
      rw [advanced, done]
      show _ = max _ (max id.number 0) + (tries + 0)
      omega
    · rw [done]
      nofun
  · exact absurd thrifty (not_or.2 ⟨invalid, left⟩)
  · refine ⟨?_, fun _ => full⟩
    unfold next
    rw [advanced, exhausted]
    show _ = max _ 0 + (tries + 1)
    omega

theorem tallies_of_opens_none (level : Level past tries ledger) (clock : Clock)
    {operation : Operation}
    (opens_none : ∀ given owner kind,
      operation ≠ .openAccount given owner kind) :
    Tallies clock past tries ledger operation := by
  have counter := level.counter
  have left : isExhausted
      (answer ((perform clock operation).run ledger)) = false :=
    isExhausted_eq_false (not_exhausted (opens_none none))
  have opened_none :=
    (Lawful.performs clock operation ledger).openedBy_eq_none opens_none
  constructor
  · rw [counter_next clock ledger opens_none, opened_none, left]
    show _ = max _ 0 + (tries + 0)
    omega
  · rw [left]
    nofun

theorem tallies (level : Level past tries ledger) (few : tries < counterSpan)
    (clock : Clock) {operation : Operation}
    (thrifty : operation.Thrifty past) :
    Tallies clock past tries ledger operation := by
  by_cases opens : ∃ given owner kind, operation = .openAccount given owner kind
  · obtain ⟨given, owner, kind, rfl⟩ := opens
    cases given with
    | some id => exact level.tallies_openAs clock id owner kind
    | none => exact level.tallies_openNext few clock (thrifty owner kind rfl)
  · exact level.tallies_of_opens_none clock fun given owner kind eq =>
      opens ⟨given, owner, kind, eq⟩

/-- The ledger stays level if no number is wasted. -/
theorem next (level : Level past tries ledger) (few : tries < counterSpan)
    (clock : Clock) {operation : Operation}
    (thrifty : operation.Thrifty past) :
    Level
      (past ++
        (openedBy (answer ((perform clock operation).run ledger))).toList)
      (tries +
        (isExhausted (answer ((perform clock operation).run ledger))).toNat)
      (Bookkeeping.next clock ledger operation) := by
  have moved := level.tallies few clock thrifty
  refine ⟨by rw [moved.counter, highest_append], ?_, ?_⟩
  · cases exhausted :
      isExhausted (answer ((perform clock operation).run ledger)) with
    | false => exact level.full.imp_right (List.mem_append_left _)
    | true => exact Or.inr (List.mem_append_left _ (moved.full exhausted))
  · intro id is_open
    obtain ⟨written, extension⟩ :=
      (Lawful.performs clock operation ledger).extends
    rw [List.mem_append, Option.mem_toList]
    rcases extension.opened_or_open is_open with opens | was_open
    · exact Or.inr opens
    · exact Or.inl (level.known id was_open)

/-- The next id once the counter has been advanced. -/
theorem nextId_of_advanced (level : Level past tries ledger)
    (few : tries < counterSpan) {reached : SharedLedger}
    (advanced : reached.counter = ledger.counter + 1) :
    reached.nextId =
      issue ((AccountId.highest past + tries + 2) % 4294967296) := by
  have advanced_eq := level.toNat_advanced few
  unfold SharedLedger.nextId
  rw [advanced, UInt32.toNat_add, advanced_eq]
  rfl

/-- An operation keeps to the order if it wastes no number. -/
theorem orderly (level : Level past tries ledger) (few : tries < counterSpan)
    (clock : Clock) {operation : Operation} (thrifty : operation.Thrifty past)
    (few_later : tries +
      (isExhausted (answer ((perform clock operation).run ledger))).toNat <
        counterSpan) :
    Orderly clock past ledger operation := by
  constructor
  · rintro owner kind id rfl opens
    rcases (level.openNext_cases few clock owner kind).2 with
      ⟨-, -, other, done, number_eq⟩ | ⟨-, -, fault, refused, -⟩ |
        ⟨-, exhausted⟩
    · rw [done] at opens
      cases opens
      refine ⟨number_eq, fun mem => ?_⟩
      have below := number_le_highest mem
      omega
    · rw [refused] at opens
      cases opens
    · rw [exhausted] at opens
      cases opens
  · -- no account is added to the past, so the next id is the same
    intro given owner kind fault _ refused
    have next_eq := (level.next few clock thrifty).nextId_eq few_later
    rw [refused] at next_eq
    have same : past ++ (openedBy (.error fault)).toList = past :=
      List.append_nil past
    rw [same, ← level.nextId_eq few] at next_eq
    exact next_eq
  · rintro (exhausted | none_next)
    · exact (level.tallies few clock thrifty).full
        (isExhausted_iff.2 exhausted)
    · have next_eq : ledger.nextId = .error .idsExhausted := none_next
      rw [level.nextId_eq few] at next_eq
      exact last_mem_of_issue next_eq
  · rintro full owner kind rfl
    rcases (level.openNext_cases few clock owner kind).2 with
      ⟨left, -⟩ | ⟨left, -⟩ | ⟨-, exhausted⟩
    · exact absurd full left
    · exact absurd full left
    · exact exhausted

/-- An operation that keeps to the order wastes no number: the next id would not
be the same after it. -/
theorem thrifty_of_orderly (level : Level past tries ledger)
    (few : tries < counterSpan) {operation : Operation}
    (orderly : Orderly clock past ledger operation) :
    operation.Thrifty past := by
  rintro owner kind rfl
  obtain ⟨advanced, outcomes⟩ := level.openNext_cases few clock owner kind
  rcases outcomes with ⟨-, valid, -⟩ | ⟨left, -, fault, refused, -⟩ | ⟨full, -⟩
  · exact Or.inl valid
  · have kept : SharedLedger.nextId _ = ledger.nextId :=
      orderly.refused none owner kind fault rfl refused
    have none_tried : tries = 0 := level.full.resolve_right left
    have bound := highest_le past
    have not_full : AccountId.highest past ≠ maxNumber :=
      fun full => left (last_mem_iff.2 full)
    unfold maxNumber at bound not_full
    let id : AccountId := ⟨AccountId.highest past + 1, by omega⟩
    have next_eq : ledger.nextId = .ok id := by
      rw [level.nextId_eq few]
      exact issue_eq_ok_iff.2 rfl
    rw [Bookkeeping.next, level.nextId_of_advanced few advanced,
      next_eq] at kept
    have number_eq : AccountId.highest past + 1 = _ := issue_eq_ok_iff.1 kept
    omega
  · exact Or.inr full

/-- Nor does it use up the last number of the counter. -/
theorem few_of_orderly (level : Level past tries ledger)
    (few : tries < counterSpan) {operation : Operation}
    (orderly : Orderly clock past ledger operation) :
    tries +
      (isExhausted (answer ((perform clock operation).run ledger))).toNat <
        counterSpan := by
  cases none_left :
      isExhausted (answer ((perform clock operation).run ledger)) with
  | false => exact few
  | true =>
    have exhausted := isExhausted_iff.1 none_left
    have full := last_mem_iff.1 (orderly.exhausted (Or.inl exhausted))
    obtain ⟨owner, kind, rfl⟩ := opensNext_of_exhausted exhausted
    have advanced := (level.openNext_cases few clock owner kind).1
    have kept : SharedLedger.nextId _ = ledger.nextId :=
      orderly.refused none owner kind .idsExhausted rfl exhausted
    rw [Bookkeeping.next, level.nextId_of_advanced few advanced,
      level.nextId_eq few, full] at kept
    -- there was no next id and is none now, so the counter is not back at zero
    have past_last := (issue_eq_error_iff.1 kept).1
    unfold maxNumber at past_last
    unfold counterSpan at few ⊢
    show tries + 1 < 4294966296
    omega

end Level

/-! ### Runs -/

variable {operations : List Operation} {n : Nat}

/-- How often a run is answered that there are no ids left. -/
def exhaustions (clock : Clock) (operations : List Operation) : Nat :=
  (answers clock SharedLedger.empty operations).countP isExhausted

theorem exhaustions_take_succ (clock : Clock) (inside : n < operations.length) :
    exhaustions clock (operations.take (n + 1)) =
      exhaustions clock (operations.take n) +
        (isExhausted (answer ((perform clock operations[n]).run
          (after clock SharedLedger.empty (operations.take n))))).toNat := by
  unfold exhaustions
  rw [answers_take_succ clock _ inside, List.countP_append,
    List.countP_singleton]
  cases isExhausted _ <;> rfl

theorem exhaustions_take_le (clock : Clock) (operations : List Operation)
    (n : Nat) :
    exhaustions clock (operations.take n) ≤ exhaustions clock operations := by
  have parts := answers_append clock SharedLedger.empty (operations.take n)
    (operations.drop n)
  rw [List.take_append_drop] at parts
  unfold exhaustions
  rw [parts, List.countP_append]
  exact Nat.le_add_right _ _

/-- Whether no operation of a run from an empty ledger wastes a number before
the `n`th. -/
def ThriftyBefore (clock : Clock) (operations : List Operation) (n : Nat) :
    Prop :=
  ∀ k (inside : k < operations.length), k < n →
    operations[k].Thrifty
      (opened clock SharedLedger.empty (operations.take k))

/-- A run that has wasted no number leaves the ledger level. -/
theorem level_after (clock : Clock)
    (thrifty : ThriftyBefore clock operations n)
    (few : exhaustions clock (operations.take n) < counterSpan) :
    Level (opened clock SharedLedger.empty (operations.take n))
      (exhaustions clock (operations.take n))
      (after clock SharedLedger.empty (operations.take n)) := by
  induction n with
  | zero => exact ⟨rfl, Or.inl rfl, nofun⟩
  | succ n ih =>
    by_cases inside : n < operations.length
    · rw [exhaustions_take_succ clock inside] at few ⊢
      have few_before : exhaustions clock (operations.take n) < counterSpan :=
        Nat.lt_of_le_of_lt (Nat.le_add_right _ _) few
      have level := ih
        (fun k inside before => thrifty k inside (Nat.lt_succ_of_lt before))
        few_before
      rw [after_take_succ clock _ _ inside, opened_take_succ clock _ inside]
      exact level.next few_before clock
        (thrifty n inside (Nat.lt_succ_self n))
    · rw [List.take_of_length_le (by omega)] at ih few ⊢
      exact ih
        (fun k inside before => thrifty k inside (Nat.lt_succ_of_lt before)) few

/-- A run that keeps to the order has wasted no number at any stage. -/
theorem thrifty_of_inOrder {clock : Clock}
    (inOrder : InOrder SharedLedger clock operations) (n : Nat) :
    ThriftyBefore clock operations n ∧
      exhaustions clock (operations.take n) < counterSpan := by
  induction n with
  | zero => exact ⟨nofun, show 0 < counterSpan by decide⟩
  | succ n ih =>
    obtain ⟨thrifty, few⟩ := ih
    by_cases inside : n < operations.length
    · -- what was thrifty so far leaves a level ledger, which judges the next
      have level := level_after clock thrifty few
      refine ⟨?_, ?_⟩
      · intro k k_inside before
        rcases Nat.lt_succ_iff_lt_or_eq.1 before with before | rfl
        · exact thrifty k k_inside before
        · exact level.thrifty_of_orderly few (inOrder k k_inside)
      · rw [exhaustions_take_succ clock inside]
        exact level.few_of_orderly few (inOrder n inside)
    · refine ⟨fun k k_inside _ => thrifty k k_inside (by omega), ?_⟩
      rw [List.take_of_length_le (by omega)] at few ⊢
      exact few

theorem inOrder_of_thrifty {clock : Clock}
    (thrifty : ThriftyBefore clock operations operations.length)
    (few : exhaustions clock operations < counterSpan) :
    InOrder SharedLedger clock operations := by
  intro n inside
  have few_at : ∀ n, exhaustions clock (operations.take n) < counterSpan :=
    fun n => Nat.lt_of_le_of_lt (exhaustions_take_le clock operations n) few
  have level := level_after clock
    (fun k k_inside before => thrifty k k_inside (by omega)) (few_at n)
  have few_later := few_at (n + 1)
  rw [exhaustions_take_succ clock inside] at few_later
  exact level.orderly (few_at n) clock (thrifty n inside inside) few_later

end SharedLedger

/--
Every run on the ledger of one owner keeps to the order of numbers. A run on the
shared ledger does precisely if no operation asks for an account of an invalid
kind without giving an id while there are ids left, and if fewer operations are
answered that there are none than the counter has numbers behind the last.
-/
theorem inOrder_iff (clock : Clock) (operations : List Operation) :
    InOrder Ledger clock operations ∧
      (InOrder SharedLedger clock operations ↔
        (∀ n (inside : n < operations.length),
          operations[n].Thrifty
            (opened clock SharedLedger.empty (operations.take n))) ∧
        SharedLedger.exhaustions clock operations < counterSpan) := by
  constructor
  · intro n inside
    exact Ledger.orderly clock (Ledger.highest_after clock operations n) _
  · constructor
    · intro inOrder
      obtain ⟨thrifty, few⟩ :=
        SharedLedger.thrifty_of_inOrder inOrder operations.length
      rw [List.take_length] at few
      exact ⟨fun n inside => thrifty n inside inside, few⟩
    · rintro ⟨thrifty, few⟩
      exact SharedLedger.inOrder_of_thrifty
        (fun k inside _ => thrifty k inside) few

/-- A savings account at a rate of two, which no account can have. -/
def doubling : AccountKind :=
  .savings ⟨false, 2, 0, by decide, Decimal.no_places_le⟩

/-- Asked for it in the shared ledger, the bank refuses, and the next id is not
the first any more. -/
theorem not_inOrder :
    ¬ ∀ (clock : Clock) (operations : List Operation),
      InOrder SharedLedger clock operations := by
  intro inOrder
  let owner : OwnerId := ⟨1, by decide⟩
  have invalid : doubling.validate ≠ .ok doubling := nofun
  obtain ⟨fault, -, run⟩ :=
    @SharedLedger.openNextFrom_of_invalid .empty (by decide) owner _ invalid
  have refused : answer ((perform (.still default)
      (.openAccount none owner doubling)).run SharedLedger.empty) =
        .error fault := by
    rw [answer_perform_openAccount]
    show (answer (SharedLedger.openNextFrom owner doubling .empty)).map _ = _
    rw [run]
    rfl
  have reached : next (.still default) SharedLedger.empty
      (.openAccount none owner doubling) = ⟨.empty, .empty, 1⟩ := by
    unfold next
    rw [state_perform_openAccount]
    show state (SharedLedger.openNextFrom owner doubling .empty) = _
    rw [run]
    rfl
  have kept := (inOrder (.still default) [.openAccount none owner doubling] 0
    (by decide)).refused none owner doubling fault rfl refused
  have same : nextId (next (.still default) SharedLedger.empty
      (.openAccount none owner doubling)) = nextId SharedLedger.empty := kept
  rw [reached] at same
  have number_eq := (@issue_eq_ok_iff 2 ⟨1, by decide⟩).1 same
  cases number_eq

end Passbook
