import Passbook.Proofs.Decimal.Places
import Passbook.Proofs.Decimal.Reading
import Passbook.Proofs.Trail
import Passbook.Script.Verb

/-!
# What a script says and what is booked

A row that asks for a movement has its amount written out as a numeral. The
amount is checked for places, but what is checked is the decimal that was read
and not the text, and reading rounds. So an amount with a one in the 29th place
passes for one without it, and is booked.

Apart from that a row is booked to the letter: if any decimal is worth the
numeral, then a record of the row has exactly this amount, and there is none if
the numeral is finer than money.

## Main results

* `Performs.amount_of_written` — a movement is booked at the amount asked for.
* `Row.amount_of_toCommand` — the amount asked for is what is read of the
  numeral.
* `booked_to_letter_iff` — rows are booked to the letter exactly if a decimal is
  worth what they say, or nothing is booked at all.
* `not_booked_to_letter` — there is a row that is not.
-/

namespace Passbook

/-! ## Amounts -/

/-- The amount that a movement is asked for. -/
def Operation.amount? : Operation → Option Decimal
  | deposit _ amount | withdraw _ amount | transfer _ _ amount => some amount
  | openAccount .. | closeAccount _ | creditInterest _ | setLimit .. => none

theorem Change.amount_of_written (clock : Clock) {books : Books}
    {operation : Operation} {posting : Posting} {amount : Decimal}
    (change : Change books.accounts.find? operation posting)
    (asked : operation.amount? = some amount) :
    ∃ written, (posting.write clock books).journal.records.toList =
        books.journal.records.toList ++ written ∧
      ∀ record ∈ written,
        record.amount = amount ∧ checkAmount amount = .ok () := by
  cases change with
  | deposited valid | withdrawn valid | notWithdrawn valid
  | transferred valid | notTransferred valid =>
    cases asked
    refine ⟨_, Array.toList_push, ?_⟩
    intro record mem
    rw [List.mem_singleton.1 mem]
    exact ⟨rfl, valid⟩
  | opened | closed | credited | notCredited | limited => cases asked

/-- What is booked of a movement has the amount that was asked for, and only
valid amounts are booked. -/
theorem Performs.amount_of_written {clock : Clock} {books books' : Books}
    {operation : Operation} {answer : Except Fault Outcome} {amount : Decimal}
    (performs : Performs clock books operation answer books')
    (asked : operation.amount? = some amount) :
    ∃ written, books'.journal.records.toList =
        books.journal.records.toList ++ written ∧
      ∀ record ∈ written,
        record.amount = amount ∧ checkAmount amount = .ok () := by
  cases performs with
  | refused fault => exact ⟨[], (List.append_nil _).symm, nofun⟩
  | posted change => exact change.amount_of_written clock asked
  | creditedAll credits => cases asked

theorem Desk.amount_of_written {β : Type} [Bookkeeping β] [Bookkeeping.Lawful β]
    {clock : Clock} {desk : Desk β} {command : Command} {amount : Decimal}
    (asked : command.operation.amount? = some amount) :
    ∀ record ∈ desk.written clock command,
      record.amount = amount ∧ checkAmount amount = .ok () := by
  obtain ⟨records, grown, amounts⟩ :=
    (performs_execute clock desk command).amount_of_written asked
  rw [written_eq grown]
  exact amounts

/-! ## Rows -/

namespace Script

open Transact

/-- Whether a verb asks for money to be moved. -/
def Verb.Moves : Verb → Prop
  | deposit | withdraw | transfer => True
  | openAccount | close | interest | setLimit => False

namespace Row

/-- Whether a row asks for money to be moved. -/
def Moves (row : Row) : Prop :=
  ∃ verb, Verb.ofName? row.command = some verb ∧ verb.Moves

/-- Whether the amount of a row is a numeral, perhaps with blanks around it. -/
def Spells (row : Row) (numeral : Numeral) : Prop :=
  row.amount.map Text.trim = some numeral.text

variable {row : Row} {numeral : Numeral} {amount : Decimal}

theorem spells_of_eq (eq : row.amount = some numeral.text) :
    row.Spells numeral := by
  unfold Spells
  rw [eq, Option.map_some, Numeral.trim_text]

theorem ofText?_of_neededAmount (spells : row.Spells numeral)
    (needs : row.neededAmount = .ok amount) :
    Decimal.ofText? numeral.text = some amount := by
  obtain ⟨text, found, read⟩ := bind_eq_ok needs
  have text_eq : text = numeral.text := by
    unfold needed content at found
    rw [spells] at found
    split at found
    case h_1 kept =>
      obtain ⟨same, -⟩ := Option.filter_eq_some_iff.1 kept
      cases found
      exact (Option.some.inj same).symm
    case h_2 => cases found
  rw [text_eq] at read
  unfold readAmount at read
  split at read
  case h_1 parsed =>
    cases read
    exact parsed
  case h_2 => cases read

/-- The amount of a command is what is read of the numeral. -/
theorem amount_of_toCommand {command : Command} (moves : row.Moves)
    (spells : row.Spells numeral) (converts : row.toCommand = .ok command) :
    ∃ amount, command.operation.amount? = some amount ∧
      Decimal.ofText? numeral.text = some amount := by
  obtain ⟨verb, verb_eq, moves⟩ := moves
  obtain ⟨principal, -, converts⟩ := bind_eq_ok converts
  rw [verb_eq] at converts
  obtain ⟨operation, operation_eq, converts⟩ := bind_eq_ok converts
  cases converts
  cases verb with
  | deposit | withdraw =>
    obtain ⟨account, -, operation_eq⟩ := bind_eq_ok operation_eq
    obtain ⟨amount, needs, operation_eq⟩ := bind_eq_ok operation_eq
    cases operation_eq
    exact ⟨amount, rfl, ofText?_of_neededAmount spells needs⟩
  | transfer =>
    obtain ⟨source, -, operation_eq⟩ := bind_eq_ok operation_eq
    obtain ⟨text, -, operation_eq⟩ := bind_eq_ok operation_eq
    obtain ⟨destination, -, operation_eq⟩ := bind_eq_ok operation_eq
    obtain ⟨amount, needs, operation_eq⟩ := bind_eq_ok operation_eq
    cases operation_eq
    exact ⟨amount, rfl, ofText?_of_neededAmount spells needs⟩
  | openAccount | close | interest | setLimit => exact moves.elim

end Row

/-! ## Booking -/

variable {β : Type} [Bookkeeping β]

/-- The records that a row adds to the journal; a row that is no command adds
none. -/
def Row.booked (clock : Clock) (desk : Desk β) (row : Row) : List Record :=
  match row.toCommand with
  | .ok command => desk.written clock command
  | .error _ => []

/-- What is booked of a row is what was read of its numeral, and valid. -/
theorem Row.amount_of_booked [Bookkeeping.Lawful β] {clock : Clock}
    {desk : Desk β} {row : Row} {numeral : Numeral} (moves : row.Moves)
    (spells : row.Spells numeral) :
    ∀ record ∈ row.booked clock desk,
      Decimal.ofText? numeral.text = some record.amount ∧
        checkAmount record.amount = .ok () := by
  intro record mem
  unfold booked at mem
  split at mem
  case h_1 command converts =>
    obtain ⟨amount, asked, read⟩ := amount_of_toCommand moves spells converts
    obtain ⟨rfl, valid⟩ := Desk.amount_of_written asked record mem
    exact ⟨read, valid⟩
  case h_2 => cases mem

/-- Whether a row whose amount is a numeral is booked to the letter. -/
structure Faithful (clock : Clock) (desk : Desk β) (row : Row)
    (numeral : Numeral) : Prop where
  /-- What is booked is what the row says. -/
  exactly : ∀ record ∈ row.booked clock desk,
    record.amount.value = numeral.value
  /-- Nothing is booked of an amount that is finer than money. -/
  precise : (∃ k ∈ numeral.decimals.drop moneyPlaces, k ≠ 0) →
    row.booked clock desk = []

theorem Row.faithful_iff [Bookkeeping.Lawful β] {clock : Clock}
    {desk : Desk β} {row : Row} {numeral : Numeral} (moves : row.Moves)
    (spells : row.Spells numeral) :
    Faithful clock desk row numeral ↔
      row.booked clock desk = [] ∨
        ∃ d : Decimal, d.value = numeral.value := by
  have amounts : ∀ record ∈ row.booked clock desk,
      Decimal.ofText? numeral.text = some record.amount ∧
        checkAmount record.amount = .ok () :=
    row.amount_of_booked moves spells
  constructor
  · intro faithful
    cases booked : row.booked clock desk with
    | nil => exact Or.inl rfl
    | cons record rest =>
      exact Or.inr ⟨record.amount,
        faithful.exactly record (booked ▸ List.mem_cons_self)⟩
  · rintro (nothing | representable)
    · exact ⟨nothing ▸ nofun, fun _ => nothing⟩
    · have exactly : ∀ record ∈ row.booked clock desk,
          record.amount.value = numeral.value := fun record mem =>
        (Numeral.value_of_ofText? (amounts record mem).1).2 representable
      refine ⟨exactly, ?_⟩
      rintro ⟨k, k_mem, k_ne⟩
      apply List.eq_nil_iff_forall_not_mem.2
      intro record mem
      have places_le := (checkAmount_eq_ok_iff.1 (amounts record mem).2).2
      exact k_ne (Numeral.drop_decimals_eq_zero (exactly record mem)
        places_le k k_mem)

/-- On either ledger, a row whose amount is a numeral is booked to the letter
exactly if nothing is booked or a decimal is worth the numeral. -/
theorem booked_to_letter_iff (clock : Clock) {row : Row} {numeral : Numeral}
    (moves : row.Moves) (spells : row.Spells numeral) :
    (∀ desk : Desk Ledger, Faithful clock desk row numeral ↔
      row.booked clock desk = [] ∨ ∃ d : Decimal, d.value = numeral.value) ∧
    ∀ desk : Desk SharedLedger, Faithful clock desk row numeral ↔
      row.booked clock desk = [] ∨ ∃ d : Decimal, d.value = numeral.value :=
  ⟨fun _ => Row.faithful_iff moves spells,
    fun _ => Row.faithful_iff moves spells⟩

/-- One, and a one in the 29th place. -/
def overlong : Numeral :=
  ⟨none, [1], some (List.replicate 28 0 ++ [1])⟩

/-- The row of a deposit on behalf of an administrator. -/
def depositRow (amount : Numeral) : Row where
  type := "deposit"
  principal := some "admin"
  account := some "ACC001"
  destination := none
  owner := none
  kind := none
  amount := some amount.text

theorem moves_depositRow (amount : Numeral) : (depositRow amount).Moves :=
  ⟨.deposit, (by decide : Verb.ofName? (Text.lower (Text.trim "deposit")) = _),
    trivial⟩

/-- A savings account that was just opened. -/
def newlyOpened (id : AccountId) (owner : OwnerId) : Desk Ledger :=
  (Desk.empty.execute (.still default)
    ⟨.administrator, .openAccount (some id) owner (.savings .zero)⟩).2

theorem booked_to_letter_iff_overlong :
    (depositRow overlong).Moves ∧ (depositRow overlong).Spells overlong ∧
      (Faithful (.still default) (newlyOpened ⟨1, by decide⟩ ⟨1, by decide⟩)
          (depositRow overlong) overlong ↔
        (depositRow overlong).booked (.still default)
            (newlyOpened ⟨1, by decide⟩ ⟨1, by decide⟩) = [] ∨
          ∃ d : Decimal, d.value = overlong.value) :=
  ⟨moves_depositRow overlong, Row.spells_of_eq rfl,
    (booked_to_letter_iff (.still default) (moves_depositRow overlong)
      (Row.spells_of_eq rfl)).1 _⟩

/-- One and a one in the 29th place is booked as one. -/
theorem not_booked_to_letter :
    ¬ ∀ (clock : Clock) (desk : Desk Ledger) (row : Row) (numeral : Numeral),
      Bookkeeping.Reachable desk.books → row.Moves → row.Spells numeral →
        Faithful clock desk row numeral := by
  intro faithful
  have to_letter := faithful (.still default)
    (newlyOpened ⟨1, by decide⟩ ⟨1, by decide⟩) (depositRow overlong) overlong
    (Desk.reachable_execute .empty) (moves_depositRow overlong)
    (Row.spells_of_eq rfl)
  have nothing := to_letter.precise ⟨1, by decide, by decide⟩
  exact absurd nothing (by decide)

end Script

end Passbook
