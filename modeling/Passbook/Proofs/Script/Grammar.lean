import Passbook.Proofs.Written
import Passbook.Script.Verb
import Passbook.Transact

/-!
# The grammar of rows

For each verb there are columns that a row must fill, and columns that it may
fill. `Requests` tells what the columns of a row then ask for, one constructor
for each verb, in terms of how ids, amounts and kinds are written; it knows no
order of reading and no faults. A row gives a command exactly if its columns ask
for it. They ask for something exactly if every column that must be filled is,
and whatever fills a column of the verb is in order.

No other column matters: rows with the same type that agree on the principal and
on the columns of their verb give the same command, or the same fault.

## Main results

* `operation_eq_ok_iff`, `toCommand_eq_ok_iff` — a row gives what it asks for.
* `exists_asks_iff` — which rows ask for something.
* `toCommand_congr` — the other columns do not matter.
* `toCommand_grammar` — all three together.
-/

namespace Passbook.Script

open Transact

/-! ## Verbs and their columns -/

namespace Verb

/-- The names of a verb. -/
def names : Verb → List String
  | openAccount => ["open"]
  | close => ["close"]
  | deposit => ["deposit"]
  | withdraw => ["withdraw", "withdrawal"]
  | transfer => ["transfer"]
  | interest => ["interest"]
  | setLimit => ["set_limit"]

/-- The columns that must be filled. -/
def required : Verb → List Column
  | openAccount => [.owner, .kind]
  | close => [.account]
  | deposit | withdraw | setLimit => [.account, .amount]
  | transfer => [.account, .destination, .amount]
  | interest => []

/-- The columns that may be filled. -/
def admitted : Verb → List Column
  | openAccount => [.account, .amount]
  | interest => [.account]
  | close | deposit | withdraw | transfer | setLimit => []

theorem ofName?_eq_some_iff {name : String} {verb : Verb} :
    ofName? name = some verb ↔ name ∈ verb.names := by
  unfold ofName?
  split <;> cases verb <;> simp_all [names]

end Verb

namespace Row

variable {row other : Row}

/-- What a row has under a column. -/
def entry (row : Row) : Column → Option String
  | .type => some row.type
  | .principal => row.principal
  | .account => row.account
  | .destination => row.destination
  | .owner => row.owner
  | .kind => row.kind
  | .amount => row.amount

/-- The text with which a row fills a column, if it does. -/
def text? (row : Row) (column : Column) : Option String :=
  content (row.entry column)

/-! ## What rows ask for -/

/-- What the columns of a row ask for, given its verb. -/
inductive Requests (row : Row) : Verb → Operation → Prop
  | openAccount {given : Option AccountId} {owner : OwnerId}
      {parameter : Option Decimal} {name : String} {kind : AccountKind}
      (account : row.text? .account = given.map AccountId.text)
      (owned : row.text? .owner = some owner.text)
      (amount : (row.text? .amount).map Decimal.ofText? = parameter.map some)
      (named : row.text? .kind = some name)
      (written : kind.Written name parameter) :
      Requests row .openAccount (.openAccount given owner kind)
  | close {id : AccountId} (account : row.text? .account = some id.text) :
      Requests row .close (.closeAccount id)
  | deposit {id : AccountId} {amount : Decimal}
      (account : row.text? .account = some id.text)
      (moved : (row.text? .amount).bind Decimal.ofText? = some amount) :
      Requests row .deposit (.deposit id amount)
  | withdraw {id : AccountId} {amount : Decimal}
      (account : row.text? .account = some id.text)
      (moved : (row.text? .amount).bind Decimal.ofText? = some amount) :
      Requests row .withdraw (.withdraw id amount)
  | transfer {source destination : AccountId} {amount : Decimal}
      (account : row.text? .account = some source.text)
      (sent : row.text? .destination = some destination.text)
      (moved : (row.text? .amount).bind Decimal.ofText? = some amount) :
      Requests row .transfer (.transfer source destination amount)
  | interest {given : Option AccountId}
      (account : row.text? .account = given.map AccountId.text) :
      Requests row .interest (.creditInterest given)
  | setLimit {id : AccountId} {limit : Decimal}
      (account : row.text? .account = some id.text)
      (amount : (row.text? .amount).bind Decimal.ofText? = some limit) :
      Requests row .setLimit (.setLimit id limit)

/-- What a row asks for, and on whose behalf; nobody's if there is no
principal. -/
structure Asks (row : Row) (command : Command) : Prop where
  principal : Principal.Written
    (Text.trimChars ((row.text? .principal).getD "").toList) command.principal
  operation : ∃ verb : Verb, row.command ∈ verb.names ∧
    row.Requests verb command.operation

/-! ## Reading columns -/

theorem needed_eq_ok_iff {command : String} {column : Column}
    {cell : Option String} {text : String} :
    needed command column cell = .ok text ↔ content cell = some text := by
  unfold needed
  cases content cell <;> simp

theorem readAmount_eq_ok_iff {command text : String} {amount : Decimal} :
    readAmount command text = .ok amount ↔
      Decimal.ofText? text = some amount := by
  unfold readAmount
  cases Decimal.ofText? text <;> simp

/-- A column that may be empty is read if each text in it can be. -/
theorem optional_eq_ok_iff {α : Type} {read : String → Except Fault α}
    {cell : Option String} {found : Option α} :
    optional read cell = .ok found ↔
      (content cell).map read = found.map Except.ok := by
  unfold optional
  cases content cell with
  | none => cases found <;> simp
  | some text =>
    cases read_eq : read text with
    | error fault => cases found <;> simp [read_eq]
    | ok a => cases found <;> simp [read_eq]

theorem neededAccount_eq_ok_iff {id : AccountId} :
    row.neededAccount = .ok id ↔ row.text? .account = some id.text := by
  unfold neededAccount
  simp only [bind_eq_ok_iff, needed_eq_ok_iff, AccountId.parse_eq_ok_iff]
  exact ⟨fun ⟨_, found, eq⟩ => eq ▸ found, fun found => ⟨_, found, rfl⟩⟩

theorem neededAmount_eq_ok_iff {amount : Decimal} :
    row.neededAmount = .ok amount ↔
      (row.text? .amount).bind Decimal.ofText? = some amount := by
  unfold neededAmount
  simp only [bind_eq_ok_iff, needed_eq_ok_iff, readAmount_eq_ok_iff,
    Option.bind_eq_some_iff]
  rfl

/-- A column that may name an account is left empty, or has the text of one. -/
theorem optional_account_eq_ok_iff {cell : Option String}
    {given : Option AccountId} :
    optional AccountId.parse cell = .ok given ↔
      content cell = given.map AccountId.text := by
  rw [optional_eq_ok_iff]
  cases content cell <;> cases given <;> simp [AccountId.parse_eq_ok_iff]

theorem optional_amount_eq_ok_iff {command : String} {cell : Option String}
    {parameter : Option Decimal} :
    optional (readAmount command) cell = .ok parameter ↔
      (content cell).map Decimal.ofText? = parameter.map some := by
  rw [optional_eq_ok_iff]
  cases content cell <;> cases parameter <;> simp [readAmount_eq_ok_iff]

/-- What a verb of one account and one amount reads, and makes of both. -/
theorem paying_eq_ok_iff {pay : AccountId → Decimal → Operation}
    {operation : Operation} :
    (do
      let id ← row.neededAccount
      return pay id (← row.neededAmount)) = Except.ok operation ↔
      ∃ id amount, row.text? .account = some id.text ∧
        (row.text? .amount).bind Decimal.ofText? = some amount ∧
        pay id amount = operation := by
  simp only [bind_eq_ok_iff, neededAccount_eq_ok_iff, neededAmount_eq_ok_iff,
    pure_eq_ok, Except.ok.injEq]
  constructor
  · rintro ⟨id, account, amount, moved, pays⟩
    exact ⟨id, amount, account, moved, pays⟩
  · rintro ⟨id, amount, account, moved, pays⟩
    exact ⟨id, account, amount, moved, pays⟩

/-! ## What rows give -/

/-- A verb makes of a row what the columns ask for. -/
theorem operation_eq_ok_iff {verb : Verb} {operation : Operation} :
    row.operation verb = .ok operation ↔ row.Requests verb operation := by
  cases verb with
  | openAccount =>
    simp only [Row.operation, bind_eq_ok_iff, optional_amount_eq_ok_iff,
      optional_account_eq_ok_iff, needed_eq_ok_iff, OwnerId.parse_eq_ok_iff,
      AccountKind.parse_eq_ok_iff, pure_eq_ok, Except.ok.injEq]
    constructor
    · rintro ⟨parameter, amount, given, account, _, owned, owner, rfl, name,
        named, kind, written, rfl⟩
      exact .openAccount account owned amount named written
    · intro requests
      cases requests with
      | openAccount account owned amount named written =>
        exact ⟨_, amount, _, account, _, owned, _, rfl, _, named, _, written,
          rfl⟩
  | close =>
    simp only [Row.operation, bind_eq_ok_iff, neededAccount_eq_ok_iff,
      pure_eq_ok, Except.ok.injEq]
    constructor
    · rintro ⟨id, account, rfl⟩
      exact .close account
    · intro requests
      cases requests with
      | close account => exact ⟨_, account, rfl⟩
  | deposit =>
    rw [Row.operation, paying_eq_ok_iff]
    constructor
    · rintro ⟨id, amount, account, moved, rfl⟩
      exact .deposit account moved
    · intro requests
      cases requests with
      | deposit account moved => exact ⟨_, _, account, moved, rfl⟩
  | withdraw =>
    rw [Row.operation, paying_eq_ok_iff]
    constructor
    · rintro ⟨id, amount, account, moved, rfl⟩
      exact .withdraw account moved
    · intro requests
      cases requests with
      | withdraw account moved => exact ⟨_, _, account, moved, rfl⟩
  | transfer =>
    simp only [Row.operation, bind_eq_ok_iff, neededAccount_eq_ok_iff,
      needed_eq_ok_iff, AccountId.parse_eq_ok_iff, neededAmount_eq_ok_iff,
      pure_eq_ok, Except.ok.injEq]
    constructor
    · rintro ⟨source, account, _, sent, destination, rfl, amount, moved, rfl⟩
      exact .transfer account sent moved
    · intro requests
      cases requests with
      | transfer account sent moved =>
        exact ⟨_, account, _, sent, _, rfl, _, moved, rfl⟩
  | interest =>
    simp only [Row.operation, bind_eq_ok_iff, optional_account_eq_ok_iff,
      pure_eq_ok, Except.ok.injEq]
    constructor
    · rintro ⟨given, account, rfl⟩
      exact .interest account
    · intro requests
      cases requests with
      | interest account => exact ⟨_, account, rfl⟩
  | setLimit =>
    rw [Row.operation, paying_eq_ok_iff]
    constructor
    · rintro ⟨id, limit, account, amended, rfl⟩
      exact .setLimit account amended
    · intro requests
      cases requests with
      | setLimit account amended => exact ⟨_, _, account, amended, rfl⟩

/-- A row gives what it asks for. -/
theorem toCommand_eq_ok_iff {command : Command} :
    row.toCommand = .ok command ↔ row.Asks command := by
  unfold toCommand
  simp only [bind_eq_ok_iff, Principal.parse_eq_ok_iff]
  constructor
  · rintro ⟨principal, written, reads⟩
    split at reads
    case h_1 verb named =>
      obtain ⟨operation, requests, reads⟩ := bind_eq_ok reads
      cases reads
      exact ⟨written, verb, Verb.ofName?_eq_some_iff.1 named,
        operation_eq_ok_iff.1 requests⟩
    case h_2 => cases reads
  · rintro ⟨written, verb, named, requests⟩
    refine ⟨command.principal, written, ?_⟩
    rw [Verb.ofName?_eq_some_iff.2 named]
    exact bind_eq_ok_iff.2 ⟨_, operation_eq_ok_iff.2 requests, rfl⟩

/-! ## Which rows ask for something -/

/-- Whether a text is in order under a column of a row. The parameter of a kind
is under the amount. -/
def Holds (row : Row) (text : String) : Column → Prop
  | .account | .destination => ∃ id : AccountId, text = id.text
  | .owner => ∃ owner : OwnerId, text = owner.text
  | .amount => ∃ amount, Decimal.ofText? text = some amount
  | .kind => ∃ kind : AccountKind,
      kind.Written text ((row.text? .amount).bind Decimal.ofText?)
  | .type | .principal => True

/-- Whether a column is filled, and with a text in order. -/
def Filled (row : Row) (column : Column) : Prop :=
  ∃ text, row.text? column = some text ∧ row.Holds text column

/-- Whether a column is in order, if it is filled. -/
def Sound (row : Row) (column : Column) : Prop :=
  ∀ text, row.text? column = some text → row.Holds text column

/-- Whether the columns that a verb looks at are filled as they have to be. -/
structure Fills (row : Row) (verb : Verb) : Prop where
  required : ∀ column ∈ verb.required, row.Filled column
  admitted : ∀ column ∈ verb.admitted, row.Sound column

/-- Whether principal, type and columns of a row are in order. -/
structure InOrder (row : Row) : Prop where
  principal : ∃ principal, Principal.Written
    (Text.trimChars ((row.text? .principal).getD "").toList) principal
  columns : ∃ verb : Verb, row.command ∈ verb.names ∧ row.Fills verb

theorem filled_account_iff :
    row.Filled .account ↔
      ∃ id : AccountId, row.text? .account = some id.text :=
  ⟨fun ⟨_, filled, id, eq⟩ => ⟨id, eq ▸ filled⟩,
    fun ⟨id, filled⟩ => ⟨_, filled, id, rfl⟩⟩

theorem filled_destination_iff :
    row.Filled .destination ↔
      ∃ id : AccountId, row.text? .destination = some id.text :=
  ⟨fun ⟨_, filled, id, eq⟩ => ⟨id, eq ▸ filled⟩,
    fun ⟨id, filled⟩ => ⟨_, filled, id, rfl⟩⟩

theorem filled_owner_iff :
    row.Filled .owner ↔ ∃ owner : OwnerId, row.text? .owner = some owner.text :=
  ⟨fun ⟨_, filled, owner, eq⟩ => ⟨owner, eq ▸ filled⟩,
    fun ⟨owner, filled⟩ => ⟨_, filled, owner, rfl⟩⟩

theorem filled_amount_iff :
    row.Filled .amount ↔
      ∃ amount, (row.text? .amount).bind Decimal.ofText? = some amount := by
  simp only [Option.bind_eq_some_iff]
  exact ⟨fun ⟨text, filled, amount, read⟩ => ⟨amount, text, filled, read⟩,
    fun ⟨amount, text, filled, read⟩ => ⟨text, filled, amount, read⟩⟩

theorem sound_account_iff :
    row.Sound .account ↔
      ∃ given, row.text? .account = Option.map AccountId.text given := by
  constructor
  · intro sound
    cases filled : row.text? .account with
    | none => exact ⟨none, rfl⟩
    | some text =>
      obtain ⟨id, rfl⟩ := sound text filled
      exact ⟨some id, rfl⟩
  · rintro ⟨given, account⟩ text filled
    rw [account] at filled
    obtain ⟨id, -, rfl⟩ := Option.map_eq_some_iff.1 filled
    exact ⟨id, rfl⟩

/-- The parameter of a kind is whatever is read under the amount. -/
theorem parameter_iff {parameter : Option Decimal} :
    (row.text? .amount).map Decimal.ofText? = parameter.map some ↔
      row.Sound .amount ∧
        parameter = (row.text? .amount).bind Decimal.ofText? := by
  unfold Sound
  cases row.text? .amount with
  | none => cases parameter <;> simp
  | some text =>
    cases read : Decimal.ofText? text <;> cases parameter <;>
      simp [Holds, read, eq_comm]

/-- The columns of a row ask for something if they are filled as they have to
be. -/
theorem exists_requests_iff {verb : Verb} :
    (∃ operation, row.Requests verb operation) ↔ row.Fills verb := by
  have fills_iff : row.Fills verb ↔ (∀ column ∈ verb.required,
      row.Filled column) ∧ ∀ column ∈ verb.admitted, row.Sound column :=
    ⟨fun ⟨required, admitted⟩ => ⟨required, admitted⟩,
      fun ⟨required, admitted⟩ => ⟨required, admitted⟩⟩
  rw [fills_iff]
  cases verb
  all_goals
    simp only [Verb.required, Verb.admitted, List.forall_mem_cons,
      List.not_mem_nil, false_imp_iff, implies_true, and_true, true_and]
  case openAccount =>
    rw [filled_owner_iff, sound_account_iff]
    constructor
    · rintro ⟨_, account, owned, amount, named, written⟩
      obtain ⟨sound, rfl⟩ := parameter_iff.1 amount
      exact ⟨⟨⟨_, owned⟩, _, named, _, written⟩, ⟨_, account⟩, sound⟩
    · rintro ⟨⟨⟨_, owned⟩, _, named, _, written⟩, ⟨_, account⟩, sound⟩
      exact ⟨_, .openAccount account owned (parameter_iff.2 ⟨sound, rfl⟩) named
        written⟩
  case close =>
    rw [filled_account_iff]
    exact ⟨fun ⟨_, .close account⟩ => ⟨_, account⟩,
      fun ⟨_, account⟩ => ⟨_, .close account⟩⟩
  case deposit =>
    rw [filled_account_iff, filled_amount_iff]
    exact ⟨fun ⟨_, .deposit account moved⟩ => ⟨⟨_, account⟩, _, moved⟩,
      fun ⟨⟨_, account⟩, _, moved⟩ => ⟨_, .deposit account moved⟩⟩
  case withdraw =>
    rw [filled_account_iff, filled_amount_iff]
    exact ⟨fun ⟨_, .withdraw account moved⟩ => ⟨⟨_, account⟩, _, moved⟩,
      fun ⟨⟨_, account⟩, _, moved⟩ => ⟨_, .withdraw account moved⟩⟩
  case transfer =>
    rw [filled_account_iff, filled_destination_iff, filled_amount_iff]
    exact ⟨fun ⟨_, .transfer account sent moved⟩ =>
        ⟨⟨_, account⟩, ⟨_, sent⟩, _, moved⟩,
      fun ⟨⟨_, account⟩, ⟨_, sent⟩, _, moved⟩ =>
        ⟨_, .transfer account sent moved⟩⟩
  case interest =>
    rw [sound_account_iff]
    exact ⟨fun ⟨_, .interest account⟩ => ⟨_, account⟩,
      fun ⟨_, account⟩ => ⟨_, .interest account⟩⟩
  case setLimit =>
    rw [filled_account_iff, filled_amount_iff]
    exact ⟨fun ⟨_, .setLimit account amount⟩ => ⟨⟨_, account⟩, _, amount⟩,
      fun ⟨⟨_, account⟩, _, amount⟩ => ⟨_, .setLimit account amount⟩⟩

theorem exists_asks_iff :
    (∃ command, row.Asks command) ↔ row.InOrder := by
  constructor
  · rintro ⟨command, principal, verb, named, requests⟩
    exact ⟨⟨_, principal⟩, verb, named, exists_requests_iff.1 ⟨_, requests⟩⟩
  · rintro ⟨⟨principal, written⟩, verb, named, fills⟩
    obtain ⟨operation, requests⟩ := exists_requests_iff.2 fills
    exact ⟨⟨principal, operation⟩, written, verb, named, requests⟩

/-! ## Columns that do not matter -/

/-- Whether two rows have the same type, the same principal, and the same under
every column of their verb. -/
structure Agrees (row other : Row) : Prop where
  command : row.command = other.command
  principal : row.text? .principal = other.text? .principal
  columns : ∀ verb : Verb, row.command ∈ verb.names →
    ∀ column ∈ verb.required ++ verb.admitted,
      row.text? column = other.text? column

theorem needed_congr {a b : Option String} (same : content a = content b)
    (command : String) (column : Column) :
    needed command column a = needed command column b := by
  unfold needed
  rw [same]

theorem optional_congr {α : Type} {a b : Option String}
    (same : content a = content b) (read : String → Except Fault α) :
    optional read a = optional read b := by
  unfold optional
  rw [same]

/-- The operation of a verb depends on the type and the columns of the verb. -/
theorem operation_congr {verb : Verb} (command : row.command = other.command)
    (same : ∀ column ∈ verb.required ++ verb.admitted,
      row.text? column = other.text? column) :
    row.operation verb = other.operation verb := by
  have account (mem : .account ∈ verb.required ++ verb.admitted) :
      content row.account = content other.account := same .account mem
  have amount (mem : .amount ∈ verb.required ++ verb.admitted) :
      content row.amount = content other.amount := same .amount mem
  have neededAccount_eq (mem : .account ∈ verb.required ++ verb.admitted) :
      row.neededAccount = other.neededAccount := by
    unfold neededAccount
    rw [command, needed_congr (account mem)]
  have neededAmount_eq (mem : .amount ∈ verb.required ++ verb.admitted) :
      row.neededAmount = other.neededAmount := by
    unfold neededAmount
    rw [command, needed_congr (amount mem)]
  cases verb with
  | openAccount =>
    have owner : content row.owner = content other.owner :=
      same .owner (by decide)
    have kind : content row.kind = content other.kind := same .kind (by decide)
    unfold operation
    rw [command, optional_congr (amount (by decide)),
      optional_congr (account (by decide)), needed_congr owner,
      needed_congr kind]
  | close =>
    unfold operation
    rw [neededAccount_eq (by decide)]
  | deposit | withdraw | setLimit =>
    unfold operation
    rw [neededAccount_eq (by decide), neededAmount_eq (by decide)]
  | transfer =>
    have destination : content row.destination = content other.destination :=
      same .destination (by decide)
    unfold operation
    rw [neededAccount_eq (by decide), neededAmount_eq (by decide), command,
      needed_congr destination]
  | interest =>
    unfold operation
    rw [optional_congr (account (by decide))]

/-- Columns that a verb does not look at do not matter. -/
theorem toCommand_congr (agrees : row.Agrees other) :
    row.toCommand = other.toCommand := by
  have principal : content row.principal = content other.principal :=
    agrees.principal
  unfold toCommand
  rw [principal, ← agrees.command]
  cases named : Verb.ofName? row.command with
  | none => rfl
  | some verb =>
    simp only [operation_congr agrees.command
      (agrees.columns verb (Verb.ofName?_eq_some_iff.1 named))]

/-- Rows are read by their grammar. A row gives a command exactly if its columns
ask for it, gives one at all exactly if they are in order, and gives what any
row gives that agrees with it on the columns of its verb. -/
theorem toCommand_grammar :
    (∀ (row : Row) (command : Command),
      row.toCommand = .ok command ↔ row.Asks command) ∧
    (∀ row : Row, (∃ command, row.toCommand = .ok command) ↔ row.InOrder) ∧
    ∀ row other : Row, row.Agrees other → row.toCommand = other.toCommand := by
  refine ⟨fun _ _ => toCommand_eq_ok_iff, fun row => ?_,
    fun _ _ => toCommand_congr⟩
  simp only [toCommand_eq_ok_iff]
  exact exists_asks_iff

/-- Blanks, the letters of the type, and whatever is under columns that a
withdrawal does not look at make no difference. -/
theorem toCommand_grammar_withdrawal :
    let clean : Row := ⟨"withdraw", some "admin", some "ACC001", none, none,
      none, some "10"⟩
    let littered : Row := ⟨" Withdraw ", some "admin ", some " ACC001",
      some "me", some "C1", some "gold", some "10 "⟩
    clean.Agrees littered ∧ clean.toCommand = littered.toCommand ∧
      littered.InOrder := by
  have agrees : Row.Agrees ⟨"withdraw", some "admin", some "ACC001", none, none,
      none, some "10"⟩ ⟨" Withdraw ", some "admin ", some " ACC001",
      some "me", some "C1", some "gold", some "10 "⟩ := by
    refine ⟨by decide, by decide, fun verb named => ?_⟩
    cases verb with
    | withdraw => decide
    | _ => exact absurd named (by decide)
  exact ⟨agrees, toCommand_grammar.2.2 _ _ agrees,
    (toCommand_grammar.2.1 _).1 ⟨⟨.administrator, .withdraw ⟨1, by decide⟩
      ⟨false, 10, 0, by decide, by decide⟩⟩, by decide⟩⟩

end Row

end Passbook.Script
