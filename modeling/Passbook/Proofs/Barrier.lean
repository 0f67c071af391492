import Passbook.Proofs.Likeness

/-!
# Operations that concern the bank as a whole

Opening under the next free id reads the counter and which ids are taken, and
crediting all reads which accounts are savings accounts. Both are to be seen in
a picture, so these operations too do the same to ledgers that look alike, and
answer the same.

## Main results

* `openNextFrom_congr` — opening under the next free id on ledgers that look
  alike.
* `gather_creditInterest_congr` — crediting the same accounts on ledgers that
  look alike.
* `execute_congr` — any command at desks that look alike.
-/

namespace Passbook.SharedLedger

open Bookkeeping Transact Posting

variable {ledger ledger' : SharedLedger}

theorem numbered_next (clock : Clock) (operation : Operation)
    (numbered : (books ledger).Numbered) :
    (books (state ((perform clock operation).run ledger))).Numbered :=
  numbered.performs (Lawful.performs clock operation ledger)

/-! ## Opening under the next free id -/

theorem find?_isSome_of_picture_eq (same : ledger.picture = ledger'.picture)
    (id : AccountId) :
    (ledger.accounts.find? id).isSome = (ledger'.accounts.find? id).isSome := by
  have drawn : (ledger.picture.accounts id).isSome =
      (ledger'.picture.accounts id).isSome := by
    rw [same]
  rwa [picture, picture, Option.isSome_map, Option.isSome_map] at drawn

theorem opening_congr (same : ledger.picture = ledger'.picture) (id : AccountId)
    (owner : OwnerId) (kind : AccountKind) :
    opening ledger.accounts.find? id owner kind =
      opening ledger'.accounts.find? id owner kind := by
  unfold opening
  rw [find?_isSome_of_picture_eq same]

/-- Opening under a given id is answered alike, and leaves ledgers that look
alike. -/
theorem openAs_congr (same : ledger.picture = ledger'.picture)
    (numbered : (books ledger).Numbered) (numbered' : (books ledger').Numbered)
    (id : AccountId) (owner : OwnerId) (kind : AccountKind) :
    answer ((openAs id owner kind).run ledger) =
      answer ((openAs id owner kind).run ledger') ∧
      (state ((openAs id owner kind).run ledger)).picture =
        (state ((openAs id owner kind).run ledger')).picture := by
  rw [run_openAs (.still default), run_openAs (.still default),
    opening_congr same]
  cases posts : opening ledger'.accounts.find? id owner kind with
  | error fault => exact ⟨rfl, same⟩
  | ok posting =>
    obtain ⟨-, -, rfl⟩ := opening_eq_ok posts
    have unused : ∀ account : Account,
        Posting.opened ⟨id, owner, kind, .zero, #[]⟩ = .opened account →
          account.history = #[] := by
      intro account eq
      cases eq
      rfl
    have drawn := picture_posted (.still default) numbered unused
    have drawn' := picture_posted (.still default) numbered' unused
    refine ⟨rfl, ?_⟩
    show (ledger.posted (.still default) _).picture =
      (ledger'.posted (.still default) _).picture
    rw [drawn, drawn', same]

/-- A worker's attempt at the id behind the counter. -/
def tryNext (owner : OwnerId) (kind : AccountKind) (ledger : SharedLedger)
    (in_range : (ledger.counter + 1).toNat < 1000) :
    EStateM.Result Fault SharedLedger AccountId :=
  (openAs ⟨(ledger.counter + 1).toNat, in_range⟩ owner kind).run
    { ledger with counter := ledger.counter + 1 }

theorem openNextFrom_of_occupied {owner : OwnerId} {kind : AccountKind}
    (ledger : SharedLedger)
    (in_range : (ledger.counter + 1).toNat < 1000) {text : String}
    (occupied : answer (tryNext owner kind ledger in_range) =
      .error (.duplicateAccount text)) :
    openNextFrom owner kind ledger =
      openNextFrom owner kind
        { ledger with counter := ledger.counter + 1 } := by
  cases tried : tryNext owner kind ledger in_range with
  | ok id reached =>
    rw [tried] at occupied
    cases occupied
  | error fault reached =>
    rw [tried] at occupied
    cases occupied
    unfold tryNext at tried
    rw [openNextFrom, dif_pos in_range, tried]

theorem openNextFrom_of_free {owner : OwnerId} {kind : AccountKind}
    (ledger : SharedLedger) (in_range : (ledger.counter + 1).toNat < 1000)
    (free : ∀ text, answer (tryNext owner kind ledger in_range) ≠
      .error (.duplicateAccount text)) :
    openNextFrom owner kind ledger = tryNext owner kind ledger in_range := by
  unfold tryNext at free ⊢
  rw [openNextFrom, dif_pos in_range]
  split
  · rename_i text reached tried
    rw [tried] at free
    exact absurd rfl (free text)
  · rfl

theorem picture_advanced (same : ledger.picture = ledger'.picture) :
    SharedLedger.picture { ledger with counter := ledger.counter + 1 } =
      SharedLedger.picture { ledger' with counter := ledger'.counter + 1 } :=
  congrArg (fun drawn : Picture => { drawn with counter := drawn.counter + 1 })
    same

/-- An attempt at the next id is answered alike, and leaves ledgers that look
alike. -/
theorem tryNext_congr (same : ledger.picture = ledger'.picture)
    (numbered : (books ledger).Numbered)
    (numbered' : (books ledger').Numbered) (owner : OwnerId)
    (kind : AccountKind) (in_range : (ledger.counter + 1).toNat < 1000)
    (in_range' : (ledger'.counter + 1).toNat < 1000) :
    answer (tryNext owner kind ledger in_range) =
      answer (tryNext owner kind ledger' in_range') ∧
      (state (tryNext owner kind ledger in_range)).picture =
        (state (tryNext owner kind ledger' in_range')).picture := by
  have counter_eq : ledger.counter = ledger'.counter :=
    congrArg Picture.counter same
  have tried := openAs_congr (picture_advanced same) numbered numbered'
    ⟨(ledger.counter + 1).toNat, in_range⟩ owner kind
  unfold tryNext
  simp only [counter_eq] at tried ⊢
  exact tried

/-- Opening under the next free id is answered alike, and leaves ledgers that
look alike. -/
theorem openNextFrom_congr (owner : OwnerId) (kind : AccountKind)
    (ledger : SharedLedger) :
    ∀ ledger' : SharedLedger, ledger.picture = ledger'.picture →
      (books ledger).Numbered →
      (books ledger').Numbered →
        answer (openNextFrom owner kind ledger) =
          answer (openNextFrom owner kind ledger') ∧
          (state (openNextFrom owner kind ledger)).picture =
            (state (openNextFrom owner kind ledger')).picture := by
  fun_induction openNextFrom owner kind ledger with
  | case1 ledger advanced in_range text reached occupied ih =>
    intro ledger' same numbered numbered'
    have counter_eq : ledger.counter = ledger'.counter :=
      congrArg Picture.counter same
    have in_range' : (ledger'.counter + 1).toNat < 1000 := counter_eq ▸ in_range
    have tried :=
      (tryNext_congr same numbered numbered' owner kind in_range in_range').1
    have occupied_first : answer (tryNext owner kind ledger in_range) =
        .error (.duplicateAccount text) := by
      unfold tryNext
      rw [occupied, answer_error]
    rw [openNextFrom_of_occupied ledger' in_range'
      (tried.symm.trans occupied_first)]
    exact ih _ (picture_advanced same) numbered numbered'
  | case2 ledger advanced in_range not_occupied =>
    intro ledger' same numbered numbered'
    have counter_eq : ledger.counter = ledger'.counter :=
      congrArg Picture.counter same
    have in_range' : (ledger'.counter + 1).toNat < 1000 := counter_eq ▸ in_range
    have tried := tryNext_congr same numbered numbered' owner kind
      in_range in_range'
    have free : ∀ text, answer (tryNext owner kind ledger' in_range') ≠
        .error (.duplicateAccount text) := by
      intro text occupied
      rw [← tried.1] at occupied
      cases run : tryNext owner kind ledger in_range with
      | ok id reached =>
        rw [run] at occupied
        cases occupied
      | error fault reached =>
        rw [run] at occupied
        cases occupied
        exact not_occupied text reached run
    rw [openNextFrom_of_free ledger' in_range' free]
    exact tried
  | case3 ledger advanced out_of_range =>
    intro ledger' same numbered numbered'
    have counter_eq : ledger.counter = ledger'.counter :=
      congrArg Picture.counter same
    have out_of_range' : ¬ (ledger'.counter + 1).toNat < 1000 :=
      counter_eq ▸ out_of_range
    rw [openNextFrom.eq_1 owner kind ledger', dif_neg out_of_range']
    exact ⟨rfl, picture_advanced same⟩

/-! ## Crediting all -/

/-- Ledgers that look alike have the same savings accounts. -/
theorem savingsIds_congr (same : ledger.picture = ledger'.picture) :
    ledger.accounts.savingsIds = ledger'.accounts.savingsIds := by
  have bare_id : ∀ account : Account, account.bare.id = account.id :=
    fun _ => rfl
  have stripped : ledger.accounts.map Account.bare bare_id =
      ledger'.accounts.map Account.bare bare_id := by
    apply Register.ext_find?
    intro id
    rw [Register.find?_map, Register.find?_map]
    have found : Operation.bared ledger.accounts.find? id =
        Operation.bared ledger'.accounts.find? id := by
      rw [← find?_picture, ← find?_picture, same]
    exact found
  have of_bare : ∀ accounts : Register,
      (accounts.map Account.bare bare_id).savingsIds = accounts.savingsIds := by
    intro accounts
    unfold Register.savingsIds Register.map
    rw [List.filterMap_map]
    rfl
  rw [← of_bare, stripped, of_bare]

/-- Operations with a footprint are answered alike, and leave ledgers that look
alike. -/
theorem perform_congr (clock clock' : Clock) {operation : Operation}
    (confined : operation.footprint.isSome = true)
    (same : ledger.picture = ledger'.picture)
    (numbered : (books ledger).Numbered)
    (numbered' : (books ledger').Numbered) :
    let run := (perform clock operation).run ledger
    let run' := (perform clock' operation).run ledger'
    (answer run).map (Outcome.seen (state run).journal) =
        (answer run').map (Outcome.seen (state run').journal) ∧
      (state run).picture = (state run').picture := by
  have drawn := picture_perform clock numbered confined
  have drawn' := picture_perform clock' numbered' confined
  rw [same, ← drawn'] at drawn
  exact Prod.mk.inj drawn

/-- The records that crediting an account adds to those gathered look alike. -/
theorem gathered_congr {given given' : Except Fault (Option Record)}
    {journal journal' : Journal}
    (same : (given.map fun record => Outcome.credited record.toList).map
      (Outcome.seen journal) =
      (given'.map fun record => Outcome.credited record.toList).map
        (Outcome.seen journal')) :
    (gathered given).map Record.content =
      (gathered given').map Record.content := by
  cases given with
  | error fault =>
    cases given' with
    | error fault' => rfl
    | ok record' => cases same
  | ok record =>
    cases given' with
    | error fault' => cases same
    | ok record' => exact Seen.credited.inj (Except.ok.inj same)

/-- Crediting the same accounts yields records, and leaves ledgers, that look
alike. -/
theorem gather_creditInterest_congr (clock clock' : Clock)
    (ids : List AccountId) (same : ledger.picture = ledger'.picture)
    (numbered : (books ledger).Numbered)
    (numbered' : (books ledger').Numbered) :
    (gather (creditInterest clock) ids ledger).1.map Record.content =
        (gather (creditInterest clock') ids ledger').1.map Record.content ∧
      (gather (creditInterest clock) ids ledger).2.picture =
        (gather (creditInterest clock') ids ledger').2.picture := by
  induction ids generalizing ledger ledger' with
  | nil => exact ⟨rfl, same⟩
  | cons id rest ih =>
    have confined : (Operation.creditInterest (some id)).footprint.isSome =
        true := rfl
    obtain ⟨seen_same, reached_same⟩ :=
      perform_congr clock clock' confined same numbered numbered'
    have reached := numbered_next clock (.creditInterest (some id)) numbered
    have reached' := numbered_next clock' (.creditInterest (some id)) numbered'
    simp only [perform, answer_map, state_map] at seen_same reached_same
    simp only [perform, state_map] at reached reached'
    obtain ⟨rest_records, rest_same⟩ := ih reached_same reached reached'
    have first_record :
        (gathered (answer ((creditInterest clock id).run ledger))).map
          Record.content =
        (gathered (answer ((creditInterest clock' id).run ledger'))).map
          Record.content :=
      gathered_congr seen_same
    rw [gather_cons, gather_cons, List.map_append, List.map_append,
      first_record]
    exact ⟨congrArg _ rest_records, rest_same⟩

/-! ## Any operation -/

/-- Any operation is answered alike, and leaves ledgers that look alike. -/
theorem perform_congr_all (clock clock' : Clock) (operation : Operation)
    (same : ledger.picture = ledger'.picture)
    (numbered : (books ledger).Numbered)
    (numbered' : (books ledger').Numbered) :
    let run := (perform clock operation).run ledger
    let run' := (perform clock' operation).run ledger'
    (answer run).map (Outcome.seen (state run).journal) =
        (answer run').map (Outcome.seen (state run').journal) ∧
      (state run).picture = (state run').picture := by
  intro run run'
  by_cases confined : operation.footprint.isSome = true
  · exact perform_congr clock clock' confined same numbered numbered'
  · rw [Option.not_isSome_iff_eq_none,
      Operation.footprint_eq_none_iff] at confined
    rcases confined with ⟨owner, kind, rfl⟩ | rfl
    · obtain ⟨answer_same, state_same⟩ :=
        openNextFrom_congr owner kind ledger ledger' same numbered numbered'
      have run_eq : run = (Outcome.opened <$> openNext owner kind :
          Transact _ _).run ledger := rfl
      have run_eq' : run' = (Outcome.opened <$> openNext owner kind :
          Transact _ _).run ledger' := rfl
      rw [run_eq, run_eq', answer_map, state_map, answer_map, state_map]
      refine ⟨?_, state_same⟩
      show ((answer (openNextFrom owner kind ledger)).map _).map _ = _
      rw [answer_same]
      show _ = ((answer (openNextFrom owner kind ledger')).map _).map _
      cases answer (openNextFrom owner kind ledger') <;> rfl
    · obtain ⟨records_same, state_same⟩ :=
        gather_creditInterest_congr clock clock'
        ledger.accounts.savingsIds same numbered numbered'
      have answered : ∀ (c : Clock) (l : SharedLedger) (journal : Journal),
          (answer ((perform c (.creditInterest none)).run l)).map
            (Outcome.seen journal) =
            .ok
              (.credited
                ((gather (creditInterest c) l.accounts.savingsIds l).1.map
              Record.content)) := fun _ _ _ => rfl
      refine ⟨?_, ?_⟩
      · rw [answered, answered, records_same, savingsIds_congr same]
      · show (gather (creditInterest clock) ledger.accounts.savingsIds
          ledger).2.picture =
          (gather (creditInterest clock') ledger'.accounts.savingsIds
            ledger').2.picture
        rw [state_same, savingsIds_congr same]

end Passbook.SharedLedger

namespace Passbook.Desk

open Transact SharedLedger

variable {desk desk' : Desk SharedLedger}

theorem ownerOf?_congr {ledger ledger' : SharedLedger}
    (same : ledger.picture = ledger'.picture) :
    ownerOf? ledger = ownerOf? ledger' := by
  rw [← ownerOf?_picture, ← ownerOf?_picture, same]

/-- Any command is answered alike, and leaves desks that look alike. -/
theorem execute_congr (clock clock' : Clock) (command : Command)
    (same : desk.scene = desk'.scene)
    (numbered : (Bookkeeping.books desk.books).Numbered)
    (numbered' : (Bookkeeping.books desk'.books).Numbered) :
    let result := desk.execute clock command
    let result' := desk'.execute clock' command
    result.1.map (Outcome.seen result.2.books.journal) =
        result'.1.map (Outcome.seen result'.2.books.journal) ∧
      result.2.scene = result'.2.scene := by
  have books_same : desk.books.picture = desk'.books.picture :=
    congrArg Scene.books same
  have trail_same : desk.scene.trail = desk'.scene.trail :=
    congrArg Scene.trail same
  have attempted : (answer ((attempt clock command).run desk.books)).map
        (Outcome.seen
          (state ((attempt clock command).run desk.books)).journal) =
      (answer ((attempt clock' command).run desk'.books)).map
        (Outcome.seen
          (state ((attempt clock' command).run desk'.books)).journal) ∧
      (state ((attempt clock command).run desk.books)).picture =
        (state ((attempt clock' command).run desk'.books)).picture := by
    rw [run_attempt, run_attempt, ownerOf?_congr books_same]
    cases Access.authorize (ownerOf? desk'.books) command.principal
      command.operation with
    | error fault => exact ⟨rfl, books_same⟩
    | ok _ =>
      exact perform_congr_all clock clock' command.operation books_same
        numbered numbered'
  obtain ⟨answer_same, picture_same⟩ := attempted
  have traced := trail_scene_execute clock desk command
  have traced' := trail_scene_execute clock' desk' command
  have verdict_same : verdict (desk.execute clock command).1 =
      verdict (desk'.execute clock' command).1 := by
    rw [← verdict_seen (state ((attempt clock command).run desk.books)).journal,
      ← verdict_seen (state ((attempt clock' command).run desk'.books)).journal]
    exact congrArg Seen.verdict answer_same
  refine ⟨answer_same, ?_⟩
  show Scene.mk _ (desk.execute clock command).2.scene.trail =
    Scene.mk _ (desk'.execute clock' command).2.scene.trail
  rw [traced, traced', verdict_same, trail_same]
  exact congrArg (fun drawn => Scene.mk drawn _) picture_same

/-- Histories go on pointing into the journal. -/
theorem numbered_execute {β : Type} [Bookkeeping β] [Bookkeeping.Lawful β]
    {desk : Desk β} (clock : Clock) (command : Command)
    (numbered : (Bookkeeping.books desk.books).Numbered) :
    (Bookkeeping.books (desk.execute clock command).2.books).Numbered :=
  numbered.performs (performs_execute clock desk command)

theorem numbered_executeAll {β : Type} [Bookkeeping β] [Bookkeeping.Lawful β]
    {desk : Desk β} (clock : Clock) (commands : List Command)
    (numbered : (Bookkeeping.books desk.books).Numbered) :
    (Bookkeeping.books (desk.executeAll clock commands).2.books).Numbered := by
  induction commands generalizing desk with
  | nil => exact numbered
  | cons command rest ih => exact ih (numbered_execute clock command numbered)

end Passbook.Desk
