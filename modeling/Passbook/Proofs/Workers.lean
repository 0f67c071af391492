import Mathlib.Logic.Function.Basic
import Passbook.Audit
import Passbook.Operation
import Passbook.Proofs.Interleaving

/-!
# Workers who execute commands step by step

A worker does not execute a command in one go. First the gate is asked, then the
operation is performed, and last an entry is noted. Between these steps other
workers take theirs, so what the gate said may be old by the time the operation
is performed.

A `Workplace` says what each of the steps does to a state. Which step is due for
a command follows from how far its worker has got. If commands do not get into
each other's way there, neither do the steps of two workers, and three steps of
a command in a row execute it.

## Main results

* `step_commutes` — steps of independent commands commute.
* `runItems_steps` — commands of which each is executed in three steps in a row.
* `Interleaves.flatMap` — groups that interleave do so step by step, too.
-/

namespace Passbook

/-- How far a worker has got with a command. -/
inductive Standing where
  /-- Not started, or done. -/
  | idle
  /-- The gate has been asked, and said with which verdict it turns the command
  away, if it does. -/
  | asked (refusal : Option Verdict)
  | ended (verdict : Verdict)

/-- What the steps of a worker do to a state. -/
structure Workplace (σ : Type) where
  gate : σ → Command → Option Verdict
  perform : σ → Command → Verdict × σ
  note : σ → Command → Verdict → σ

/-- A state that workers share, and how far they have got with the command at
each position. -/
structure Workshop (σ : Type) where
  state : σ
  standing : Nat → Standing

/-- A state in which no worker has started anything. -/
def Workshop.idle {σ : Type} (state : σ) : Workshop σ := ⟨state, fun _ => .idle⟩

/-- A workshop with a view of its state. -/
def Workshop.map {σ τ : Type} (view : σ → τ) (shop : Workshop σ) : Workshop τ :=
  ⟨view shop.state, shop.standing⟩

/-- A command takes three steps. -/
def steps (item : Command × Nat) : List (Command × Nat) := [item, item, item]

theorem mem_of_mem_steps {items : List (Command × Nat)} {item : Command × Nat}
    (mem : item ∈ items.flatMap steps) : item ∈ items := by
  obtain ⟨other, other_mem, step_mem⟩ := List.mem_flatMap.1 mem
  simp only [steps, List.mem_cons, List.not_mem_nil, or_false,
    or_self] at step_mem
  exact step_mem ▸ other_mem

namespace Workplace

variable {σ : Type} (place : Workplace σ)

/-- What a step makes of the state and of the standing of its command. -/
def advance (state : σ) (command : Command) : Standing → σ × Standing
  | .idle => (state, .asked (place.gate state command))
  | .asked none =>
    let (verdict, state) := place.perform state command
    (state, .ended verdict)
  | .asked (some verdict) => (state, .ended verdict)
  | .ended verdict => (place.note state command verdict, .idle)

/-- A step at the command of a position. -/
def step (shop : Workshop σ) (item : Command × Nat) : Unit × Workshop σ :=
  let (state, standing) :=
    place.advance shop.state item.1 (shop.standing item.2)
  ((), ⟨state, Function.update shop.standing item.2 standing⟩)

/-- A command executed in one go. -/
def execute (state : σ) (command : Command) : σ :=
  match place.gate state command with
  | none =>
    let (verdict, state) := place.perform state command
    place.note state command verdict
  | some verdict => place.note state command verdict

/-! ## Steps that commute -/

/-- Whether what is done at one command makes no difference to another. -/
structure Independent (a b : Command) : Prop where
  gate_perform : ∀ state,
    place.gate (place.perform state b).2 a = place.gate state a
  gate_note : ∀ state verdict,
    place.gate (place.note state b verdict) a = place.gate state a
  perform_fst : ∀ state,
    (place.perform (place.perform state b).2 a).1 = (place.perform state a).1
  perform_snd : ∀ state,
    (place.perform (place.perform state b).2 a).2 =
      (place.perform (place.perform state a).2 b).2
  perform_note : ∀ state verdict,
    place.perform (place.note state b verdict) a =
      ((place.perform state a).1,
        place.note (place.perform state a).2 b verdict)
  note_note : ∀ state verdict verdict',
    place.note (place.note state b verdict') a verdict =
      place.note (place.note state a verdict) b verdict'

variable {place}

/-- Each of two independent commands gets as far as it does without the other,
and the state is the same whichever goes first. -/
theorem advance_comm {a b : Command} (ab : place.Independent a b)
    (ba : place.Independent b a) (state : σ) (standing standing' : Standing) :
    let first := place.advance state a standing
    let second := place.advance state b standing'
    (place.advance first.1 b standing').2 = second.2 ∧
      (place.advance second.1 a standing).2 = first.2 ∧
        (place.advance first.1 b standing').1 =
          (place.advance second.1 a standing).1 := by
  -- four steps may be due for each of the two; only those that read what the
  -- other writes need what is known of the commands
  rcases standing with _ | (_ | verdict) | verdict <;>
    rcases standing' with _ | (_ | verdict') | verdict' <;>
    simp only [advance, ab.gate_perform, ab.gate_note, ab.perform_fst,
      ab.perform_note, ba.gate_perform, ba.gate_note, ba.perform_fst,
      ba.perform_snd, ba.perform_note, ba.note_note, and_self]

/-- Steps at independent commands of different positions commute. -/
theorem step_commutes {a b : Command × Nat} (ab : place.Independent a.1 b.1)
    (ba : place.Independent b.1 a.1) (apart : a.2 ≠ b.2) :
    Commutes place.step a b := by
  intro shop
  obtain ⟨b_same, a_same, state_same⟩ := advance_comm ab ba shop.state
    (shop.standing a.2) (shop.standing b.2)
  refine ⟨rfl, rfl, ?_⟩
  unfold step
  simp only [Function.update_of_ne apart, Function.update_of_ne apart.symm]
  rw [b_same, a_same, state_same, Function.update_comm apart]

/-! ## Commands one after the other -/

/-- The three steps of a command in a row execute it. -/
theorem run_steps {shop : Workshop σ} {item : Command × Nat}
    (idle : shop.standing item.2 = .idle) :
    (runItems place.step shop (steps item)).2 =
      ⟨place.execute shop.state item.1, shop.standing⟩ := by
  have restored : Function.update shop.standing item.2 .idle =
      shop.standing := by
    rw [← idle, Function.update_eq_self]
  unfold steps execute
  simp only [runItems, step, idle, advance, Function.update_self,
    Function.update_idem]
  cases place.gate shop.state item.1 with
  | none => simp only [restored]
  | some verdict => simp only [restored]

/-- Commands whose steps are taken in a row are executed one by one. -/
theorem runItems_steps (items : List (Command × Nat)) (state : σ) :
    (runItems place.step (.idle state) (items.flatMap steps)).2 =
      .idle ((items.map Prod.fst).foldl place.execute state) := by
  induction items generalizing state with
  | nil => rfl
  | cons item rest ih =>
    rw [List.flatMap_cons, runItems_append]
    show (runItems place.step (runItems place.step _ (steps item)).2 _).2 = _
    rw [run_steps rfl]
    exact ih (place.execute state item.1)

/-! ## Another view of the state -/

/-- Whether a state does what a view of it does at some command. -/
structure Mirrors {τ : Type} (place : Workplace σ) (place' : Workplace τ)
    (view : σ → τ) (Good : σ → Prop) (command : Command) : Prop where
  gate : ∀ state, place.gate state command = place'.gate (view state) command
  perform : ∀ state, Good state →
    ((place.perform state command).1, view (place.perform state command).2) =
      place'.perform (view state) command
  note : ∀ state verdict, view (place.note state command verdict) =
    place'.note (view state) command verdict

/-- A step at a command, and the same step on the view. -/
theorem Mirrors.map_step {τ : Type} {place' : Workplace τ} {view : σ → τ}
    {Good : σ → Prop} {item : Command × Nat}
    (mirrors : Mirrors place place' view Good item.1) {shop : Workshop σ}
    (good : Good shop.state) :
    Workshop.map view (place.step shop item).2 =
      (place'.step (Workshop.map view shop) item).2 := by
  have advanced : ∀ standing,
      ((view (place.advance shop.state item.1 standing).1),
        (place.advance shop.state item.1 standing).2) =
        place'.advance (view shop.state) item.1 standing := by
    intro standing
    rcases standing with _ | (_ | verdict) | verdict
    · simp only [advance, mirrors.gate]
    · simp only [advance, ← mirrors.perform shop.state good]
    · rfl
    · simp only [advance, mirrors.note]
  unfold step Workshop.map
  simp only [← advanced]

end Workplace

/-- What interleaves does so as well when each item is several. -/
theorem Interleaves.flatMap {α β : Type} (f : α → List β)
    {groups : List (List α)} {order : List α}
    (interleaves : Interleaves groups order) :
    Interleaves (groups.map (List.flatMap f)) (order.flatMap f) := by
  induction interleaves with
  | @done groups exhausted =>
    refine .done ?_
    intro group mem
    obtain ⟨before, before_mem, rfl⟩ := List.mem_map.1 mem
    rw [exhausted before before_mem]
    rfl
  | @step before behind group order item rest ih =>
    rw [List.map_append, List.map_cons] at ih ⊢
    rw [List.flatMap_cons, List.flatMap_cons]
    generalize f item = items
    induction items with
    | nil => exact ih
    | cons first items items_ih => exact .step items_ih

end Passbook
