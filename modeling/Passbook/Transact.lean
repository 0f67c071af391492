import Passbook.Fault

/-!
# Operations that may be refused

`Transact σ α` changes a state `σ` and answers an `α` or refuses with a fault. A
refusal does not undo anything: the state that was reached stays. That a refused
operation has changed nothing is therefore a fact about each operation, and not
about the type.

## Main results

* `run_liftM_ok`, `run_liftM_error` — a step that depends on no state leaves it
  alone.
* `bind_eq_ok_iff` — when two steps that depend on no state succeed.
* `gather_cons` — what is gathered from an item and from those behind it.
-/

namespace Passbook

/-- An operation on a state that may be refused. -/
abbrev Transact (σ : Type) (α : Type) : Type := EStateM Fault σ α

namespace Transact

/-- A step that depends on no state. -/
def lift {σ α : Type} : Except Fault α → Transact σ α
  | .ok a => pure a
  | .error fault => throw fault

instance {σ : Type} : MonadLift (Except Fault) (EStateM Fault σ) := ⟨lift⟩

@[simp] theorem run_liftM_ok {σ α : Type} (a : α) (s : σ) :
    (liftM (Except.ok a : Except Fault α) : Transact σ α).run s = .ok a s := rfl

@[simp] theorem run_liftM_error {σ α : Type} (fault : Fault) (s : σ) :
    (liftM (Except.error fault : Except Fault α) : Transact σ α).run s =
      .error fault s := rfl

theorem run_map {σ α β : Type} (f : α → β) (x : Transact σ α) (s : σ) :
    (f <$> x : Transact σ β).run s =
      match x.run s with
      | .ok a s => .ok (f a) s
      | .error fault s => .error fault s := by
  show EStateM.map f x s = _
  unfold EStateM.map EStateM.run
  cases x s <;> rfl

/-! ## Steps without a state -/

theorem ok_bind {α β : Type} (a : α) (next : α → Except Fault β) :
    (Except.ok a >>= next) = next a := rfl

theorem error_bind {α β : Type} (fault : Fault) (next : α → Except Fault β) :
    ((Except.error fault : Except Fault α) >>= next) = .error fault := rfl

/-- A sequence of two steps succeeds if the first does and the second does with
its answer. -/
theorem bind_eq_ok {α β : Type} {step : Except Fault α}
    {next : α → Except Fault β} {b : β}
    (done : (step >>= next) = .ok b) : ∃ a, step = .ok a ∧ next a = .ok b := by
  cases step with
  | error fault => cases done
  | ok a => exact ⟨a, rfl, done⟩

theorem bind_eq_ok_iff {α β : Type} {step : Except Fault α}
    {next : α → Except Fault β} {b : β} :
    (step >>= next) = .ok b ↔ ∃ a, step = .ok a ∧ next a = .ok b := by
  refine ⟨bind_eq_ok, ?_⟩
  rintro ⟨a, rfl, done⟩
  exact done

theorem pure_eq_ok {α : Type} (a : α) : (pure a : Except Fault α) = .ok a := rfl

/-! ## What an operation leaves behind -/

/-- What an operation answered. -/
def answer {σ α : Type} : EStateM.Result Fault σ α → Except Fault α
  | .ok a _ => .ok a
  | .error fault _ => .error fault

/-- The state an operation reached. -/
def state {σ α : Type} : EStateM.Result Fault σ α → σ
  | .ok _ s => s
  | .error _ s => s

@[simp] theorem answer_ok {σ α : Type} (a : α) (s : σ) :
    answer (.ok a s : EStateM.Result Fault σ α) = .ok a := rfl

@[simp] theorem answer_error {σ α : Type} (fault : Fault) (s : σ) :
    answer (.error fault s : EStateM.Result Fault σ α) = .error fault := rfl

@[simp] theorem state_ok {σ α : Type} (a : α) (s : σ) :
    state (.ok a s : EStateM.Result Fault σ α) = s := rfl

@[simp] theorem state_error {σ α : Type} (fault : Fault) (s : σ) :
    state (.error fault s : EStateM.Result Fault σ α) = s := rfl

/--
Takes a step for each item in turn and gathers the answers; an item whose step
is refused, or has nothing to answer, is passed over.
-/
def gather {σ ι α : Type} (step : ι → Transact σ (Option α)) :
    List ι → σ → List α × σ
  | [], s => ([], s)
  | item :: rest, s =>
    match (step item).run s with
    | .ok (some a) s =>
      let (answers, s) := gather step rest s
      (a :: answers, s)
    | .ok none s => gather step rest s
    | .error _ s => gather step rest s

theorem state_map {σ α β : Type} (f : α → β) (x : Transact σ α) (s : σ) :
    state ((f <$> x : Transact σ β).run s) = state (x.run s) := by
  rw [run_map]
  cases x.run s <;> rfl

theorem answer_map {σ α β : Type} (f : α → β) (x : Transact σ α) (s : σ) :
    answer ((f <$> x : Transact σ β).run s) = (answer (x.run s)).map f := by
  rw [run_map]
  cases x.run s <;> rfl

/-- What an answer adds to the answers that are gathered. -/
def gathered {α : Type} : Except Fault (Option α) → List α
  | .ok found => found.toList
  | .error _ => []

theorem gather_cons {σ ι α : Type} (step : ι → Transact σ (Option α)) (item : ι)
    (rest : List ι) (s : σ) :
    gather step (item :: rest) s =
      (gathered (answer ((step item).run s)) ++
        (gather step rest (state ((step item).run s))).1,
        (gather step rest (state ((step item).run s))).2) := by
  rw [gather]
  split <;> rename_i eq <;> rw [eq] <;> rfl

end Transact

end Passbook
