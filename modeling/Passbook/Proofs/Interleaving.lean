/-!
# Interleavings of independent groups

Groups of items are worked off side by side: each keeps its own order, and
nothing is said about the order between groups. If items of different groups
commute, it makes no difference to the state that is reached, nor to what each
item is answered, in which order they are taken.

## Main results

* `Interleaves.sameRun` — any interleaving runs like the groups one after the
  other.
* `Interleaves.sameRun_of_interleaves` — two interleavings of the same groups
  run alike.
-/

namespace Passbook

/-- A list is an interleaving of some lists if it can be taken from their heads
one by one. -/
inductive Interleaves {α : Type} : List (List α) → List α → Prop
  | done {groups : List (List α)} (exhausted : ∀ group ∈ groups, group = []) :
      Interleaves groups []
  | step {before behind : List (List α)} {group order : List α} {item : α}
      (rest : Interleaves (before ++ group :: behind) order) :
      Interleaves (before ++ (item :: group) :: behind) (item :: order)

section

variable {σ α β : Type} (step : σ → α → β × σ)

/-- Takes some items in order and keeps each with its answer. -/
def runItems : σ → List α → List (α × β) × σ
  | state, [] => ([], state)
  | state, item :: rest =>
    let (answer, state) := step state item
    let (answers, state) := runItems state rest
    ((item, answer) :: answers, state)

/-- Whether two items can be taken in either order without a difference. -/
def Commutes (a b : α) : Prop :=
  ∀ state, (step (step state a).2 b).1 = (step state b).1 ∧
    (step (step state b).2 a).1 = (step state a).1 ∧
      (step (step state a).2 b).2 = (step (step state b).2 a).2

/-- Whether two lists reach the same state from everywhere, with the same
answers to their items. -/
def SameRun (xs ys : List α) : Prop :=
  ∀ state, (runItems step state xs).2 = (runItems step state ys).2 ∧
    (runItems step state xs).1.Perm (runItems step state ys).1

end

section

variable {σ α β : Type} {step : σ → α → β × σ}

theorem runItems_cons (state : σ) (item : α) (rest : List α) :
    runItems step state (item :: rest) =
      ((item, (step state item).1) ::
        (runItems step (step state item).2 rest).1,
        (runItems step (step state item).2 rest).2) := rfl

theorem runItems_append (state : σ) (xs ys : List α) :
    runItems step state (xs ++ ys) =
      ((runItems step state xs).1 ++
        (runItems step (runItems step state xs).2 ys).1,
        (runItems step (runItems step state xs).2 ys).2) := by
  induction xs generalizing state with
  | nil => rfl
  | cons item rest ih =>
    rw [List.cons_append, runItems_cons, runItems_cons, ih, List.cons_append]

/-- States that look like other states run like these, as long as they stay
good. -/
theorem runItems_view {τ : Type} {step' : τ → α → β × τ} {view : σ → τ}
    (Good : σ → Prop) {items : List α}
    (simulates : ∀ state, Good state → ∀ item ∈ items,
      (step state item).1 = (step' (view state) item).1 ∧
        view (step state item).2 = (step' (view state) item).2)
    (stays : ∀ state, Good state → ∀ item, Good (step state item).2) {state : σ}
    (good : Good state) :
    (runItems step state items).1 = (runItems step' (view state) items).1 ∧
      view (runItems step state items).2 =
        (runItems step' (view state) items).2 := by
  induction items generalizing state with
  | nil => exact ⟨rfl, rfl⟩
  | cons item rest ih =>
    obtain ⟨answer_same, view_same⟩ :=
      simulates state good item List.mem_cons_self
    have rest_same := ih (fun state good other mem =>
      simulates state good other (List.mem_cons_of_mem item mem))
        (stays state good item)
    rw [view_same] at rest_same
    rw [runItems_cons, runItems_cons, answer_same, rest_same.1]
    exact ⟨rfl, rest_same.2⟩

/-- What every step keeps is kept by a run. -/
theorem runItems_stays {Good : σ → Prop}
    (stays : ∀ state, Good state → ∀ item, Good (step state item).2)
    (items : List α) {state : σ} (good : Good state) :
    Good (runItems step state items).2 := by
  induction items generalizing state with
  | nil => exact good
  | cons item rest ih => exact ih (stays state good item)

theorem Commutes.symm {a b : α} (commutes : Commutes step a b) :
    Commutes step b a := by
  intro state
  obtain ⟨b_same, a_same, state_same⟩ := commutes state
  exact ⟨a_same, b_same, state_same.symm⟩

theorem SameRun.refl (xs : List α) : SameRun step xs xs :=
    fun _ => ⟨rfl, .refl _⟩

theorem SameRun.symm {xs ys : List α} (same : SameRun step xs ys) :
    SameRun step ys xs :=
  fun state => ⟨(same state).1.symm, (same state).2.symm⟩

theorem SameRun.trans {xs ys zs : List α} (first : SameRun step xs ys)
    (second : SameRun step ys zs) : SameRun step xs zs :=
  fun state => ⟨(first state).1.trans (second state).1,
    (first state).2.trans (second state).2⟩

theorem SameRun.cons {xs ys : List α} (same : SameRun step xs ys) (item : α) :
    SameRun step (item :: xs) (item :: ys) := by
  intro state
  obtain ⟨state_same, answers_same⟩ := same (step state item).2
  rw [runItems_cons, runItems_cons]
  exact ⟨state_same, answers_same.cons _⟩

/-- Two commuting items at the front can be exchanged. -/
theorem SameRun.swap {a b : α} (commutes : Commutes step a b) (rest : List α) :
    SameRun step (a :: b :: rest) (b :: a :: rest) := by
  intro state
  obtain ⟨b_same, a_same, state_same⟩ := commutes state
  rw [runItems_cons, runItems_cons, runItems_cons, runItems_cons, b_same,
    a_same, state_same]
  exact ⟨rfl, .swap _ _ _⟩

/-- An item can be taken after others that it commutes with. -/
theorem SameRun.move {item : α} {others : List α}
    (commutes : ∀ b ∈ others, Commutes step item b)
    (rest : List α) : SameRun step (item :: (others ++ rest))
    (others ++ item :: rest) := by
  induction others with
  | nil => exact .refl _
  | cons b others ih =>
    have exchanged := SameRun.swap (commutes b List.mem_cons_self)
      (others ++ rest)
    have moved := ih fun c mem => commutes c (List.mem_cons_of_mem b mem)
    exact exchanged.trans (moved.cons b)

/-- Any interleaving of groups that commute runs like the groups one after the
other. -/
theorem Interleaves.sameRun {groups : List (List α)} {order : List α}
    (interleaves : Interleaves groups order)
    (independent : groups.Pairwise fun g h => ∀ a ∈ g, ∀ b ∈ h,
      Commutes step a b) :
    SameRun step order groups.flatten := by
  induction interleaves with
  | done exhausted =>
    rw [List.flatten_eq_nil_iff.2 exhausted]
    exact .refl []
  | @step before behind group order item rest ih =>
    rw [List.pairwise_append, List.pairwise_cons] at independent
    obtain ⟨before_independent, ⟨group_behind, behind_independent⟩, across⟩ :=
      independent
    have rest_same : SameRun step order
        (before ++ group :: behind).flatten := by
      apply ih
      rw [List.pairwise_append, List.pairwise_cons]
      refine ⟨before_independent, ⟨?_, behind_independent⟩, ?_⟩
      · intro h mem a a_mem
        exact group_behind h mem a (List.mem_cons_of_mem item a_mem)
      · intro g g_mem h h_mem a a_mem b b_mem
        rcases List.mem_cons.1 h_mem with rfl | h_mem
        · exact across g g_mem _ List.mem_cons_self a a_mem b
            (List.mem_cons_of_mem item b_mem)
        · exact across g g_mem h (List.mem_cons_of_mem _ h_mem) a a_mem b b_mem
    -- what stands before the item's group belongs to other groups
    have commutes : ∀ b ∈ before.flatten, Commutes step item b := by
      intro b mem
      obtain ⟨g, g_mem, b_mem⟩ := List.mem_flatten.1 mem
      exact (across g g_mem _ List.mem_cons_self b b_mem item
        List.mem_cons_self).symm
    rw [List.flatten_append, List.flatten_cons] at rest_same ⊢
    exact (rest_same.cons item).trans (SameRun.move commutes _)

/-- Two interleavings of the same groups run alike if the groups commute. -/
theorem Interleaves.sameRun_of_interleaves {groups : List (List α)}
    {order order' : List α} (interleaves : Interleaves groups order)
    (interleaves' : Interleaves groups order')
    (independent : groups.Pairwise fun g h => ∀ a ∈ g, ∀ b ∈ h,
      Commutes step a b) :
    SameRun step order order' :=
  (interleaves.sameRun independent).trans
    (interleaves'.sameRun independent).symm

end

/-- An interleaving has the items of its groups. -/
theorem Interleaves.perm {α : Type} {groups : List (List α)} {order : List α}
    (interleaves : Interleaves groups order) : order.Perm groups.flatten := by
  induction interleaves with
  | done exhausted =>
    rw [List.flatten_eq_nil_iff.2 exhausted]
  | @step before behind group order item rest ih =>
    rw [List.flatten_append, List.flatten_cons] at ih ⊢
    exact (ih.cons item).trans List.perm_middle.symm

/-- Taking the groups one after the other is an interleaving of them. -/
theorem interleaves_flatten {α : Type} (groups : List (List α)) :
    Interleaves groups groups.flatten := by
  have all : ∀ (before behind : List (List α)), (∀ group ∈ before, group = []) →
      Interleaves (before ++ behind) behind.flatten := by
    intro before behind
    induction behind generalizing before with
    | nil =>
      intro exhausted
      rw [List.append_nil]
      exact .done exhausted
    | cons group behind ih =>
      intro exhausted
      induction group with
      | nil =>
        have moved := ih (before ++ [[]]) (by
          intro g mem
          rcases List.mem_append.1 mem with mem | mem
          · exact exhausted g mem
          · exact List.mem_singleton.1 mem)
        rw [List.append_assoc] at moved
        exact moved
      | cons item group group_ih => exact .step group_ih
  exact all [] groups nofun

end Passbook
