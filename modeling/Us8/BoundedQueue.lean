/-
  Us8/BoundedQueue.lean
  =====================
  **Bounded first-in-first-out queues, and the loop by which a consumer shortens one.**

  The list view of a single-producer single-consumer queue that refuses an entry when
  it is full: the producer appends, the consumer removes or looks at the oldest entry.

  `Trim` is the loop `if (size > limit){while (size > limit){if (!pop()) break; …}}` of
  a consumer, one shared access a step.  The size is read by a separate call that may
  be out of date, so it is an input.  `Trim.items_step` and `Trim.count_step` say all
  that its users need: what stays is what was there without some of the oldest entries,
  and every entry removed is counted.
-/
import Mathlib.Data.List.Basic

namespace Us8

/-- A queue of at most `capacity` entries, oldest first. -/
structure BoundedQueue (α : Type*) where
  capacity : Nat
  items : List α
  length_le : items.length ≤ capacity

namespace BoundedQueue

variable {α : Type*}

def empty (capacity : Nat) : BoundedQueue α := ⟨capacity, [], Nat.zero_le _⟩

def Full (queue : BoundedQueue α) : Prop := queue.items.length = queue.capacity

instance (queue : BoundedQueue α) : Decidable queue.Full :=
  inferInstanceAs (Decidable (_ = _))

/-- Append an entry; a full queue refuses it. -/
def tryEnqueue (queue : BoundedQueue α) (x : α) : BoundedQueue α :=
  if h : queue.Full then queue
  else
    { queue with
      items := queue.items ++ [x]
      length_le := by
        have hle := queue.length_le
        unfold Full at h
        simp only [List.length_append, List.length_singleton]
        omega }

def peek (queue : BoundedQueue α) : Option α := queue.items.head?

def pop (queue : BoundedQueue α) : BoundedQueue α :=
  { queue with
    items := queue.items.tail
    length_le := by
      have hle := queue.length_le
      rw [List.length_tail]
      omega }

@[simp] theorem items_empty (capacity : Nat) : (empty capacity : BoundedQueue α).items = [] := rfl

theorem tryEnqueue_of_full {queue : BoundedQueue α} (h : queue.Full) (x : α) :
    queue.tryEnqueue x = queue :=
  dif_pos h

theorem items_tryEnqueue {queue : BoundedQueue α} (h : ¬ queue.Full) (x : α) :
    (queue.tryEnqueue x).items = queue.items ++ [x] := by
  simp [tryEnqueue, h]

theorem mem_tryEnqueue {queue : BoundedQueue α} {x y : α}
    (h : y ∈ (queue.tryEnqueue x).items) : y ∈ queue.items ∨ y = x := by
  by_cases hfull : queue.Full
  · rw [tryEnqueue_of_full hfull] at h
    exact Or.inl h
  · rw [items_tryEnqueue hfull, List.mem_append, List.mem_singleton] at h
    exact h

theorem peek_tryEnqueue {queue : BoundedQueue α} {x : α} (h : queue.peek = some x) (y : α) :
    (queue.tryEnqueue y).peek = some x := by
  by_cases hfull : queue.Full
  · rwa [tryEnqueue_of_full hfull]
  · unfold peek at h ⊢
    rw [items_tryEnqueue hfull, List.head?_append, h, Option.some_or]

@[simp] theorem items_pop (queue : BoundedQueue α) : queue.pop.items = queue.items.tail := rfl

theorem items_of_peek {queue : BoundedQueue α} {x : α} (h : queue.peek = some x) :
    queue.items = x :: queue.pop.items :=
  List.eq_cons_of_mem_head? h

end BoundedQueue

/-! ### Shortening a queue -/

/-- Where the loop stands: before the first look at the size, before another one with
    `nDeleted` entries gone, or about to remove an entry. -/
inductive Trim where
  | first
  | again (nDeleted : Nat)
  | remove (nDeleted : Nat)
deriving DecidableEq

inductive TrimResult where
  | next (trim : Trim)
  | done (nDeleted : Nat)
deriving DecidableEq

namespace Trim

variable {α : Type*}

def nDeleted : Trim → Nat
  | .first => 0
  | .again nDeleted => nDeleted
  | .remove nDeleted => nDeleted

/-- One access to the queue, with the size that a look at it would return. -/
def step (limit sizeApprox : Nat) (queue : BoundedQueue α) : Trim → BoundedQueue α × TrimResult
  | .first => (queue, if sizeApprox > limit then .next (.again 0) else .done 0)
  | .again nDeleted =>
      (queue, if sizeApprox > limit then .next (.remove nDeleted) else .done nDeleted)
  | .remove nDeleted =>
      match queue.peek with
      | some _ => (queue.pop, .next (.again (nDeleted + 1)))
      | none => (queue, .done nDeleted)

end Trim

def TrimResult.nDeleted : TrimResult → Nat
  | .next trim => trim.nDeleted
  | .done nDeleted => nDeleted

namespace Trim

variable {α : Type*} (limit sizeApprox : Nat) (queue : BoundedQueue α) (trim : Trim)

theorem items_step : (trim.step limit sizeApprox queue).1.items.Sublist queue.items := by
  cases trim with
  | first => exact List.Sublist.refl _
  | again nDeleted => exact List.Sublist.refl _
  | remove nDeleted =>
    unfold step
    cases queue.peek with
    | none => exact List.Sublist.refl _
    | some x => exact List.tail_sublist _

/-- Only the removal of an entry that is there shortens the queue. -/
theorem items_step_eq (h : ¬ ((∃ nDeleted, trim = .remove nDeleted) ∧ queue.items ≠ [])) :
    (trim.step limit sizeApprox queue).1.items = queue.items := by
  cases trim with
  | first => rfl
  | again nDeleted => rfl
  | remove nDeleted =>
    have hempty : queue.items = [] := by
      by_contra hne
      exact h ⟨⟨nDeleted, rfl⟩, hne⟩
    have hpeek : queue.peek = none := by rw [BoundedQueue.peek, hempty, List.head?_nil]
    simp only [step, hpeek]

theorem count_step :
    (trim.step limit sizeApprox queue).1.items.length +
        (trim.step limit sizeApprox queue).2.nDeleted =
      queue.items.length + trim.nDeleted := by
  cases trim with
  | first =>
    simp only [step, nDeleted]
    split_ifs <;> rfl
  | again n =>
    simp only [step, nDeleted]
    split_ifs <;> rfl
  | remove n =>
    unfold step
    cases hpeek : queue.peek with
    | none => rfl
    | some x =>
      simp only [BoundedQueue.items_of_peek hpeek, List.length_cons, TrimResult.nDeleted, nDeleted]
      omega

end Trim

end Us8
