/-
  Us8/CircularBuffer.lean
  =======================
  **Bounded buffers that overwrite their oldest entry.**

  The list view of `boost::circular_buffer`: a buffer has a fixed positive
  capacity and never holds more than that.  Pushing at one end of a full buffer
  silently drops the entry at the other end, which is the only way an entry is
  ever lost.  The bound is a field of the structure, so no operation can build
  an overfull buffer; `Occupied` adds that something is stored, which is what
  makes `front` and `back` total.
-/
import Mathlib.Data.List.DropRight
import Mathlib.Data.List.Sort

namespace Us8

structure CircularBuffer (α : Type*) where
  capacity : Nat
  items : List α
  capacity_pos : 0 < capacity
  length_le : items.length ≤ capacity

namespace CircularBuffer

variable {α : Type*}

def empty (capacity : Nat) (hpos : 0 < capacity) : CircularBuffer α :=
  ⟨capacity, [], hpos, Nat.zero_le _⟩

def full (b : CircularBuffer α) : Bool := decide (b.items.length = b.capacity)

structure Occupied (α : Type*) extends CircularBuffer α where
  items_ne_nil : items ≠ []

/-- What stays when a new entry is pushed at the back: all but the front of a full
    buffer. -/
def kept (b : CircularBuffer α) : List α := if b.full then b.items.tail else b.items

/-- `push_back`: a full buffer overwrites its front. -/
def pushBack (b : CircularBuffer α) (x : α) : Occupied α where
  capacity := b.capacity
  items := b.kept ++ [x]
  capacity_pos := b.capacity_pos
  length_le := by
    have hle := b.length_le
    have hpos := b.capacity_pos
    by_cases hfull : b.items.length = b.capacity <;> simp [kept, full, hfull] <;> omega
  items_ne_nil := by simp

/-- `push_front`: a full buffer overwrites its back. -/
def pushFront (b : CircularBuffer α) (x : α) : Occupied α where
  capacity := b.capacity
  items := x :: (if b.full then b.items.dropLast else b.items)
  capacity_pos := b.capacity_pos
  length_le := by
    have hle := b.length_le
    have hpos := b.capacity_pos
    by_cases hfull : b.items.length = b.capacity <;> simp [full, hfull] <;> omega
  items_ne_nil := by simp

namespace Occupied

def front (b : Occupied α) : α := b.items.head b.items_ne_nil

def back (b : Occupied α) : α := b.items.getLast b.items_ne_nil

def sort (r : α → α → Prop) [DecidableRel r] (b : Occupied α) : Occupied α where
  capacity := b.capacity
  items := b.items.insertionSort r
  capacity_pos := b.capacity_pos
  length_le := by simpa using b.length_le
  items_ne_nil := by
    intro hnil
    have hperm := List.perm_insertionSort r b.items
    rw [hnil] at hperm
    exact b.items_ne_nil hperm.symm.eq_nil

theorem front_mem (b : Occupied α) : b.front ∈ b.items := List.head_mem _

theorem back_mem (b : Occupied α) : b.back ∈ b.items := List.getLast_mem _

theorem items_eq_front_cons (b : Occupied α) : b.items = b.front :: b.items.tail :=
  (List.cons_head_tail b.items_ne_nil).symm

theorem perm_items_sort (r : α → α → Prop) [DecidableRel r] (b : Occupied α) :
    (b.sort r).items.Perm b.items := List.perm_insertionSort r b.items

@[simp] theorem full_sort (r : α → α → Prop) [DecidableRel r] (b : Occupied α) :
    (b.sort r).full = b.full := by
  simp [full, sort]

end Occupied

variable (b : CircularBuffer α) (x : α)

@[simp] theorem capacity_pushBack : (b.pushBack x).capacity = b.capacity := rfl

@[simp] theorem items_pushBack : (b.pushBack x).items = b.kept ++ [x] := rfl

theorem kept_sublist : b.kept.Sublist b.items := by
  unfold kept
  split_ifs
  · exact List.tail_sublist _
  · exact List.Sublist.refl _

/-- What a buffer holds after a push was in it or is the new entry. -/
theorem mem_pushBack {b : CircularBuffer α} {x y : α} (h : y ∈ (b.pushBack x).items) :
    y ∈ b.items ∨ y = x := by
  rcases List.mem_append.mp h with h | h
  · exact Or.inl (b.kept_sublist.subset h)
  · exact Or.inr (List.mem_singleton.mp h)

theorem kept_of_full {b : CircularBuffer α} (h : b.full = true) : b.kept = b.items.tail :=
  if_pos h

theorem kept_of_not_full {b : CircularBuffer α} (h : b.full = false) : b.kept = b.items :=
  if_neg (by simp [h])

@[simp] theorem kept_empty (capacity : Nat) (hpos : 0 < capacity) :
    (empty capacity hpos : CircularBuffer α).kept = [] := by
  unfold kept
  split_ifs <;> rfl

theorem items_pushFront_of_not_full {b : CircularBuffer α} (h : b.full = false) (x : α) :
    (b.pushFront x).items = x :: b.items := by
  simp [pushFront, h]

/-- A buffer that holds the last entries of `l` holds the last entries of `l` and the new
    one after a push. -/
theorem items_pushBack_of_rtake {b : CircularBuffer α} {l : List α}
    (h : b.items = l.rtake b.capacity) (x : α) :
    (b.pushBack x).items = (l ++ [x]).rtake b.capacity := by
  obtain ⟨c, hc⟩ : ∃ c, b.capacity = c + 1 := Nat.exists_eq_add_one.mpr b.capacity_pos
  have hlength : b.items.length = l.length - (l.length - b.capacity) := by
    rw [h, List.rtake, List.length_drop]
  rw [items_pushBack, hc, List.rtake_concat_succ, List.append_cancel_right_eq]
  cases hfull : b.full with
  | true =>
    have hitems : b.items.length = b.capacity := by simpa [full] using hfull
    rw [kept_of_full hfull, h, List.rtake, List.rtake, List.tail_drop]
    congr 1
    omega
  | false =>
    have hitems : b.items.length ≠ b.capacity := by simpa [full] using hfull
    have hle := b.length_le
    rw [kept_of_not_full hfull, h, List.rtake, List.rtake]
    congr 1
    omega

/-- A full buffer stays full: what is overwritten is replaced. -/
theorem full_pushBack_of_full {b : CircularBuffer α} (h : b.full = true) (x : α) :
    (b.pushBack x).full = true := by
  have hlen : b.items.length = b.capacity := by simpa [full] using h
  have hpos := b.capacity_pos
  simp only [full, items_pushBack, kept_of_full h, capacity_pushBack, List.length_append,
    List.length_tail, List.length_singleton, decide_eq_true_eq]
  omega

end CircularBuffer

end Us8
