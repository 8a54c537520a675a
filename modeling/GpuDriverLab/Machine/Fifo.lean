import Mathlib.Data.List.Nodup

/-!
# Bounded first-in first-out queues with keys

What a queue of items with distinct keys is for, apart from any representation:
an item is refused when its key is taken, or else when the queue is full, and
items leave in the order in which they came. A queue carries its bound and the
distinctness of its keys.
-/

namespace GpuDriverLab
set_option autoImplicit false

universe u v

/-- Why an item was refused. -/
inductive Refusal (κ : Type v) where
  | duplicate (key : κ)
  | full (capacity : Nat)
deriving DecidableEq, Repr

structure KeyedFifo (α : Type u) (κ : Type v) (key : α → κ) where
  capacity : Nat
  items : List α
  bounded : items.length ≤ capacity
  distinct : (items.map key).Nodup

namespace KeyedFifo

variable {α : Type u} {κ : Type v} {key : α → κ}

@[ext] theorem ext {q q' : KeyedFifo α κ key} (capacity : q.capacity = q'.capacity) (items : q.items = q'.items) :
    q = q' := by
  cases q
  cases q'
  cases capacity
  cases items
  rfl

def empty (key : α → κ) (capacity : Nat) : KeyedFifo α κ key :=
  { capacity, items := [], bounded := Nat.zero_le _, distinct := List.nodup_nil }

def peek (q : KeyedFifo α κ key) : Option α := q.items.head?

def dequeue (q : KeyedFifo α κ key) : Option α × KeyedFifo α κ key :=
  match items : q.items with
  | [] => (none, q)
  | item :: rest => (some item,
    { q with
      items := rest
      bounded := by have := q.bounded; rw [items, List.length_cons] at this; omega
      distinct := by have := q.distinct; rw [items] at this; exact this.of_cons })

section Dequeue

variable {q : KeyedFifo α κ key} {item : α}

theorem dequeue_nil (none_ : q.items = []) : q.dequeue = (none, q) := by
  unfold dequeue
  split
  · rfl
  · rename_i some_
    rw [none_] at some_
    cases some_

theorem dequeue_cons {rest : List α} (items : q.items = item :: rest) :
    q.dequeue.1 = some item ∧ q.dequeue.2.capacity = q.capacity ∧ q.dequeue.2.items = rest := by
  unfold dequeue
  split
  · rename_i none_
    rw [items] at none_
    cases none_
  · rename_i first rest' split_
    rw [items] at split_
    cases split_
    exact ⟨rfl, rfl, rfl⟩

/-- An item that leaves was the first; nothing else moves. -/
theorem dequeue_cases (q : KeyedFifo α κ key) :
    (q.items = [] ∧ q.dequeue = (none, q)) ∨
    ∃ item q', q.dequeue = (some item, q') ∧ q'.capacity = q.capacity ∧ q.items = item :: q'.items := by
  cases items : q.items with
  | nil => exact Or.inl ⟨rfl, dequeue_nil items⟩
  | cons item rest =>
    have taken := dequeue_cons items
    exact Or.inr ⟨item, q.dequeue.2, Prod.ext taken.1 rfl, taken.2.1, by rw [taken.2.2]⟩

/-- A dequeue in terms of the items alone. -/
theorem dequeue_items (q : KeyedFifo α κ key) :
    q.dequeue.1 = q.items.head? ∧ q.dequeue.2.capacity = q.capacity ∧ q.dequeue.2.items = q.items.tail := by
  obtain ⟨none_, idle⟩ | ⟨item, rest, taken, capacity, items⟩ := q.dequeue_cases
  · rw [idle, none_]
    exact ⟨rfl, rfl, rfl⟩
  · rw [taken, items]
    exact ⟨rfl, capacity, rfl⟩

/-- A key in use is freed by the dequeue of its own item and by no other. -/
theorem dequeue_frees {q' : KeyedFifo α κ key} (taken : q.dequeue = (some item, q')) {k : κ}
    (used : k ∈ q.items.map key) : k ∉ q'.items.map key ↔ key item = k := by
  obtain ⟨-, idle⟩ | ⟨first, rest, run, -, items⟩ := q.dequeue_cases
  · rw [idle] at taken
    cases taken
  · rw [run] at taken
    cases taken
    have distinct := q.distinct
    rw [items, List.map_cons, List.nodup_cons] at distinct
    rw [items, List.map_cons, List.mem_cons] at used
    constructor
    · intro freed
      obtain rfl | left := used
      · rfl
      · exact (freed left).elim
    · rintro rfl
      -- no second item has the key
      exact distinct.1

end Dequeue

section Enqueue

variable [DecidableEq κ]

/-- A taken key is reported before a full queue. -/
def enqueue (q : KeyedFifo α κ key) (item : α) : Except (Refusal κ) Unit × KeyedFifo α κ key :=
  if taken : key item ∈ q.items.map key then (.error (.duplicate (key item)), q)
  else if full : q.items.length = q.capacity then (.error (.full q.capacity), q)
  else (.ok (),
    { q with
      items := q.items ++ [item]
      bounded := by have := q.bounded; rw [List.length_append, List.length_singleton]; omega
      distinct := by
        rw [List.map_append, List.map_singleton, ← List.concat_eq_append]
        exact q.distinct.concat taken })

variable {q : KeyedFifo α κ key} {item : α}

theorem enqueue_taken (taken : key item ∈ q.items.map key) :
    q.enqueue item = (.error (.duplicate (key item)), q) := dif_pos taken

theorem enqueue_full (fresh : key item ∉ q.items.map key) (full : q.items.length = q.capacity) :
    q.enqueue item = (.error (.full q.capacity), q) := by
  rw [enqueue, dif_neg fresh, dif_pos full]

theorem enqueue_accepted (fresh : key item ∉ q.items.map key) (room : q.items.length ≠ q.capacity) :
    (q.enqueue item).1 = .ok () ∧ (q.enqueue item).2.capacity = q.capacity ∧
      (q.enqueue item).2.items = q.items ++ [item] := by
  rw [enqueue, dif_neg fresh, dif_neg room]
  exact ⟨rfl, rfl, rfl⟩

/-- What an offered item can meet with. -/
theorem enqueue_cases (q : KeyedFifo α κ key) (item : α) :
    (∃ why, q.enqueue item = (.error why, q)) ∨
    ∃ q', q.enqueue item = (.ok (), q') ∧ q'.capacity = q.capacity ∧ q'.items = q.items ++ [item] := by
  by_cases taken : key item ∈ q.items.map key
  · exact Or.inl ⟨_, enqueue_taken taken⟩
  · by_cases full : q.items.length = q.capacity
    · exact Or.inl ⟨_, enqueue_full taken full⟩
    · have accepted := enqueue_accepted taken full
      exact Or.inr ⟨(q.enqueue item).2, Prod.ext accepted.1 rfl, accepted.2⟩

theorem enqueue_keeps {k : κ} (used : k ∈ q.items.map key) (item : α) : k ∈ (q.enqueue item).2.items.map key := by
  obtain ⟨why, refused⟩ | ⟨q', accepted, -, items⟩ := q.enqueue_cases item
  · rw [refused]
    exact used
  · rw [accepted, items, List.map_append]
    exact List.mem_append_left _ used

/-- An item gets in exactly if its key is free and there is room. -/
theorem enqueue_ok : (q.enqueue item).1 = .ok () ↔ key item ∉ q.items.map key ∧ q.items.length < q.capacity := by
  have bounded := q.bounded
  by_cases taken : key item ∈ q.items.map key
  · rw [enqueue_taken taken]
    exact iff_of_false nofun fun free => free.1 taken
  · by_cases full : q.items.length = q.capacity
    · rw [enqueue_full taken full]
      exact iff_of_false nofun fun room => Nat.ne_of_lt room.2 full
    · exact iff_of_true (enqueue_accepted taken full).1 ⟨taken, by omega⟩

end Enqueue

end KeyedFifo

end GpuDriverLab
