import GpuDriverLab.QueueHistory

/-!
# The invariant of the ring of slots

In every reachable queue the pending submissions stand in the slots from the
head on, in order, and every other slot is empty. From it follows what the
index arithmetic and the two `?` of the ring rely on.
-/

namespace GpuDriverLab
set_option autoImplicit false
open Rust

namespace StaticCommandQueue

variable {n : Nat}

/-- What the slots, the head and the length say about each other. -/
structure RingInvariant (queue : StaticCommandQueue n) : Prop where
  head_lt : queue.head < n
  len_le : queue.len ≤ n
  occupied : ∀ k, k < n →
    ((∃ submission, queue.slots.toList[(queue.head + k) % n]? = some (some submission)) ↔ k < queue.len)
  distinct : ∀ (i j : Nat) (a b : ValidatedSubmission), queue.slots.toList[i]? = some (some a) →
    queue.slots.toList[j]? = some (some b) → a.commandId = b.commandId → i = j

/-- What the operations of a queue with these submissions pending rely on. -/
structure RingSafe (pending : List ValidatedSubmission) (queue : StaticCommandQueue n) : Prop where
  len : queue.len = pending.length
  tailIndex : queue.tailIndex = .ret ((queue.head + queue.len) % n)
  duplicate : ∀ id : CommandId,
    (queue.slots.toList.reduceOption.any fun queued => queued.command.id.get == id.get) = true ↔
      id ∈ pending.map ValidatedSubmission.commandId
  enqueue : ∀ submission, ∃ r queue', queue.enqueue submission = .ret (r, queue') ∧
    (r = .ok () → queue.slots.toList[(queue.head + queue.len) % n]? = some none ∧
      queue'.slots.toList = queue.slots.toList.set ((queue.head + queue.len) % n) (some submission))
  dequeue : ∃ r queue', queue.dequeue = .ret (r, queue') ∧ (r = none ↔ queue.len = 0) ∧
    (r ≠ none → queue.head + 1 ≤ usizeMax ∧ queue'.head = (queue.head + 1) % n)
  peek : ∃ r, queue.peek = .ret r ∧ (r = none ↔ queue.len = 0)

namespace Represents

variable {queue : StaticCommandQueue n} {f : SubmissionFifo}

theorem slot (rep : Represents queue f) {k : Nat} (below : k < n) :
    queue.slots.toList[(queue.head + k) % n]? = some f.items[k]? := by
  have slot := rep.ring.slot k
  rw [Vector.length_toList] at slot
  exact slot below

/-- An occupied slot holds one of the items. -/
theorem item (rep : Represents queue f) {i : Nat} {submission : ValidatedSubmission}
    (held : queue.slots.toList[i]? = some (some submission)) :
    ∃ k, k < n ∧ (queue.head + k) % n = i ∧ f.items[k]? = some submission := by
  obtain ⟨inside, -⟩ := List.getElem?_eq_some_iff.mp held
  obtain ⟨k, below, at_⟩ := Ring.place rep.ring.head_lt inside
  rw [Vector.length_toList] at below at_
  refine ⟨k, below, at_, ?_⟩
  rw [← at_, rep.slot below, Option.some.injEq] at held
  exact held

theorem ringInvariant (rep : Represents queue f) : RingInvariant queue where
  head_lt := rep.head_lt
  len_le := by rw [rep.len]; exact rep.fits
  occupied := by
    intro k below
    rw [rep.slot below, rep.len]
    constructor
    · rintro ⟨submission, held⟩
      rw [Option.some.injEq] at held
      exact (List.getElem?_eq_some_iff.mp held).1
    · intro inside
      exact ⟨f.items[k], by rw [List.getElem?_eq_getElem inside]⟩
  distinct := by
    intro i j a b held_a held_b same
    obtain ⟨k, -, rfl, item_a⟩ := rep.item held_a
    obtain ⟨m, -, rfl, item_b⟩ := rep.item held_b
    have ids : (f.items.map ValidatedSubmission.commandId)[k]? =
        (f.items.map ValidatedSubmission.commandId)[m]? := by
      rw [List.getElem?_map, List.getElem?_map, item_a, item_b, Option.map_some, Option.map_some, same]
    have inside := (List.getElem?_eq_some_iff.mp item_a).1
    rw [(List.getElem?_inj (by rwa [List.length_map]) f.distinct).mp ids]

theorem ringSafe (rep : Represents queue f) (word : n ≤ usizeMax) : RingSafe f.items queue where
  len := rep.len
  tailIndex := by rw [rep.len]; exact rep.tailIndex word
  duplicate := rep.duplicate
  enqueue := by
    intro submission
    obtain ⟨queue', run, -⟩ := rep.enqueue word submission
    by_cases taken : submission.commandId ∈ f.items.map ValidatedSubmission.commandId
    · rw [KeyedFifo.enqueue_taken taken] at run
      exact ⟨_, queue', run, nofun⟩
    · by_cases full : f.items.length = f.capacity
      · rw [KeyedFifo.enqueue_full taken full] at run
        exact ⟨_, queue', run, nofun⟩
      · have room : f.items.length < n := by
          have fits := rep.fits
          have capacity := rep.capacity
          omega
        refine ⟨_, _, rep.enqueue_accepted word taken room, ?_⟩
        rintro -
        rw [rep.len]
        -- the first place after the items
        exact ⟨by rw [rep.slot room, List.getElem?_eq_none (Nat.le_refl _)],
          Vector.toList_set (Nat.mod_lt _ (by omega))⟩
  dequeue := by
    have head := rep.head_lt
    cases items : f.items with
    | nil =>
      have none_ : queue.len = 0 := by rw [rep.len, items]; rfl
      have isEmpty : queue.isEmpty = true := beq_iff_eq.mpr none_
      rw [StaticCommandQueue.dequeue, if_pos isEmpty]
      exact ⟨none, queue, rfl, iff_of_true rfl none_, fun some_ => (some_ rfl).elim⟩
    | cons submission rest =>
      have some_ : queue.len ≠ 0 := by
        rw [rep.len, items]
        exact Nat.succ_ne_zero _
      rw [rep.dequeue_first word items]
      exact ⟨_, _, rfl, iff_of_false (Option.some_ne_none _) some_, fun _ => ⟨by omega, rfl⟩⟩
  peek := by
    refine ⟨_, rep.peek, ?_⟩
    rw [rep.len, KeyedFifo.peek, List.head?_eq_none_iff, List.length_eq_zero_iff]

end Represents

/-- The invariant of the reachable rings of one capacity, and what it makes safe. -/
def RingsSound (n : Nat) : Prop :=
  ∃ ring : StaticCommandQueue n, StaticCommandQueue.new n = .ok ring ∧
    ∀ ops, ∃ rs queue, (queueMachine (StaticCommandQueue n)).run ring ops = .ret (rs, queue) ∧
      RingInvariant queue ∧ RingSafe (waiting (ops.zip rs)) queue

/-- **The ring is sound.** Every sequence of calls on a new queue returns and leaves a ring
whose slots, head and length agree, so that none of its operations goes wrong. -/
theorem reachable_rings_sound (n : Nat) (positive : n ≠ 0) (word : n ≤ usizeMax) : RingsSound n := by
  obtain ⟨ring, made, start⟩ := new_represents positive
  refine ⟨ring, made, ?_⟩
  intro ops
  obtain ⟨rs, queue, f, run, rep, -, items⟩ := (backend word).run_waiting start ops
  refine ⟨rs, queue, run, Represents.ringInvariant rep, ?_⟩
  rw [← items]
  exact Represents.ringSafe rep word

theorem reachable_rings_sound_three : 3 ≠ 0 ∧ 3 ≤ usizeMax ∧ RingsSound 3 :=
  ⟨by decide, by decide, reachable_rings_sound 3 (by decide) (by decide)⟩

end StaticCommandQueue

end GpuDriverLab
