import GpuDriverLab.QueueHistory
import Mathlib.Data.Finset.Card
import Mathlib.Data.Fintype.Card

/-!
# The set of active ids

`active_ids` repeats what `pending` already says, so that the duplicate check
need not search the deque. In every reachable queue it is the set of the ids
that are pending, which are distinct, and an id leaves it with its own
submission.
-/

namespace GpuDriverLab
set_option autoImplicit false
open Rust

namespace CommandId

/-- The command ids are the numbers from `1` to `u64::MAX`. -/
def numbered (n : Fin usizeMax) : CommandId where
  raw := .ofNat (n.val + 1)
  nonzero := by
    intro zero
    have below : n.val + 1 < UInt64.size := Nat.succ_lt_of_lt_pred n.isLt
    have same := congrArg UInt64.toNat zero
    rw [UInt64.toNat_ofNat_of_lt' below] at same
    exact Nat.succ_ne_zero _ same

theorem numbered_injective : Function.Injective numbered := by
  intro m n same
  have below : ∀ k : Fin usizeMax, k.val + 1 < UInt64.size := fun k => Nat.succ_lt_of_lt_pred k.isLt
  have numbers := congrArg (fun id => id.raw.toNat) same
  simp only [numbered] at numbers
  rw [UInt64.toNat_ofNat_of_lt' (below m), UInt64.toNat_ofNat_of_lt' (below n)] at numbers
  exact Fin.ext (Nat.succ.inj numbers)

/-- Fewer ids than there are leave one out. -/
theorem exists_fresh {ids : Finset CommandId} (few : ids.card < usizeMax) : ∃ id, id ∉ ids := by
  by_contra taken
  have all : ∀ n ∈ (Finset.univ : Finset (Fin usizeMax)), numbered n ∈ ids := by
    intro n _
    by_contra free
    exact taken ⟨_, free⟩
  have many := Finset.card_le_card_of_injOn numbered all numbered_injective.injOn
  rw [Finset.card_univ, Fintype.card_fin] at many
  exact Nat.not_lt.mpr many few

end CommandId

/-- Some submission is made under every id. -/
theorem ValidatedSubmission.exists_commandId (id : CommandId) :
    ∃ submission : ValidatedSubmission, submission.commandId = id := by
  let range : CommandRange := ⟨0, 1, rfl, Nat.one_ne_zero, by decide⟩
  let priority : Priority := ⟨Priority.min, by decide⟩
  exact ⟨{ bufferId := ⟨0⟩, command := { id, range, priority } }, rfl⟩

namespace CommandQueue

/-- What the deque, the id set and the capacity say about each other. -/
structure ActiveIdsInvariant (queue : CommandQueue) : Prop where
  mirrors : queue.activeIds = (queue.pending.map ValidatedSubmission.commandId).toFinset
  distinct : (queue.pending.map ValidatedSubmission.commandId).Nodup
  bounded : queue.pending.length ≤ queue.capacity

/-- What the queue says of its ids. -/
structure IdsTracked (queue : CommandQueue) : Prop where
  contains : ∀ id, queue.containsCommand id = true ↔
    ∃ submission, submission ∈ queue.pending ∧ submission.commandId = id
  accepts : ∀ submission, (queue.enqueue submission).1 = .ok () ↔
    queue.containsCommand submission.commandId = false ∧ queue.isFull = false
  full : queue.isFull = true ↔ ∀ submission, queue.containsCommand submission.commandId = false →
    (queue.enqueue submission).1 ≠ .ok ()
  reusable : ∀ submission after, queue.dequeue = (some submission, after) →
    ∀ again, again.commandId = submission.commandId → (after.enqueue again).1 = .ok ()
  freed : ∀ id, queue.containsCommand id = true →
    ∀ t after, (queueMachine CommandQueue).Trace queue t after →
      ((∃ u v m, t = u ++ v ∧ (queueMachine CommandQueue).Trace queue u m ∧ ¬ m.containsCommand id = true) ↔
        ∃ call ∈ t, TakesOut id call)

namespace Represents

variable {queue : CommandQueue} {f : SubmissionFifo}

theorem activeIdsInvariant (rep : Represents queue f) : ActiveIdsInvariant queue where
  mirrors := by
    ext id
    rw [rep.activeIds, List.mem_toFinset, rep.pending]
  distinct := by
    rw [rep.pending]
    exact f.distinct
  bounded := by
    rw [rep.pending, rep.capacity]
    exact f.bounded

/-- The queue accepts what its abstract queue accepts. -/
theorem enqueue_ok (rep : Represents queue f) (submission : ValidatedSubmission) :
    (queue.enqueue submission).1 = .ok () ↔
      submission.commandId ∉ f.items.map ValidatedSubmission.commandId ∧ f.items.length < f.capacity := by
  rw [(rep.enqueue submission).1, ← KeyedFifo.enqueue_ok]
  cases (f.enqueue submission).1 with
  | ok a => exact iff_of_true rfl rfl
  | error why => exact iff_of_false nofun nofun

theorem accepts (rep : Represents queue f) (submission : ValidatedSubmission) :
    (queue.enqueue submission).1 = .ok () ↔
      queue.containsCommand submission.commandId = false ∧ queue.isFull = false := by
  have bounded := f.bounded
  rw [rep.enqueue_ok, ← Bool.not_eq_true, ← Bool.not_eq_true, rep.contains, rep.isFull]
  exact and_congr_right fun _ => by omega

/-- While there is room some id is fresh: there are as many ids as the greatest capacity. -/
theorem full (rep : Represents queue f) (word : queue.capacity ≤ usizeMax) :
    queue.isFull = true ↔ ∀ submission, queue.containsCommand submission.commandId = false →
      (queue.enqueue submission).1 ≠ .ok () := by
  constructor
  · intro full submission _ accepted
    rw [((rep.accepts submission).mp accepted).2] at full
    cases full
  · intro refused
    by_contra room
    have invariant := rep.activeIdsInvariant
    have few : queue.activeIds.card < usizeMax := by
      have size : queue.activeIds.card = queue.pending.length := by
        rw [invariant.mirrors, List.toFinset_card_of_nodup invariant.distinct, List.length_map]
      have bounded := invariant.bounded
      have short : queue.pending.length ≠ queue.capacity := fun full => room (beq_iff_eq.mpr full)
      omega
    obtain ⟨id, fresh⟩ := CommandId.exists_fresh few
    obtain ⟨submission, rfl⟩ := ValidatedSubmission.exists_commandId id
    have free : queue.containsCommand submission.commandId = false := decide_eq_false fresh
    exact refused submission free ((rep.accepts submission).mpr ⟨free, Bool.eq_false_iff.mpr room⟩)

/-- The id of the submission that was just dequeued is free, and so is its place. -/
theorem reusable (rep : Represents queue f) {submission : ValidatedSubmission} {after : CommandQueue}
    (taken : queue.dequeue = (some submission, after)) {again : ValidatedSubmission}
    (same : again.commandId = submission.commandId) : (after.enqueue again).1 = .ok () := by
  obtain ⟨outcome, left⟩ := rep.dequeue
  rw [taken] at outcome left
  obtain ⟨-, idle⟩ | ⟨item, rest, run, capacity, items⟩ := f.dequeue_cases
  · rw [idle] at outcome
    cases outcome
  · rw [run] at outcome left
    cases outcome
    have used : submission.commandId ∈ f.items.map ValidatedSubmission.commandId := by
      rw [items]
      exact List.mem_cons_self
    have bounded := f.bounded
    rw [items, List.length_cons] at bounded
    rw [left.enqueue_ok, same, capacity]
    exact ⟨(KeyedFifo.dequeue_frees run used).mpr rfl, bounded⟩

/-- **Run lemma.** An id in use becomes free when its own submission is taken out, and not before. -/
theorem freed (rep : Represents queue f) {id : CommandId} (used : queue.containsCommand id = true)
    {t : List (QueueOp × QueueResult QueueError)} {after : CommandQueue}
    (h : (queueMachine CommandQueue).Trace queue t after) :
    (∃ u v m, t = u ++ v ∧ (queueMachine CommandQueue).Trace queue u m ∧ ¬ m.containsCommand id = true) ↔
      ∃ call ∈ t, TakesOut id call := by
  refine h.ended_iff (P := fun queue => queue.containsCommand id = true) used ?_
  intro u a op r b before active step
  obtain ⟨g, repA⟩ : ∃ g, Represents a g := backend.trace_represented ⟨f, rep⟩ before
  obtain ⟨g', repB, frees⟩ := backend.step_frees repA step ((repA.contains id).mp active)
  rw [Represents.contains repB, frees]

theorem idsTracked (rep : Represents queue f) (word : queue.capacity ≤ usizeMax) : IdsTracked queue where
  contains := by
    intro id
    rw [rep.contains, List.mem_map, rep.pending]
  accepts := rep.accepts
  full := rep.full word
  reusable := fun _ _ taken _ same => rep.reusable taken same
  freed := fun _ used _ _ h => rep.freed used h

end Represents

/-- The reachable queues of one capacity. -/
def ActiveIdsMirror (capacity : Nat) : Prop :=
  ∃ fresh, CommandQueue.new capacity = .ok fresh ∧
    ∀ ops, ∃ rs queue, (queueMachine CommandQueue).run fresh ops = .ret (rs, queue) ∧
      queue.capacity = capacity ∧ queue.pending = waiting (ops.zip rs) ∧
      ActiveIdsInvariant queue ∧ IdsTracked queue

/-- **The active-id set mirrors the pending queue**, after every sequence of calls. -/
theorem active_ids_mirror_pending (capacity : Nat) (positive : 0 < capacity) (word : capacity ≤ usizeMax) :
    ActiveIdsMirror capacity := by
  obtain ⟨fresh, made, start⟩ := new_represents (Nat.ne_of_gt positive)
  refine ⟨fresh, made, ?_⟩
  intro ops
  obtain ⟨rs, queue, f, run, rep, bound, items⟩ := backend.run_waiting start ops
  have represented : Represents queue f := rep
  have size : queue.capacity = capacity := represented.capacity.trans bound
  refine ⟨rs, queue, run, size, represented.pending.trans items, represented.activeIdsInvariant, ?_⟩
  exact represented.idsTracked (by rw [size]; exact word)

theorem active_ids_mirror_pending_two : 0 < 2 ∧ 2 ≤ usizeMax ∧ ActiveIdsMirror 2 :=
  ⟨by decide, by decide, active_ids_mirror_pending 2 (by decide) (by decide)⟩

end CommandQueue

end GpuDriverLab
