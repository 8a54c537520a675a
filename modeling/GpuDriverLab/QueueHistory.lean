import GpuDriverLab.QueueRefinement

/-!
# What a history leaves in the queue

The submissions that wait are the accepted ones that no call has taken out.
Every backend keeps its abstract queue equal to them, and frees a command id
with its own submission.
-/

namespace GpuDriverLab
set_option autoImplicit false
open Rust

section Waiting

variable {E : Type}

/-- What one call changes in the submissions that wait. -/
def afterCall (pending : List ValidatedSubmission) : QueueOp × QueueResult E → List ValidatedSubmission
  | (.enqueue submission, .enqueued (.ok ())) => pending ++ [submission]
  | (.dequeue, .submission (some _)) => pending.tail
  | _ => pending

/-- The submissions that a history of calls has enqueued and not yet dequeued. -/
def waiting (t : List (QueueOp × QueueResult E)) : List ValidatedSubmission := t.foldl afterCall []

theorem waiting_snoc (t : List (QueueOp × QueueResult E)) (call : QueueOp × QueueResult E) :
    waiting (t ++ [call]) = afterCall (waiting t) call := List.foldl_concat afterCall [] call t

/-- The call takes the submission with this id out of the queue. -/
def TakesOut (id : CommandId) : QueueOp × QueueResult E → Prop
  | (.dequeue, .submission (some submission)) => submission.commandId = id
  | _ => False

end Waiting

namespace FifoBackend

variable {Q : Type} [SubmissionQueue Q]

/-- What one call does to the abstract queue; the others only look at it. -/
theorem step_cases (backend : FifoBackend Q) {q q' : Q} {f : SubmissionFifo} {op : QueueOp}
    {r : QueueResult (SubmissionQueue.Error Q)} (rep : backend.Rep q f)
    (step : (queueMachine Q).step q op = .ret (r, q')) :
    (∃ submission, op = .enqueue submission ∧
      r = .enqueued ((f.enqueue submission).1.mapError backend.refused) ∧ backend.Rep q' (f.enqueue submission).2) ∨
    (op = .dequeue ∧ r = .submission f.dequeue.1 ∧ backend.Rep q' f.dequeue.2) ∨
    (afterCall f.items (op, r) = f.items ∧ (∀ id, ¬ TakesOut id (op, r)) ∧ backend.Rep q' f) := by
  cases op with
  | enqueue submission =>
    obtain ⟨after, run, rep'⟩ := backend.enqueue q f rep submission
    simp only [queueMachine, run, Exec.ret_bind, Exec.ret.injEq, Prod.mk.injEq] at step
    obtain ⟨rfl, rfl⟩ := step
    exact Or.inl ⟨submission, rfl, rfl, rep'⟩
  | dequeue =>
    obtain ⟨after, run, rep'⟩ := backend.dequeue q f rep
    simp only [queueMachine, run, Exec.ret_bind, Exec.ret.injEq, Prod.mk.injEq] at step
    obtain ⟨rfl, rfl⟩ := step
    exact Or.inr (Or.inl ⟨rfl, rfl, rep'⟩)
  | peek =>
    simp only [queueMachine, backend.peek q f rep] at step
    cases step
    exact Or.inr (Or.inr ⟨rfl, fun _ => id, rep⟩)
  | len =>
    simp only [queueMachine, backend.len q f rep] at step
    cases step
    exact Or.inr (Or.inr ⟨rfl, fun _ => id, rep⟩)
  | isEmpty =>
    simp only [queueMachine, backend.isEmpty q f rep] at step
    cases step
    exact Or.inr (Or.inr ⟨rfl, fun _ => id, rep⟩)
  | isFull =>
    simp only [queueMachine, backend.isFull q f rep] at step
    cases step
    exact Or.inr (Or.inr ⟨rfl, fun _ => id, rep⟩)

/-- One call takes the abstract queue along with the submissions that wait. -/
theorem step_waiting (backend : FifoBackend Q) {q q' : Q} {f : SubmissionFifo} {op : QueueOp}
    {r : QueueResult (SubmissionQueue.Error Q)} (rep : backend.Rep q f)
    (step : (queueMachine Q).step q op = .ret (r, q')) :
    ∃ f', backend.Rep q' f' ∧ f'.capacity = f.capacity ∧ f'.items = afterCall f.items (op, r) := by
  obtain ⟨submission, rfl, rfl, rep'⟩ | ⟨rfl, rfl, rep'⟩ | ⟨same, -, rep'⟩ := backend.step_cases rep step
  · obtain ⟨why, refused⟩ | ⟨f', accepted, capacity, items⟩ := f.enqueue_cases submission
    · rw [refused] at rep' ⊢
      exact ⟨f, rep', rfl, rfl⟩
    · rw [accepted] at rep' ⊢
      exact ⟨f', rep', capacity, items⟩
  · obtain ⟨-, idle⟩ | ⟨item, f', taken, capacity, items⟩ := f.dequeue_cases
    · rw [idle] at rep' ⊢
      exact ⟨f, rep', rfl, rfl⟩
    · rw [taken] at rep' ⊢
      exact ⟨f', rep', capacity, by rw [items]; rfl⟩
  · exact ⟨f, rep', rfl, same.symm⟩

/-- The abstract queue of a history is the submissions that wait after it. -/
theorem trace_waiting (backend : FifoBackend Q) {init q : Q} {capacity : Nat}
    {t : List (QueueOp × QueueResult (SubmissionQueue.Error Q))}
    (start : backend.Rep init (.empty _ capacity)) (h : (queueMachine Q).Trace init t q) :
    ∃ f, backend.Rep q f ∧ f.capacity = capacity ∧ f.items = waiting t := by
  induction h with
  | nil => exact ⟨_, start, rfl, rfl⟩
  | snoc _ last ih =>
    obtain ⟨f, rep, bound, items⟩ := ih
    obtain ⟨f', rep', bound', items'⟩ := backend.step_waiting rep last
    exact ⟨f', rep', bound'.trans bound, by rw [items', items, waiting_snoc]⟩

/-- A queue stays represented along every history. -/
theorem trace_represented (backend : FifoBackend Q) {q q' : Q}
    {t : List (QueueOp × QueueResult (SubmissionQueue.Error Q))} (rep : ∃ f, backend.Rep q f)
    (h : (queueMachine Q).Trace q t q') : ∃ f, backend.Rep q' f := by
  refine h.invariant (I := fun q => ∃ f, backend.Rep q f) rep ?_
  rintro a op r b ⟨f, repA⟩ step
  obtain ⟨f', repB, -⟩ := backend.step_waiting repA step
  exact ⟨f', repB⟩

/-- **Run lemma.** Every sequence of calls on a new queue returns; what waits is in the queue. -/
theorem run_waiting (backend : FifoBackend Q) {init : Q} {capacity : Nat}
    (start : backend.Rep init (.empty _ capacity)) (ops : List QueueOp) :
    ∃ rs q f, (queueMachine Q).run init ops = .ret (rs, q) ∧ backend.Rep q f ∧ f.capacity = capacity ∧
      f.items = waiting (ops.zip rs) := by
  obtain ⟨rs, q, run, -⟩ := Machine.run_returns (fun _ op rep => backend.step_returns rep op) ⟨_, start⟩ ops
  obtain ⟨f, rep, bound, items⟩ := backend.trace_waiting start (Machine.run_trace run)
  exact ⟨rs, q, f, run, rep, bound, items⟩

/-- One call frees an id in use exactly if it takes out the submission with it. -/
theorem step_frees (backend : FifoBackend Q) {q q' : Q} {f : SubmissionFifo} {op : QueueOp}
    {r : QueueResult (SubmissionQueue.Error Q)} (rep : backend.Rep q f)
    (step : (queueMachine Q).step q op = .ret (r, q')) {id : CommandId}
    (used : id ∈ f.items.map ValidatedSubmission.commandId) :
    ∃ f', backend.Rep q' f' ∧ (id ∉ f'.items.map ValidatedSubmission.commandId ↔ TakesOut id (op, r)) := by
  obtain ⟨submission, rfl, rfl, rep'⟩ | ⟨rfl, rfl, rep'⟩ | ⟨-, other, rep'⟩ := backend.step_cases rep step
  · exact ⟨_, rep', iff_of_false (not_not.mpr (KeyedFifo.enqueue_keeps used submission)) fun out => out⟩
  · obtain ⟨-, idle⟩ | ⟨item, f', taken, -, -⟩ := f.dequeue_cases
    · rw [idle] at rep' ⊢
      exact ⟨f, rep', iff_of_false (not_not.mpr used) fun out => out⟩
    · have frees := KeyedFifo.dequeue_frees taken used
      rw [taken] at rep' ⊢
      exact ⟨f', rep', frees⟩
  · exact ⟨f, rep', iff_of_false (not_not.mpr used) (other id)⟩

end FifoBackend

end GpuDriverLab
