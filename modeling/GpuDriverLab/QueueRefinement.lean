import GpuDriverLab.Machine.Fifo
import GpuDriverLab.Machine.Ring
import GpuDriverLab.QueueBackend

/-!
# Both queues are the same queue

`FifoBackend` says that a queue behind the trait represents a bounded keyed
queue and answers as it does. The growable queue represents it by its deque
and id set, the fixed one by its ring of slots. Two backends of one abstract
queue are related in every state, hence answer alike along every run.
-/

namespace GpuDriverLab
set_option autoImplicit false
open Rust

/-- Two results of one call whose error types differ. -/
inductive SameOutcome {E₁ E₂ α : Type} (E : E₁ → E₂ → Prop) : Except E₁ α → Except E₂ α → Prop where
  | ok (a : α) : SameOutcome E (.ok a) (.ok a)
  | error {e₁ : E₁} {e₂ : E₂} (related : E e₁ e₂) : SameOutcome E (.error e₁) (.error e₂)

inductive SameQueueResult {E₁ E₂ : Type} (E : E₁ → E₂ → Prop) : QueueResult E₁ → QueueResult E₂ → Prop where
  | enqueued {r₁ : Except E₁ Unit} {r₂ : Except E₂ Unit} (same : SameOutcome E r₁ r₂) :
      SameQueueResult E (.enqueued r₁) (.enqueued r₂)
  | submission (r : Option ValidatedSubmission) : SameQueueResult E (.submission r) (.submission r)
  | len (n : Nat) : SameQueueResult E (.len n) (.len n)
  | flag (b : Bool) : SameQueueResult E (.flag b) (.flag b)

/-- A relation between two queues that all six operations preserve, with equal
results and related errors. -/
structure QueueBisimulation (Q₁ Q₂ : Type) [SubmissionQueue Q₁] [SubmissionQueue Q₂] (S : Q₁ → Q₂ → Prop)
    (E : SubmissionQueue.Error Q₁ → SubmissionQueue.Error Q₂ → Prop) : Prop where
  enqueue : ∀ q₁ q₂ submission, S q₁ q₂ → (SubmissionQueue.enqueue q₁ submission).Rel
    (fun p₁ p₂ => SameOutcome E p₁.1 p₂.1 ∧ S p₁.2 p₂.2) (SubmissionQueue.enqueue q₂ submission)
  dequeue : ∀ q₁ q₂, S q₁ q₂ → (SubmissionQueue.dequeue q₁).Rel
    (fun p₁ p₂ => p₁.1 = p₂.1 ∧ S p₁.2 p₂.2) (SubmissionQueue.dequeue q₂)
  peek : ∀ q₁ q₂, S q₁ q₂ → (SubmissionQueue.peek q₁).Rel Eq (SubmissionQueue.peek q₂)
  len : ∀ q₁ q₂, S q₁ q₂ → (SubmissionQueue.len q₁).Rel Eq (SubmissionQueue.len q₂)
  isEmpty : ∀ q₁ q₂, S q₁ q₂ → (SubmissionQueue.isEmpty q₁).Rel Eq (SubmissionQueue.isEmpty q₂)
  isFull : ∀ q₁ q₂, S q₁ q₂ → (SubmissionQueue.isFull q₁).Rel Eq (SubmissionQueue.isFull q₂)

/-- One call on each of two related queues. -/
theorem QueueBisimulation.step {Q₁ Q₂ : Type} [SubmissionQueue Q₁] [SubmissionQueue Q₂] {S : Q₁ → Q₂ → Prop}
    {E : SubmissionQueue.Error Q₁ → SubmissionQueue.Error Q₂ → Prop} (bisim : QueueBisimulation Q₁ Q₂ S E)
    (q₁ : Q₁) (q₂ : Q₂) (op : QueueOp) (related : S q₁ q₂) :
    ((queueMachine Q₁).step q₁ op).Rel (fun p₁ p₂ => SameQueueResult E p₁.1 p₂.1 ∧ S p₁.2 p₂.2)
      ((queueMachine Q₂).step q₂ op) := by
  cases op with
  | enqueue submission =>
    apply Exec.Rel.bind (bisim.enqueue q₁ q₂ submission related)
    rintro ⟨r₁, e₁⟩ ⟨r₂, e₂⟩ ⟨same, after⟩
    exact ⟨.enqueued same, after⟩
  | dequeue =>
    apply Exec.Rel.bind (bisim.dequeue q₁ q₂ related)
    rintro ⟨r₁, e₁⟩ ⟨r₂, e₂⟩ ⟨same, after⟩
    cases same
    exact ⟨.submission r₁, after⟩
  | peek =>
    apply Exec.Rel.bind (bisim.peek q₁ q₂ related)
    rintro r _ rfl
    exact ⟨.submission r, related⟩
  | len =>
    apply Exec.Rel.bind (bisim.len q₁ q₂ related)
    rintro n _ rfl
    exact ⟨.len n, related⟩
  | isEmpty =>
    apply Exec.Rel.bind (bisim.isEmpty q₁ q₂ related)
    rintro b _ rfl
    exact ⟨.flag b, related⟩
  | isFull =>
    apply Exec.Rel.bind (bisim.isFull q₁ q₂ related)
    rintro b _ rfl
    exact ⟨.flag b, related⟩

/-- What every queue behind the trait is for. -/
abbrev SubmissionFifo := KeyedFifo ValidatedSubmission CommandId ValidatedSubmission.commandId

/-- A queue that represents a `SubmissionFifo` and answers every call as it does. -/
structure FifoBackend (Q : Type) [SubmissionQueue Q] where
  Rep : Q → SubmissionFifo → Prop
  refused : Refusal CommandId → SubmissionQueue.Error Q
  enqueue : ∀ q f, Rep q f → ∀ submission, ∃ q',
    SubmissionQueue.enqueue q submission = .ret ((f.enqueue submission).1.mapError refused, q') ∧
    Rep q' (f.enqueue submission).2
  dequeue : ∀ q f, Rep q f → ∃ q', SubmissionQueue.dequeue q = .ret (f.dequeue.1, q') ∧ Rep q' f.dequeue.2
  peek : ∀ q f, Rep q f → SubmissionQueue.peek q = .ret f.peek
  len : ∀ q f, Rep q f → SubmissionQueue.len q = .ret f.items.length
  isEmpty : ∀ q f, Rep q f → SubmissionQueue.isEmpty q = .ret f.items.isEmpty
  isFull : ∀ q f, Rep q f → SubmissionQueue.isFull q = .ret (f.items.length == f.capacity)

namespace FifoBackend

variable {Q Q₁ Q₂ : Type} [SubmissionQueue Q] [SubmissionQueue Q₁] [SubmissionQueue Q₂]

/-- No call on a represented queue panics, and a queue is represented after it. -/
theorem step_returns (backend : FifoBackend Q) {q : Q} (rep : ∃ f, backend.Rep q f) (op : QueueOp) :
    ∃ r q', (queueMachine Q).step q op = .ret (r, q') ∧ ∃ f, backend.Rep q' f := by
  obtain ⟨f, rep⟩ := rep
  cases op with
  | enqueue submission =>
    obtain ⟨q', run, after⟩ := backend.enqueue q f rep submission
    exact ⟨_, q', by simp only [queueMachine, run]; rfl, _, after⟩
  | dequeue =>
    obtain ⟨q', run, after⟩ := backend.dequeue q f rep
    exact ⟨_, q', by simp only [queueMachine, run]; rfl, _, after⟩
  | peek => exact ⟨_, q, by simp only [queueMachine, backend.peek q f rep]; rfl, f, rep⟩
  | len => exact ⟨_, q, by simp only [queueMachine, backend.len q f rep]; rfl, f, rep⟩
  | isEmpty => exact ⟨_, q, by simp only [queueMachine, backend.isEmpty q f rep]; rfl, f, rep⟩
  | isFull => exact ⟨_, q, by simp only [queueMachine, backend.isFull q f rep]; rfl, f, rep⟩

/-- Two backends of one abstract queue. -/
theorem bisimulation (left : FifoBackend Q₁) (right : FifoBackend Q₂)
    {E : SubmissionQueue.Error Q₁ → SubmissionQueue.Error Q₂ → Prop}
    (errors : ∀ why, E (left.refused why) (right.refused why)) :
    QueueBisimulation Q₁ Q₂ (fun q₁ q₂ => ∃ f, left.Rep q₁ f ∧ right.Rep q₂ f) E where
  enqueue := by
    rintro q₁ q₂ submission ⟨f, rep₁, rep₂⟩
    obtain ⟨q₁', run₁, after₁⟩ := left.enqueue q₁ f rep₁ submission
    obtain ⟨q₂', run₂, after₂⟩ := right.enqueue q₂ f rep₂ submission
    rw [run₁, run₂]
    refine ⟨?_, _, after₁, after₂⟩
    cases (f.enqueue submission).1 with
    | ok a => exact .ok a
    | error why => exact .error (errors why)
  dequeue := by
    rintro q₁ q₂ ⟨f, rep₁, rep₂⟩
    obtain ⟨q₁', run₁, after₁⟩ := left.dequeue q₁ f rep₁
    obtain ⟨q₂', run₂, after₂⟩ := right.dequeue q₂ f rep₂
    rw [run₁, run₂]
    exact ⟨rfl, _, after₁, after₂⟩
  peek := by
    rintro q₁ q₂ ⟨f, rep₁, rep₂⟩
    rw [left.peek q₁ f rep₁, right.peek q₂ f rep₂]
    rfl
  len := by
    rintro q₁ q₂ ⟨f, rep₁, rep₂⟩
    rw [left.len q₁ f rep₁, right.len q₂ f rep₂]
    rfl
  isEmpty := by
    rintro q₁ q₂ ⟨f, rep₁, rep₂⟩
    rw [left.isEmpty q₁ f rep₁, right.isEmpty q₂ f rep₂]
    rfl
  isFull := by
    rintro q₁ q₂ ⟨f, rep₁, rep₂⟩
    rw [left.isFull q₁ f rep₁, right.isFull q₂ f rep₂]
    rfl

end FifoBackend

namespace CommandQueue

/-- The deque is the abstract queue, and the id set is the set of its keys. -/
structure Represents (queue : CommandQueue) (f : SubmissionFifo) : Prop where
  capacity : queue.capacity = f.capacity
  pending : queue.pending = f.items
  activeIds : ∀ id, id ∈ queue.activeIds ↔ id ∈ f.items.map ValidatedSubmission.commandId

def refused : Refusal CommandId → QueueError
  | .duplicate id => .duplicateCommandId id
  | .full capacity => .queueFull capacity

variable {queue : CommandQueue} {f : SubmissionFifo}

theorem new_represents {capacity : Nat} (positive : capacity ≠ 0) :
    ∃ queue, CommandQueue.new capacity = .ok queue ∧ Represents queue (.empty _ capacity) := by
  refine ⟨{ capacity, pending := [], activeIds := ∅ }, by simp [new, positive], rfl, rfl, ?_⟩
  intro id
  simp [KeyedFifo.empty]

theorem represents_of_new {capacity : Nat} (made : CommandQueue.new capacity = .ok queue) :
    Represents queue (.empty _ capacity) := by
  have positive : capacity ≠ 0 := by
    rintro rfl
    cases made
  obtain ⟨queue', made', rep⟩ := new_represents positive
  cases made.symm.trans made'
  exact rep

theorem Represents.contains (rep : Represents queue f) (id : CommandId) :
    queue.containsCommand id = true ↔ id ∈ f.items.map ValidatedSubmission.commandId := by
  rw [containsCommand, decide_eq_true_eq, rep.activeIds]

theorem Represents.isFull (rep : Represents queue f) : queue.isFull = true ↔ f.items.length = f.capacity := by
  rw [CommandQueue.isFull, beq_iff_eq, rep.pending, rep.capacity]

theorem Represents.enqueue (rep : Represents queue f) (submission : ValidatedSubmission) :
    (queue.enqueue submission).1 = (f.enqueue submission).1.mapError refused ∧
      Represents (queue.enqueue submission).2 (f.enqueue submission).2 := by
  have key : submission.commandId = submission.command.id := rfl
  by_cases taken : submission.commandId ∈ f.items.map ValidatedSubmission.commandId
  · have found : queue.containsCommand submission.command.id = true := (rep.contains _).mpr taken
    rw [KeyedFifo.enqueue_taken taken, CommandQueue.enqueue, if_pos found]
    exact ⟨rfl, rep⟩
  · have fresh : ¬ queue.containsCommand submission.command.id = true := fun found => taken ((rep.contains _).mp found)
    by_cases full : f.items.length = f.capacity
    · rw [KeyedFifo.enqueue_full taken full, CommandQueue.enqueue, if_neg fresh, if_pos (rep.isFull.mpr full),
        rep.capacity]
      exact ⟨rfl, rep⟩
    · have room : ¬ queue.isFull = true := fun isFull => full (rep.isFull.mp isFull)
      obtain ⟨accepted, capacity, items⟩ := KeyedFifo.enqueue_accepted taken full
      rw [accepted, CommandQueue.enqueue, if_neg fresh, if_neg room]
      refine ⟨rfl, by rw [capacity]; exact rep.capacity, by simp only [rep.pending, items], ?_⟩
      intro id
      simp only [Finset.mem_insert, rep.activeIds, items, List.map_append, List.map_singleton, List.mem_append,
        List.mem_singleton, key]
      tauto

theorem Represents.dequeue (rep : Represents queue f) :
    queue.dequeue.1 = f.dequeue.1 ∧ Represents queue.dequeue.2 f.dequeue.2 := by
  cases items : f.items with
  | nil =>
    rw [KeyedFifo.dequeue_nil items]
    have none_ : queue.pending = [] := by rw [rep.pending, items]
    have idle : queue.dequeue = (none, queue) := by simp only [CommandQueue.dequeue, none_]
    rw [idle]
    exact ⟨rfl, rep⟩
  | cons submission rest =>
    obtain ⟨taken, capacity, left⟩ := KeyedFifo.dequeue_cons items
    have some_ : queue.pending = submission :: rest := by rw [rep.pending, items]
    simp only [CommandQueue.dequeue, some_, taken]
    refine ⟨trivial, by rw [capacity]; exact rep.capacity, left.symm, ?_⟩
    intro id
    have distinct := f.distinct
    rw [items, List.map_cons, List.nodup_cons] at distinct
    simp only [Finset.mem_erase, rep.activeIds, items, left, List.map_cons, List.mem_cons]
    constructor
    · rintro ⟨other, same | member⟩
      · exact (other same).elim
      · exact member
    · intro member
      refine ⟨?_, Or.inr member⟩
      -- the id that left is no longer pending
      rintro rfl
      exact distinct.1 member

def backend : FifoBackend CommandQueue where
  Rep := Represents
  refused := refused
  enqueue queue f rep submission :=
    ⟨(queue.enqueue submission).2, congrArg Exec.ret (Prod.ext (rep.enqueue submission).1 rfl),
      (rep.enqueue submission).2⟩
  dequeue queue f rep :=
    ⟨queue.dequeue.2, congrArg Exec.ret (Prod.ext rep.dequeue.1 rfl), rep.dequeue.2⟩
  peek queue f rep := by rw [KeyedFifo.peek, ← rep.pending]; rfl
  len queue f rep := by rw [← rep.pending]; rfl
  isEmpty queue f rep := by rw [← rep.pending]; rfl
  isFull queue f rep := by rw [← rep.pending, ← rep.capacity]; rfl

end CommandQueue

namespace StaticCommandQueue

variable {n : Nat} {queue : StaticCommandQueue n} {f : SubmissionFifo}

/-- The ring of slots holds the abstract queue; a slot outside it is empty. -/
structure Represents (queue : StaticCommandQueue n) (f : SubmissionFifo) : Prop where
  capacity : f.capacity = n
  len : queue.len = f.items.length
  ring : Ring queue.slots.toList queue.head f.items

def refused : Refusal CommandId → StaticQueueError
  | .duplicate id => .duplicateCommandId id.get
  | .full capacity => .queueFull capacity

theorem new_represents (positive : n ≠ 0) :
    ∃ queue, StaticCommandQueue.new n = .ok queue ∧ Represents queue (.empty _ n) := by
  refine ⟨{ slots := Vector.replicate n none, head := 0, len := 0 }, by simp [new, positive], rfl, rfl, ?_⟩
  rw [Vector.toList_replicate]
  exact Ring.empty (Nat.pos_of_ne_zero positive)

theorem represents_of_new (made : StaticCommandQueue.new n = .ok queue) : Represents queue (.empty _ n) := by
  have positive : n ≠ 0 := by
    rintro rfl
    cases made
  obtain ⟨queue', made', rep⟩ := new_represents positive
  cases made.symm.trans made'
  exact rep

theorem setSlot_eq {i : Nat} (inside : i < n) (queue : StaticCommandQueue n) (value : Option ValidatedSubmission) :
    queue.setSlot i value = .ret { queue with slots := queue.slots.set i value } := dif_pos inside

namespace Represents

theorem head_lt (rep : Represents queue f) : queue.head < n := by
  have lt := rep.ring.head_lt
  rwa [Vector.length_toList] at lt

theorem fits (rep : Represents queue f) : f.items.length ≤ n := by
  have le := rep.ring.fits
  rwa [Vector.length_toList] at le

/-- The tail arithmetic stays in range and finds the place behind the last item. -/
theorem tailIndex (rep : Represents queue f) (word : n ≤ usizeMax) :
    queue.tailIndex = .ret ((queue.head + f.items.length) % n) := by
  have head := rep.head_lt
  have fits := rep.fits
  unfold StaticCommandQueue.tailIndex
  rw [Exec.bind_def, sub_eq (Nat.le_of_lt head), Exec.ret_bind, rep.len]
  by_cases wraps : f.items.length ≥ n - queue.head
  · rw [if_pos wraps, sub_eq wraps]
    have beyond : queue.head + f.items.length = (f.items.length - (n - queue.head)) + n := by omega
    rw [beyond, Nat.add_mod_right, Nat.mod_eq_of_lt (by omega)]
  · rw [if_neg wraps, add_eq (by omega), Nat.mod_eq_of_lt (by omega)]

/-- The scan over all slots finds exactly the pending ids. -/
theorem duplicate (rep : Represents queue f) (id : CommandId) :
    (queue.slots.toList.reduceOption.any fun queued => queued.command.id.get == id.get) = true ↔
      id ∈ f.items.map ValidatedSubmission.commandId := by
  simp only [List.any_eq_true, List.reduceOption_mem_iff, rep.ring.mem_iff, beq_iff_eq, CommandId.get_injective,
    List.mem_map, ValidatedSubmission.commandId]

/-- An accepted submission goes into the slot behind the last item. -/
theorem enqueue_accepted (rep : Represents queue f) (word : n ≤ usizeMax) {submission : ValidatedSubmission}
    (fresh : submission.commandId ∉ f.items.map ValidatedSubmission.commandId) (room : f.items.length < n) :
    queue.enqueue submission = .ret (.ok (),
      { queue with
        slots := queue.slots.set ((queue.head + f.items.length) % n) (some submission) (Nat.mod_lt _ (by omega))
        len := f.items.length + 1 }) := by
  have scan := rep.duplicate submission.command.id
  have notFull : ¬ queue.isFull = true := by
    rw [StaticCommandQueue.isFull, beq_iff_eq, rep.len]
    omega
  have inside : (queue.head + f.items.length) % n < n := Nat.mod_lt _ (by omega)
  unfold StaticCommandQueue.enqueue
  dsimp only
  rw [if_neg (fun found => fresh (scan.mp found)), if_neg notFull]
  simp only [Exec.bind_def, rep.tailIndex word, Exec.ret_bind, setSlot_eq inside, rep.len,
    add_eq (show f.items.length + 1 ≤ usizeMax by omega), Exec.pure_def]

theorem enqueue (rep : Represents queue f) (word : n ≤ usizeMax) (submission : ValidatedSubmission) :
    ∃ queue', queue.enqueue submission = .ret ((f.enqueue submission).1.mapError refused, queue') ∧
      Represents queue' (f.enqueue submission).2 := by
  have scan := rep.duplicate submission.command.id
  have fits := rep.fits
  by_cases taken : submission.commandId ∈ f.items.map ValidatedSubmission.commandId
  · unfold StaticCommandQueue.enqueue
    dsimp only
    rw [KeyedFifo.enqueue_taken taken, if_pos (scan.mpr taken)]
    exact ⟨queue, rfl, rep⟩
  · by_cases full : f.items.length = f.capacity
    · have isFull : queue.isFull = true := by simp [StaticCommandQueue.isFull, rep.len, full, rep.capacity]
      unfold StaticCommandQueue.enqueue
      dsimp only
      rw [KeyedFifo.enqueue_full taken full, if_neg (fun found => taken (scan.mp found)), if_pos isFull,
        rep.capacity]
      exact ⟨queue, rfl, rep⟩
    · have room : f.items.length < n := by
        have := rep.capacity
        omega
      obtain ⟨accepted, capacity, items⟩ := KeyedFifo.enqueue_accepted taken full
      rw [accepted, rep.enqueue_accepted word taken room]
      refine ⟨_, rfl, by rw [capacity]; exact rep.capacity, by simp [items], ?_⟩
      have pushed := rep.ring.push (by rw [Vector.length_toList]; exact room) submission
      rw [Vector.length_toList] at pushed
      rw [items, Vector.toList_set]
      exact pushed

/-- The first item is taken out of the slot at the head. -/
theorem dequeue_first (rep : Represents queue f) (word : n ≤ usizeMax) {submission : ValidatedSubmission}
    {rest : List ValidatedSubmission} (items : f.items = submission :: rest) :
    queue.dequeue = .ret (some submission,
      { slots := queue.slots.set queue.head none rep.head_lt
        head := (queue.head + 1) % n
        len := rest.length }) := by
  have notEmpty : ¬ queue.isEmpty = true := by simp [StaticCommandQueue.isEmpty, rep.len, items]
  have ring := rep.ring
  rw [items] at ring
  have head := rep.head_lt
  have at_head : queue.slots.toList[queue.head]? = some (some submission) := ring.first
  have len : queue.len = rest.length + 1 := by rw [rep.len, items, List.length_cons]
  unfold StaticCommandQueue.dequeue
  rw [if_neg notEmpty]
  simp only [Exec.bind_def, index_eq at_head, Exec.ret_bind, setSlot_eq head, Exec.pure_def,
    add_eq (show queue.head + 1 ≤ usizeMax by omega), rem_eq (show 0 < n by omega),
    len, sub_eq (show 1 ≤ rest.length + 1 by omega), Nat.add_sub_cancel]

theorem dequeue (rep : Represents queue f) (word : n ≤ usizeMax) :
    ∃ queue', queue.dequeue = .ret (f.dequeue.1, queue') ∧ Represents queue' f.dequeue.2 := by
  cases items : f.items with
  | nil =>
    have isEmpty : queue.isEmpty = true := by simp [StaticCommandQueue.isEmpty, rep.len, items]
    rw [KeyedFifo.dequeue_nil items, StaticCommandQueue.dequeue, if_pos isEmpty]
    exact ⟨queue, rfl, rep⟩
  | cons submission rest =>
    obtain ⟨taken, capacity, left⟩ := KeyedFifo.dequeue_cons items
    have popped := rep.ring
    rw [items] at popped
    replace popped := popped.pop
    rw [Vector.length_toList] at popped
    rw [taken, rep.dequeue_first word items]
    refine ⟨_, rfl, by rw [capacity]; exact rep.capacity, by rw [left], ?_⟩
    rw [left, Vector.toList_set]
    exact popped

theorem peek (rep : Represents queue f) : queue.peek = .ret f.peek := by
  unfold StaticCommandQueue.peek KeyedFifo.peek
  by_cases none_ : f.items = []
  · have isEmpty : queue.isEmpty = true := by simp [StaticCommandQueue.isEmpty, rep.len, none_]
    rw [if_pos isEmpty, none_]
    rfl
  · have notEmpty : ¬ queue.isEmpty = true := by simp [StaticCommandQueue.isEmpty, rep.len, none_]
    rw [if_neg notEmpty, index_eq rep.ring.first]

end Represents

/-- `n` is a `usize`: no index or length of the ring overflows. -/
def backend (word : n ≤ usizeMax) : FifoBackend (StaticCommandQueue n) where
  Rep := Represents
  refused := refused
  enqueue _ _ rep submission := rep.enqueue word submission
  dequeue _ _ rep := rep.dequeue word
  peek _ _ rep := rep.peek
  len queue f rep := by rw [← rep.len]; rfl
  isEmpty queue f rep := by
    show Exec.ret queue.isEmpty = _
    rw [StaticCommandQueue.isEmpty, rep.len]
    cases f.items <;> rfl
  isFull queue f rep := by
    show Exec.ret queue.isFull = _
    rw [StaticCommandQueue.isFull, rep.len, rep.capacity]

end StaticCommandQueue

/-- The errors of the two queues, one for one; the fixed queue reports the raw id. -/
inductive SameQueueError : StaticQueueError → QueueError → Prop where
  | zeroCapacity : SameQueueError .zeroCapacity .zeroCapacity
  | queueFull (capacity : Nat) : SameQueueError (.queueFull capacity) (.queueFull capacity)
  | duplicateCommandId (id : CommandId) :
      SameQueueError (.duplicateCommandId id.get) (.duplicateCommandId id)

/-- A ring and a deque that represent one abstract queue are bisimilar. -/
theorem ring_deque_bisimulation {n : Nat} (word : n ≤ usizeMax) :
    QueueBisimulation (StaticCommandQueue n) CommandQueue (fun ring deque => ∃ f, ring.Represents f ∧ deque.Represents f)
      SameQueueError := by
  apply (StaticCommandQueue.backend word).bisimulation CommandQueue.backend
  intro why
  cases why with
  | duplicate id => exact .duplicateCommandId id
  | full capacity => exact .queueFull capacity

/-- What the two constructors return for a capacity, and how the queues then behave. -/
structure QueuesAgree (n : Nat) : Prop where
  zero : n = 0 → StaticCommandQueue.new n = .error .zeroCapacity ∧ CommandQueue.new n = .error .zeroCapacity
  runs : n ≠ 0 → ∃ ring deque, StaticCommandQueue.new n = .ok ring ∧ CommandQueue.new n = .ok deque ∧
    ∀ ops, ∃ rs₁ ring' rs₂ deque',
      (queueMachine (StaticCommandQueue n)).run ring ops = .ret (rs₁, ring') ∧
      (queueMachine CommandQueue).run deque ops = .ret (rs₂, deque') ∧
      List.Forall₂ (SameQueueResult SameQueueError) rs₁ rs₂

/-- **The queue backends agree.** From empty queues of one capacity, every sequence of
calls returns, with the same result at every step. -/
theorem queue_backends_agree (n : Nat) (word : n ≤ usizeMax) : QueuesAgree n := by
  refine ⟨?_, ?_⟩
  · rintro rfl
    exact ⟨rfl, rfl⟩
  · intro positive
    obtain ⟨ring, newRing, ringRep⟩ := StaticCommandQueue.new_represents positive
    obtain ⟨deque, newDeque, dequeRep⟩ := CommandQueue.new_represents positive
    refine ⟨ring, deque, newRing, newDeque, ?_⟩
    intro ops
    obtain ⟨rs₁, ring', run₁, -⟩ := Machine.run_returns
      (fun _ op rep => (StaticCommandQueue.backend word).step_returns rep op) ⟨_, ringRep⟩ ops
    have alike := Machine.run_rel (ring_deque_bisimulation word).step ⟨_, ringRep, dequeRep⟩ ops
    rw [run₁] at alike
    obtain ⟨⟨rs₂, deque'⟩, run₂, same, -⟩ := alike.ret_left
    exact ⟨rs₁, ring', rs₂, deque', run₁, run₂, same⟩

theorem queue_backends_agree_three : 3 ≤ usizeMax ∧ QueuesAgree 3 :=
  ⟨by decide, queue_backends_agree 3 (by decide)⟩

end GpuDriverLab
