import GpuDriverLab.Provenance

/-!
# Refusals and what clears them

A queue that refuses says what to wait for: one submission to leave when it is
full, the submission with the same id when the id is taken. `Backlog` describes
a driver by the submissions that wait in it: how they drain, and after how many
calls a refused request is accepted. A submission handed out can be handed in
again as the raw request it was made from, so that a backlog can be rotated.
-/

namespace GpuDriverLab
set_option autoImplicit false
open Rust

/-- `k` calls of `next_submission`. -/
def drain (k : Nat) : List GenericOp := List.replicate k (.common .nextSubmission)

/-- The request that a submission was made from, as a call. -/
def resubmit (submission : ValidatedSubmission) : GenericOp :=
  .common (.submit submission.bufferId submission.command.toRaw)

/-- A new driver over a queue that holds `f`. -/
def DriverView.over (f : SubmissionFifo) : DriverView := { controller := .default, device := .default, work := f }

namespace GenericGpuDriver

variable {Q : Type} [SubmissionQueue Q] {backend : FifoBackend Q} {driver : GenericGpuDriver Q} {v : DriverView}

theorem new_shows {queue : Q} {f : SubmissionFifo} (rep : backend.Rep queue f) : Shows backend (.new queue) (.over f) :=
  ⟨rfl, rfl, rep⟩

namespace Shows

/-- The oldest submission leaves, and nothing else changes. -/
theorem next (shows_ : Shows backend driver v) : ∃ after work,
    (genericMachine Q).step driver (.common .nextSubmission) = .ret (.submission v.work.items.head?, after) ∧
      Shows backend after { v with work } ∧ work.capacity = v.work.capacity ∧ work.items = v.work.items.tail ∧
      after.controller = driver.controller ∧ after.device = driver.device := by
  obtain ⟨queue, run, rep⟩ := backend.dequeue driver.queue v.work shows_.queue
  obtain ⟨first, capacity, rest⟩ := v.work.dequeue_items
  refine ⟨{ driver with queue }, v.work.dequeue.2, ?_, ⟨shows_.controller, shows_.device, rep⟩, capacity, rest, rfl, rfl⟩
  rw [← first]
  simp only [genericMachine, GenericGpuDriver.nextSubmission, run, Exec.bind_def, Exec.ret_bind]
  rfl

/-- **Draining.** The first `k` submissions that wait, in order, then nothing. -/
theorem drain (shows_ : Shows backend driver v) (k : Nat) : ∃ after work,
    (genericMachine Q).run driver (drain k) =
        .ret ((List.range k).map fun i => .submission v.work.items[i]?, after) ∧
      Shows backend after { v with work } ∧ work.capacity = v.work.capacity ∧ work.items = v.work.items.drop k ∧
      after.controller = driver.controller ∧ after.device = driver.device := by
  induction k with
  | zero => exact ⟨driver, v.work, rfl, shows_, rfl, rfl, rfl, rfl⟩
  | succ k ih =>
    obtain ⟨middle, work, run, shown, capacity, items, controller, device⟩ := ih
    obtain ⟨after, work', step, shown', capacity', items', controller', device'⟩ := shown.next
    have more : GpuDriverLab.drain (k + 1) = GpuDriverLab.drain k ++ [.common .nextSubmission] := List.replicate_succ'
    refine ⟨after, work', ?_, shown', capacity'.trans capacity, ?_, controller'.trans controller, device'.trans device⟩
    · rw [more, List.range_succ, List.map_append, List.map_singleton]
      refine Machine.run_snoc.mpr ⟨middle, run, ?_⟩
      rw [step]
      simp only [items, List.head?_drop]
    · rw [items', items, List.tail_drop]

/-- What a checked submission meets with at the queue. -/
theorem enqueues (shows_ : Shows backend driver v) (ready : driver.controller.IsReady) {bufferId : BufferId}
    {command : RawCommand} {submission : ValidatedSubmission}
    (valid : validateSubmission driver.device { bufferId, command } = .ret (.ok submission)) : ∃ after,
    (genericMachine Q).step driver (.common (.submit bufferId command)) =
        .ret (.done ((v.work.enqueue submission).1.mapError fun why => .queue (backend.refused why)), after) ∧
      Shows backend after { v with work := (v.work.enqueue submission).2 } ∧
      after.controller = driver.controller ∧ after.device = driver.device := by
  obtain ⟨info, ensured⟩ := DeviceController.isReady_iff.mp ready
  obtain ⟨queue, run, rep⟩ := backend.enqueue driver.queue v.work shows_.queue submission
  refine ⟨{ driver with queue }, ?_, ⟨shows_.controller, shows_.device, rep⟩, rfl, rfl⟩
  simp only [genericMachine, GenericGpuDriver.submit, ensured, valid, run, Exec.bind_def, Exec.ret_bind, Exec.pure_def]
  cases (v.work.enqueue submission).1 <;> rfl

end Shows

/-- What a queue with `pending` in it says to a new submission. -/
def verdict (backend : FifoBackend Q) (capacity : Nat) (pending : List ValidatedSubmission)
    (submission : ValidatedSubmission) : Except (Error Q) Unit :=
  if submission.commandId ∈ pending.map ValidatedSubmission.commandId then
    .error (.queue (backend.refused (.duplicate submission.commandId)))
  else if pending.length = capacity then .error (.queue (backend.refused (.full capacity)))
  else .ok ()

theorem verdict_eq (f : SubmissionFifo) (submission : ValidatedSubmission) :
    (f.enqueue submission).1.mapError (fun why => GenericDriverError.queue (backend.refused why)) =
      verdict backend f.capacity f.items submission := by
  unfold verdict
  by_cases taken : submission.commandId ∈ f.items.map ValidatedSubmission.commandId
  · rw [KeyedFifo.enqueue_taken taken, if_pos taken]
    rfl
  · rw [if_neg taken]
    by_cases full : f.items.length = f.capacity
    · rw [KeyedFifo.enqueue_full taken full, if_pos full]
      rfl
    · rw [(KeyedFifo.enqueue_accepted taken full).1, if_neg full]
      rfl

/-- When the queue takes it: once the submission with its id and one more than fits are gone. -/
theorem verdict_drop_eq_ok {capacity : Nat} {pending : List ValidatedSubmission} {submission : ValidatedSubmission}
    (bounded : pending.length ≤ capacity) (k : Nat) :
    verdict backend capacity (pending.drop k) submission = .ok () ↔
      (∀ (i : Nat) queued, pending[i]? = some queued → queued.commandId = submission.commandId → i < k) ∧
        pending.length - k < capacity := by
  have taken : submission.commandId ∈ (pending.drop k).map ValidatedSubmission.commandId ↔
      ¬ ∀ (i : Nat) queued, pending[i]? = some queued → queued.commandId = submission.commandId → i < k := by
    constructor
    · intro member gone
      obtain ⟨queued, member, same⟩ := List.mem_map.mp member
      obtain ⟨i, found⟩ := List.mem_iff_getElem?.mp member
      rw [List.getElem?_drop] at found
      have before := gone (k + i) queued found same
      omega
    · intro waits
      simp only [not_forall, Nat.not_lt] at waits
      obtain ⟨i, queued, found, same, later⟩ := waits
      refine List.mem_map.mpr ⟨queued, List.mem_iff_getElem?.mpr ⟨i - k, ?_⟩, same⟩
      rw [List.getElem?_drop, show k + (i - k) = i by omega]
      exact found
  unfold verdict
  rw [List.length_drop]
  by_cases dup : submission.commandId ∈ (pending.drop k).map ValidatedSubmission.commandId
  · rw [if_pos dup]
    exact iff_of_false nofun fun clear => taken.mp dup clear.1
  · rw [if_neg dup]
    have gone := not_not.mp (taken.not.mp dup)
    by_cases full : pending.length - k = capacity
    · rw [if_pos full]
      exact iff_of_false nofun fun clear => by omega
    · rw [if_neg full]
      exact iff_of_true rfl ⟨gone, by omega⟩

/-- The submissions that wait in a driver, as its client meets with them. -/
structure Backlog (backend : FifoBackend Q) (driver : GenericGpuDriver Q) (capacity : Nat)
    (pending : List ValidatedSubmission) : Prop where
  bounded : pending.length ≤ capacity
  distinct : (pending.map ValidatedSubmission.commandId).Nodup
  /-- They leave in order; lifecycle and buffers do not notice. -/
  drains : ∀ k, ∃ after, (genericMachine Q).run driver (GpuDriverLab.drain k) =
      .ret ((List.range k).map fun i => .submission pending[i]?, after) ∧
    after.controller = driver.controller ∧ after.device = driver.device
  /-- What a request that passes validation is told after `k` of them have left. -/
  retried : ∀ k bufferId command submission, driver.controller.IsReady →
    validateSubmission driver.device { bufferId, command } = .ret (.ok submission) →
    ∃ r after, (genericMachine Q).run driver (GpuDriverLab.drain k ++ [.common (.submit bufferId command)]) =
        .ret (((List.range k).map fun i => .submission pending[i]?) ++ [.done r], after) ∧
      r = verdict backend capacity (pending.drop k) submission ∧
      (r = .ok () ↔
        (∀ (i : Nat) queued, pending[i]? = some queued → queued.commandId = submission.commandId → i < k) ∧
          pending.length - k < capacity)

theorem Shows.backlog (shows_ : Shows backend driver v) : Backlog backend driver v.work.capacity v.work.items where
  bounded := v.work.bounded
  distinct := v.work.distinct
  drains := by
    intro k
    obtain ⟨after, work, run, -, -, -, controller, device⟩ := shows_.drain k
    exact ⟨after, run, controller, device⟩
  retried := by
    intro k bufferId command submission ready valid
    obtain ⟨middle, work, run, shown, capacity, items, controller, device⟩ := shows_.drain k
    obtain ⟨after, step, -, -, -⟩ := shown.enqueues (by rw [controller]; exact ready) (by rw [device]; exact valid)
    rw [verdict_eq] at step
    dsimp only at step
    rw [capacity, items] at step
    exact ⟨_, after, Machine.run_snoc.mpr ⟨middle, run, step⟩, rfl, verdict_drop_eq_ok v.work.bounded k⟩

/-- **Backpressure.** In every state of a driver over any backend, whatever its queue held at
first, what waits is that and the accepted work, in order, less what has left; and the
refusals clear as it drains: a taken id with its own submission, a full queue with any one. -/
theorem backlog_clears (backend : FifoBackend Q) {queue : Q} {f : SubmissionFifo} (rep : backend.Rep queue f)
    (ops : List GenericOp) : ∃ rs driver pending, (genericMachine Q).run (.new queue) ops = .ret (rs, driver) ∧
      WaitsAfter f.items (genericEvents (ops.zip rs)) pending ∧ Backlog backend driver f.capacity pending := by
  obtain ⟨rs, driver, v, run, shown, history⟩ := (new_shows rep).run ops
  have capacity : v.work.capacity = f.capacity := history.capacity
  refine ⟨rs, driver, v.work.items, run, history.accounts, ?_⟩
  rw [← capacity]
  exact shown.backlog

/-- Two requests on one buffer of eight bytes. -/
def firstHalf : SubmissionRequest := { bufferId := ⟨0⟩, command := { id := 1, offset := 0, length := 4, priority := 0 } }

def secondHalf : SubmissionRequest := { bufferId := ⟨0⟩, command := { id := 2, offset := 4, length := 4, priority := 3 } }

/-- A device brought up with any image of version 1.0, and a buffer written. -/
def oneWritten (data : List UInt8) : List GenericOp :=
  [.common (.loadFirmware (DeviceController.magic ++ [1, 0])), .common .start, .common (.allocateBuffer 8),
    .common (.writeBuffer ⟨0⟩ data)]

def twoSubmitted : List GenericOp :=
  oneWritten [1, 2, 3, 4, 5, 6, 7, 8] ++ [.common (.submit firstHalf.bufferId firstHalf.command),
    .common (.submit secondHalf.bufferId secondHalf.command)]

/-- Both wait, in the order in which they were submitted, and nothing has left. -/
theorem twoSubmitted_wait {queue : CommandQueue} (new : CommandQueue.new 2 = .ok queue)
    {rs : List (DriverResult (Error CommandQueue))} {driver : GenericGpuDriver CommandQueue}
    {pending : List ValidatedSubmission}
    (run : (genericMachine CommandQueue).run (.new queue) twoSubmitted = .ret (rs, driver))
    (waits : WaitsAfter [] (genericEvents (twoSubmitted.zip rs)) pending) :
    pending.map ValidatedSubmission.request = [firstHalf, secondHalf] ∧ driver.controller.IsReady := by
  cases new
  cases run
  exact ⟨waits.all rfl, rfl⟩

theorem backlog_clears_two : ∃ queue, CommandQueue.new 2 = .ok queue ∧
    ∃ rs driver pending, (genericMachine CommandQueue).run (.new queue) twoSubmitted = .ret (rs, driver) ∧
      Backlog CommandQueue.backend driver 2 pending ∧ driver.controller.IsReady ∧
      pending.map ValidatedSubmission.request = [firstHalf, secondHalf] := by
  obtain ⟨queue, new, rep⟩ := CommandQueue.new_represents (show 2 ≠ 0 by decide)
  obtain ⟨rs, driver, pending, run, waits, backlog⟩ := backlog_clears CommandQueue.backend rep twoSubmitted
  obtain ⟨waiting, ready⟩ := twoSubmitted_wait new run waits
  exact ⟨queue, new, rs, driver, pending, run, backlog, ready, waiting⟩

/-- What a validated submission fails with now, if anything. -/
def stillValid (device : GpuDevice) (submission : ValidatedSubmission) : Except SubmissionError Unit :=
  match device.initializedLen submission.bufferId with
  | .error e => .error (.buffer e)
  | .ok n => if n < submission.rangeEnd then .error (.rangeExceedsInitialized submission.rangeEnd n) else .ok ()

/-- A submission validates as the raw request it was made from while its bytes are initialized. -/
theorem revalidate (device : GpuDevice) (submission : ValidatedSubmission) :
    validateSubmission device { bufferId := submission.bufferId, command := submission.command.toRaw } =
      .ret ((stillValid device submission).map fun _ => submission) := by
  have parsed : ValidatedCommand.tryFrom submission.command.toRaw = .ok submission.command :=
    ValidatedCommand.tryFrom_eq_ok.mpr rfl
  have known : BufferInfo.initializedLen device submission.bufferId = device.initializedLen submission.bufferId := rfl
  unfold validateSubmission stillValid
  simp only [parsed, known]
  cases device.initializedLen submission.bufferId with
  | error e => rfl
  | ok n =>
    simp only [CommandRange.end_eq, Exec.bind_def, Exec.ret_bind, Exec.pure_def]
    by_cases beyond : n < submission.rangeEnd
    · rw [if_pos beyond]
      exact if_pos beyond
    · rw [if_neg beyond]
      exact if_neg beyond

/-- The backlog after its first submission left and came back. -/
def requeued (device : GpuDevice) (submission : ValidatedSubmission) (rest : List ValidatedSubmission) :
    List ValidatedSubmission :=
  match stillValid device submission with
  | .ok _ => rest ++ [submission]
  | .error _ => rest

/-- A submission that leaves and comes back as its raw request goes to the end of the queue,
unless its bytes are no longer initialized. -/
theorem Shows.requeue (shows_ : Shows backend driver v) (ready : driver.controller.IsReady)
    {submission : ValidatedSubmission} {rest : List ValidatedSubmission} (items : v.work.items = submission :: rest) :
    ∃ after work, (genericMachine Q).run driver [.common .nextSubmission, resubmit submission] =
        .ret ([.submission (some submission), .done ((stillValid driver.device submission).mapError .submission)], after) ∧
      Shows backend after { v with work } ∧ work.capacity = v.work.capacity ∧
      work.items = requeued driver.device submission rest ∧
      after.controller = driver.controller ∧ after.device = driver.device := by
  obtain ⟨middle, work, step, shown, capacity, left, controller, device⟩ := shows_.next
  rw [items] at step left
  have valid := revalidate driver.device submission
  obtain ⟨info, ensured⟩ := DeviceController.isReady_iff.mp ready
  unfold requeued
  cases still : stillValid driver.device submission with
  | error e =>
    rw [still] at valid
    have refused : (genericMachine Q).step middle (resubmit submission) =
        .ret (.done (.error (.submission e)), middle) := by
      simp only [resubmit, genericMachine, GenericGpuDriver.submit, controller, device, ensured, valid, Except.map,
        Exec.bind_def, Exec.ret_bind, Exec.pure_def]
    exact ⟨middle, work, by simp only [Machine.run, step, refused, Exec.ret_bind]; rfl, shown, capacity, left,
      controller, device⟩
  | ok =>
    rw [still] at valid
    obtain ⟨after, back, shown', controller', device'⟩ :=
      shown.enqueues (by rw [controller]; exact ready) (by rw [device]; exact valid)
    -- its id and its place are free
    have bounded := v.work.bounded
    have distinct := v.work.distinct
    rw [items, List.map_cons, List.nodup_cons] at distinct
    rw [items, List.length_cons] at bounded
    have fresh : submission.commandId ∉ work.items.map ValidatedSubmission.commandId := by
      rw [left]
      exact distinct.1
    have room : work.items.length ≠ work.capacity := by
      rw [left, capacity, List.tail_cons]
      omega
    obtain ⟨accepted, capacity', items'⟩ := KeyedFifo.enqueue_accepted fresh room
    rw [accepted] at back
    exact ⟨after, (work.enqueue submission).2, by simp only [Machine.run, step, resubmit, back, Exec.ret_bind]; rfl,
      shown', capacity'.trans capacity, by rw [items', left, List.tail_cons], controller'.trans controller,
      device'.trans device⟩

/-- The calls that take some submissions out and hand each in again. -/
def rotation (turn : List ValidatedSubmission) : List GenericOp :=
  turn.flatMap fun submission => [.common .nextSubmission, resubmit submission]

/-- Their results when all of them come back. -/
def rotated (turn : List ValidatedSubmission) : List (DriverResult (Error Q)) :=
  turn.flatMap fun submission => [.submission (some submission), .done (.ok ())]

/-- **Rotation.** Submissions that are still valid go round, in order. -/
theorem Shows.rotate (shows_ : Shows backend driver v) (ready : driver.controller.IsReady)
    {turn rest : List ValidatedSubmission} (items : v.work.items = turn ++ rest)
    (valid : ∀ submission ∈ turn, stillValid driver.device submission = .ok ()) :
    ∃ after work, (genericMachine Q).run driver (rotation turn) = .ret (rotated turn, after) ∧
      Shows backend after { v with work } ∧ work.capacity = v.work.capacity ∧ work.items = rest ++ turn ∧
      after.controller = driver.controller ∧ after.device = driver.device := by
  induction turn generalizing driver v rest with
  | nil => exact ⟨driver, v.work, rfl, shows_, rfl, by rw [items, List.append_nil]; rfl, rfl, rfl⟩
  | cons submission turn ih =>
    have still := valid submission List.mem_cons_self
    obtain ⟨middle, work, first, shown, capacity, left, controller, device⟩ := shows_.requeue ready items
    have queued : work.items = turn ++ (rest ++ [submission]) := by
      rw [left, requeued, still]
      exact List.append_assoc turn rest [submission]
    rw [still] at first
    obtain ⟨after, work', others, shown', capacity', items', controller', device'⟩ :=
      ih shown (by rw [controller]; exact ready) queued
        (by rw [device]; exact fun later member => valid later (List.mem_cons_of_mem _ member))
    refine ⟨after, work', ?_, shown', capacity'.trans capacity, by rw [items', List.append_assoc]; rfl,
      controller'.trans controller, device'.trans device⟩
    show (genericMachine Q).run driver ([.common .nextSubmission, resubmit submission] ++ rotation turn) = _
    rw [Machine.run_append, first, Exec.ret_bind, others, Exec.ret_bind]
    rfl

/-- What becomes of a backlog whose submissions are handed out and handed in again. -/
structure Rotates (backend : FifoBackend Q) (driver : GenericGpuDriver Q) (capacity : Nat)
    (pending : List ValidatedSubmission) : Prop where
  /-- The first one: accepted exactly if its bytes are still initialized. -/
  once : ∀ submission rest, pending = submission :: rest → ∃ after,
    (genericMachine Q).run driver [.common .nextSubmission, resubmit submission] =
        .ret ([.submission (some submission), .done ((stillValid driver.device submission).mapError .submission)], after) ∧
      Backlog backend after capacity (requeued driver.device submission rest)
  /-- Any number of them, all of it included: the backlog rotates. -/
  many : ∀ k, (∀ submission ∈ pending.take k, stillValid driver.device submission = .ok ()) → ∃ after,
    (genericMachine Q).run driver (rotation (pending.take k)) = .ret (rotated (pending.take k), after) ∧
      Backlog backend after capacity (pending.drop k ++ pending.take k) ∧
      after.controller = driver.controller ∧ after.device = driver.device

/-- **Handed-out work can be handed in again.** In every ready state of a driver over any
backend, whatever its queue held at first. -/
theorem backlog_rotates (backend : FifoBackend Q) {queue : Q} {f : SubmissionFifo} (rep : backend.Rep queue f)
    (ops : List GenericOp) : ∃ rs driver pending, (genericMachine Q).run (.new queue) ops = .ret (rs, driver) ∧
      WaitsAfter f.items (genericEvents (ops.zip rs)) pending ∧ Backlog backend driver f.capacity pending ∧
      (driver.controller.IsReady → Rotates backend driver f.capacity pending) := by
  obtain ⟨rs, driver, v, run, shown, history⟩ := (new_shows rep).run ops
  have bound : v.work.capacity = f.capacity := history.capacity
  refine ⟨rs, driver, v.work.items, run, history.accounts, by rw [← bound]; exact shown.backlog, ?_⟩
  intro ready
  refine ⟨?_, ?_⟩
  · intro submission rest items
    obtain ⟨after, work, once, shown', capacity, left, -, -⟩ := shown.requeue ready items
    have backlog := shown'.backlog
    dsimp only at backlog
    rw [capacity, bound, left] at backlog
    exact ⟨after, once, backlog⟩
  · intro k valid
    obtain ⟨after, work, many, shown', capacity, items, controller, device⟩ :=
      shown.rotate ready (List.take_append_drop k v.work.items).symm valid
    have backlog := shown'.backlog
    dsimp only at backlog
    rw [capacity, bound, items] at backlog
    exact ⟨after, many, backlog, controller, device⟩

theorem backlog_rotates_two : ∃ queue, CommandQueue.new 2 = .ok queue ∧
    ∃ rs driver pending, (genericMachine CommandQueue).run (.new queue) twoSubmitted = .ret (rs, driver) ∧
      pending.map ValidatedSubmission.request = [firstHalf, secondHalf] ∧
      (∀ submission ∈ pending, stillValid driver.device submission = .ok ()) ∧
      Rotates CommandQueue.backend driver 2 pending := by
  obtain ⟨queue, new, rep⟩ := CommandQueue.new_represents (show 2 ≠ 0 by decide)
  obtain ⟨rs, driver, pending, run, waits, -, rotates⟩ := backlog_rotates CommandQueue.backend rep twoSubmitted
  obtain ⟨waiting, ready⟩ := twoSubmitted_wait new run waits
  refine ⟨queue, new, rs, driver, pending, run, waiting, ?_, rotates ready⟩
  intro submission member
  -- the buffer holds eight initialized bytes, and both requests end within them
  have known : driver.device.initializedLen ⟨0⟩ = .ok 8 := by
    cases new
    cases run
    rfl
  have request := List.mem_map_of_mem (f := ValidatedSubmission.request) member
  rw [waiting] at request
  have inside : submission.bufferId = ⟨0⟩ ∧ submission.rangeEnd ≤ 8 := by
    obtain first | second := List.mem_pair.mp request
    · have ends : submission.rangeEnd = 4 := congrArg (fun r => r.command.offset + r.command.length) first
      exact ⟨congrArg SubmissionRequest.bufferId first, by omega⟩
    · have ends : submission.rangeEnd = 8 := congrArg (fun r => r.command.offset + r.command.length) second
      exact ⟨congrArg SubmissionRequest.bufferId second, ends.le⟩
  rw [stillValid, inside.1, known]
  exact if_neg (Nat.not_lt.mpr inside.2)

end GenericGpuDriver

end GpuDriverLab
