import GpuDriverLab.Atomicity
import GpuDriverLab.Machine.Unwinding
import GpuDriverLab.TypedRun

/-!
# The log of a component rebuilds it

The events of a history are a log: a call without one changed nothing, failed
calls and queries alike, and an event tells its call. Replaying the log from
the beginning leads to the same state, hidden parts included, so that the state
is a function of what succeeded. Of a queue that a client brings this holds if
its refusals, its empty dequeues and its queries leave it alone.
-/

namespace GpuDriverLab
set_option autoImplicit false
open Rust

/-- The call that an event tells of. -/
def DeviceEvent.call : DeviceEvent → DeviceOp
  | .allocated _ capacity => .allocateBuffer capacity
  | .wrote id data => .writeBuffer id data
  | .wroteAt id offset data => .writeBufferAt id offset data
  | .cleared id => .clearBuffer id
  | .released id => .releaseBuffer id

def DriverEvent.call : DriverEvent → DriverOp
  | .loaded image => .loadFirmware image
  | .started => .start
  | .allocated _ capacity => .allocateBuffer capacity
  | .wrote id data => .writeBuffer id data
  | .submitted request => .submit request.bufferId request.command
  | .returned _ => .nextSubmission

/-- A dequeue that returns nothing leaves the queue as it was. -/
def QuietDequeue (Q : Type) [SubmissionQueue Q] : Prop :=
  ∀ (queue : Q) queue', SubmissionQueue.dequeue queue = .ret (none, queue') → queue' = queue

theorem quietDequeue_command : QuietDequeue CommandQueue := by
  intro queue queue' run
  have same := Exec.ret.inj run
  unfold CommandQueue.dequeue at same
  split at same
  · cases same
    rfl
  · cases same

/-- Taking from an empty slot writes back what was there. -/
theorem quietDequeue_static (n : Nat) : QuietDequeue (StaticCommandQueue n) := by
  intro queue queue' run
  change queue.dequeue = _ at run
  unfold StaticCommandQueue.dequeue at run
  split at run
  · cases run
    rfl
  · obtain ⟨slot, found, run⟩ := Exec.bind_eq_ret.mp run
    obtain ⟨stored, store, run⟩ := Exec.bind_eq_ret.mp run
    cases slot with
    | some submission =>
      obtain ⟨next, -, run⟩ := Exec.bind_eq_ret.mp run
      obtain ⟨head, -, run⟩ := Exec.bind_eq_ret.mp run
      obtain ⟨len, -, run⟩ := Exec.bind_eq_ret.mp run
      cases run
    | none =>
      cases run
      unfold StaticCommandQueue.setSlot at store
      split at store
      · rename_i inside
        cases store
        have empty : queue.slots[queue.head] = none := by
          unfold index at found
          rw [List.getElem?_eq_getElem (by rw [Vector.length_toList]; exact inside)] at found
          simpa using found
        have same : queue.slots.set queue.head none = queue.slots := by
          rw [← empty]
          exact Vector.set_getElem_self inside
        rw [same]
      · cases store

/-- The calls that only ask a queue. -/
inductive QueueOp.IsQuery : QueueOp → Prop where
  | peek : IsQuery .peek
  | len : IsQuery .len
  | isEmpty : IsQuery .isEmpty
  | isFull : IsQuery .isFull

/-- A query leaves the queue as it was. -/
def QuietQueries (Q : Type) [SubmissionQueue Q] : Prop :=
  ∀ (queue : Q) op r queue', op.IsQuery → (queueMachine Q).step queue op = .ret (r, queue') → queue' = queue

/-- So it is for both queues, which answer from their fields, and for any other that
behind the trait returns an answer and no queue. -/
theorem quietQueries_of_borrow (Q : Type) [SubmissionQueue Q] : QuietQueries Q := by
  intro queue op r queue' query step
  cases query <;>
  · obtain ⟨_, -, back⟩ := Exec.bind_eq_ret.mp step
    cases back
    rfl

section Events

theorem event_call {op : DeviceOp} {r : DeviceResult} {e : DeviceEvent} (happened : event (op, r) = some e) :
    e.call = op := by
  unfold event at happened
  split at happened
  case h_6 => cases happened
  all_goals
    rename_i call
    cases happened
    cases call
    rfl

theorem driverEvent_call {E : Type} {op : DriverOp} {r : DriverResult E} {e : DriverEvent}
    (happened : driverEvent (op, r) = some e) : e.call = op := by
  unfold driverEvent at happened
  split at happened
  case h_7 => cases happened
  all_goals
    rename_i call
    cases happened
    cases call
    rfl

theorem genericEvent_call {E : Type} {op : GenericOp} {r : DriverResult E} {e : DriverEvent}
    (happened : genericEvent (op, r) = some e) : GenericOp.common e.call = op := by
  cases op with
  | common op => rw [driverEvent_call happened]
  | peekSubmission | isQueueEmpty => cases happened

end Events

/-- A result that is no error. -/
theorem DriverResult.done_of_quiet {E : Type} {op : DriverOp} {r : Except E Unit}
    (change : op ≠ .nextSubmission ∧ op ≠ .queuedLen ∧ op ≠ .isQueueFull ∧ op ≠ .state ∧ ∀ c, op ≠ .allocateBuffer c)
    (quiet : driverEvent (op, .done r) = none) : (DriverResult.done r).Failed := by
  cases r with
  | error e => exact .done e
  | ok u =>
    cases op with
    | nextSubmission | queuedLen | isQueueFull | state => simp at change
    | allocateBuffer c => exact (change.2.2.2.2 c rfl).elim
    | loadFirmware | start | writeBuffer | submit => cases quiet

theorem deviceLogs : Machine.Logs deviceMachine event DeviceEvent.call where
  quiet a op r b none_ step := by
    have effect := GpuDevice.step_effect step
    rw [none_] at effect
    cases effect
    rfl
  told _ _ _ happened := event_call happened

variable {Q : Type} [SubmissionQueue Q]

/-- What a driver's query asks its queue. -/
def GenericOp.query : GenericOp → Option QueueOp
  | .common .queuedLen => some .len
  | .common .isQueueFull => some .isFull
  | .peekSubmission => some .peek
  | .isQueueEmpty => some .isEmpty
  | _ => none

/-- A driver's query is one of its queue, and does nothing else. -/
theorem GenericGpuDriver.query_step {a b : GenericGpuDriver Q} {op : GenericOp} {ask : QueueOp}
    {r : DriverResult (Error Q)} (query : op.query = some ask) (step : (genericMachine Q).step a op = .ret (r, b)) :
    ask.IsQuery ∧ ∃ r' queue', (queueMachine Q).step a.queue ask = .ret (r', queue') ∧ b = { a with queue := queue' } := by
  have answered : ∀ {α : Type} {x : Exec α} {answer : α → DriverResult (Error Q)} {f : α → QueueResult (SubmissionQueue.Error Q)},
      (x.bind fun n => .ret (answer n, a)) = .ret (r, b) →
      ∃ r' queue', (x.bind fun n => .ret (f n, a.queue)) = .ret (r', queue') ∧ b = { a with queue := queue' } := by
    intro α x answer f step
    obtain ⟨n, run, back⟩ := Exec.bind_eq_ret.mp step
    cases back
    exact ⟨f n, a.queue, by rw [run]; rfl, rfl⟩
  cases op with
  | common op =>
    cases op with
    | queuedLen =>
      cases query
      exact ⟨.len, answered step⟩
    | isQueueFull =>
      cases query
      exact ⟨.isFull, answered step⟩
    | loadFirmware | start | allocateBuffer | writeBuffer | submit | nextSubmission | state => cases query
  | peekSubmission =>
    cases query
    exact ⟨.peek, answered step⟩
  | isQueueEmpty =>
    cases query
    exact ⟨.isEmpty, answered step⟩

/-- A driver call without an event changed nothing, if the queue's refusals and queries do not. -/
theorem genericLogs (atomic : AtomicEnqueue Q) (idle : QuietDequeue Q) (queries : QuietQueries Q) :
    Machine.Logs (genericMachine Q) genericEvent (fun e => .common e.call) where
  quiet a op r b none_ step := by
    have asked : ∀ {ask}, op.query = some ask → b = a := by
      intro ask query
      obtain ⟨only, _, _, answer, rfl⟩ := GenericGpuDriver.query_step query step
      rw [queries _ _ _ _ only answer]
    cases op with
    | common op =>
      cases op with
      | loadFirmware image | writeBuffer id data | submit bufferId command =>
        obtain ⟨⟨result, after⟩, run, back⟩ := Exec.bind_eq_ret.mp step
        cases back
        exact GenericGpuDriver.failed_atomic atomic step (DriverResult.done_of_quiet (by simp) none_)
      | start =>
        have failed : r.Failed := by
          cases step
          exact DriverResult.done_of_quiet (by simp) none_
        exact GenericGpuDriver.failed_atomic atomic step failed
      | allocateBuffer capacity =>
        have failed : r.Failed := by
          cases step
          cases result : (a.allocateBuffer capacity).1 with
          | error e => exact .allocated e
          | ok id =>
            rw [result] at none_
            cases none_
        exact GenericGpuDriver.failed_atomic atomic step failed
      | nextSubmission =>
        obtain ⟨⟨taken, after⟩, run, back⟩ := Exec.bind_eq_ret.mp step
        cases back
        cases taken with
        | some submission => cases none_
        | none =>
          obtain ⟨⟨taken, queue⟩, dequeue, back⟩ := Exec.bind_eq_ret.mp run
          cases back
          rw [idle _ _ dequeue]
      | queuedLen | isQueueFull => exact asked rfl
      | state =>
        cases step
        rfl
    | peekSubmission | isQueueEmpty => exact asked rfl
  told _ _ _ happened := genericEvent_call happened

/-- The event of a call on the simulated driver is that of the generic call it stands for. -/
theorem simulatedLogs : Machine.Logs simulatedMachine driverEvent DriverEvent.call where
  quiet a op r b none_ step := by
    have alike := a.step_generic op
    rw [step] at alike
    obtain ⟨⟨r', after⟩, step', result, same⟩ := alike.ret_left
    rw [result.event op] at none_
    have logs := genericLogs atomicEnqueue_command quietDequeue_command (quietQueries_of_borrow CommandQueue)
    exact SimulatedGpuDriver.generic_injective (same.trans (logs.quiet _ (.common op) r' after none_ step'))
  told _ _ _ happened := driverEvent_call happened

/-- Replaying the log of a component on what it started as. -/
structure LogsReplay : Prop where
  device : ∀ t device, GpuDevice.History t device → ∃ rs,
    deviceMachine.run .default ((events t).map DeviceEvent.call) = .ret (rs, device) ∧
      events (((events t).map DeviceEvent.call).zip rs) = events t
  /-- Over any queue whose refusals, empty dequeues and queries leave it alone. -/
  generic : ∀ (Q : Type) [SubmissionQueue Q], AtomicEnqueue Q → QuietDequeue Q → QuietQueries Q → ∀ driver t driver',
    (genericMachine Q).Trace driver t driver' → ∃ rs,
      (genericMachine Q).run driver ((genericEvents t).map fun e => .common e.call) = .ret (rs, driver') ∧
        genericEvents (((genericEvents t).map fun e => GenericOp.common e.call).zip rs) = genericEvents t
  commandQueue : AtomicEnqueue CommandQueue ∧ QuietDequeue CommandQueue ∧ QuietQueries CommandQueue
  staticQueue : ∀ n, AtomicEnqueue (StaticCommandQueue n) ∧ QuietDequeue (StaticCommandQueue n) ∧
    QuietQueries (StaticCommandQueue n)
  /-- A log does not tell whether a call went through the typed driver or a session of it. -/
  typedGeneric : ∀ (Q : Type) [SubmissionQueue Q], AtomicEnqueue Q → QuietDequeue Q → QuietQueries Q → ∀ h₀ t h,
    @TypedGenericTrace Q _ h₀ t h → ∃ rs,
      (genericMachine Q).run h₀.inner ((genericEvents t).map fun e => .common e.call) = .ret (rs, h.inner)
  simulated : ∀ driver t driver', simulatedMachine.Trace driver t driver' → ∃ rs,
    simulatedMachine.run driver ((driverEvents t).map DriverEvent.call) = .ret (rs, driver') ∧
      driverEvents (((driverEvents t).map DriverEvent.call).zip rs) = driverEvents t
  typed : ∀ h₀ t h, TypedTrace h₀ t h → ∃ rs,
    simulatedMachine.run h₀.inner ((driverEvents t).map DriverEvent.call) = .ret (rs, h.inner)

/-- **The log of what succeeded rebuilds the state, at every layer.** -/
theorem logs_replay : LogsReplay where
  device _ _ history := deviceLogs.replay history
  generic _ _ atomic idle queries _ _ _ trace := (genericLogs atomic idle queries).replay trace
  commandQueue := ⟨atomicEnqueue_command, quietDequeue_command, quietQueries_of_borrow _⟩
  staticQueue n := ⟨atomicEnqueue_static n, quietDequeue_static n, quietQueries_of_borrow _⟩
  typedGeneric _ _ atomic idle queries _ _ _ trace := by
    obtain ⟨rs, run, -⟩ := (genericLogs atomic idle queries).replay trace.inner
    exact ⟨rs, run⟩
  simulated _ _ _ trace := simulatedLogs.replay trace
  typed _ _ _ trace := by
    obtain ⟨rs, run, -⟩ := simulatedLogs.replay trace.inner
    exact ⟨rs, run⟩

end GpuDriverLab
