import GpuDriverLab.QueuedWork
import GpuDriverLab.TypedRun

/-!
# Whose work a generic driver hands out

The constructor takes any queue that the client built, and handing out work
checks nothing. A driver hands out only work that it accepted itself exactly
when the queue it was given is empty.
-/

namespace GpuDriverLab
set_option autoImplicit false
open Rust

/-- The queues that a client can build from `new` before it gives one to a driver.
A submission for it comes from validation over any buffer provider. -/
inductive ClientBuilt {Q : Type} [SubmissionQueue Q] (new : Q) : Q → Prop where
  | new : ClientBuilt new new
  | enqueue {queue queue' : Q} {B : Type} [BufferInfo B] {buffers : B} {request : SubmissionRequest}
      {submission : ValidatedSubmission} {result : Except (SubmissionQueue.Error Q) Unit} :
      ClientBuilt new queue → validateSubmission buffers request = .ret (.ok submission) →
      SubmissionQueue.enqueue queue submission = .ret (result, queue') → ClientBuilt new queue'
  | dequeue {queue queue' : Q} {result : Option ValidatedSubmission} :
      ClientBuilt new queue → SubmissionQueue.dequeue queue = .ret (result, queue') → ClientBuilt new queue'

theorem ClientBuilt.represented {Q : Type} [SubmissionQueue Q] (backend : FifoBackend Q) {new queue : Q}
    (built : ClientBuilt new queue) (rep : ∃ f, backend.Rep new f) : ∃ f, backend.Rep queue f := by
  induction built with
  | new => exact rep
  | @enqueue queue queue' B _ buffers request submission result _ _ run ih =>
    obtain ⟨f, before⟩ := ih
    obtain ⟨queue'', run', after⟩ := backend.enqueue queue f before submission
    rw [run] at run'
    cases run'
    exact ⟨_, after⟩
  | @dequeue queue queue' result _ run ih =>
    obtain ⟨f, before⟩ := ih
    obtain ⟨queue'', run', after⟩ := backend.dequeue queue f before
    rw [run] at run'
    cases run'
    exact ⟨_, after⟩

section Provenance

variable {Q : Type} [SubmissionQueue Q]

/-- The driver started from `queue` accepted `submission` itself, ready, earlier in
`t`, and the buffer it names is live in the driver's own device. -/
structure OwnWork (queue : Q) (t : List (GenericOp × DriverResult (GenericGpuDriver.Error Q)))
    (driver : GenericGpuDriver Q) (submission : ValidatedSubmission) : Prop where
  accepted : ∃ earlier later at_,
    t = earlier ++ (.common (.submit submission.bufferId submission.command.toRaw), .done (.ok ())) :: later ∧
    (genericMachine Q).Trace (.new queue) earlier at_ ∧ at_.controller.IsReady
  live : driver.device.Live submission.bufferId

/-- What `next_submission` and `peek_submission` return in the state that `t` leads to. -/
structure HandsOut (queue : Q) (t : List (GenericOp × DriverResult (GenericGpuDriver.Error Q)))
    (driver : GenericGpuDriver Q) : Prop where
  next : ∀ submission after, driver.nextSubmission = .ret (some submission, after) →
    OwnWork queue t driver submission
  peek : ∀ submission, driver.peekSubmission = .ret (some submission) → OwnWork queue t driver submission
  idle : ¬ driver.controller.IsReady →
    (∃ after, driver.nextSubmission = .ret (none, after)) ∧ driver.peekSubmission = .ret none

/-- Every run of the generic driver over `queue` hands out its own work only. -/
def HandsOutOwnWork (queue : Q) : Prop :=
  ∀ ops, ∃ rs driver, (genericMachine Q).run (.new queue) ops = .ret (rs, driver) ∧
    HandsOut queue (ops.zip rs) driver

/-- The same for the typed driver, whose methods exist in operational states only. -/
def TypedHandsOutOwnWork (queue : Q) : Prop :=
  ∀ t S (operational : Operational S) (typed : TypedGenericGpuDriver S Q),
    TypedGenericTrace (.driver .offline (.new queue)) t (.driver S typed) →
    (∀ submission after, typed.nextSubmission operational = .ret (some submission, after) →
      OwnWork queue t typed.inner submission) ∧
    (∀ submission, typed.peekSubmission operational = .ret (some submission) →
      OwnWork queue t typed.inner submission)

/-- A submission is accepted in a ready state only. -/
theorem GenericGpuDriver.ready_of_submit {driver driver' : GenericGpuDriver Q} {bufferId : BufferId}
    {command : RawCommand}
    (step : (genericMachine Q).step driver (.common (.submit bufferId command)) = .ret (.done (.ok ()), driver')) :
    driver.controller.IsReady := by
  cases ready : driver.controller.ensureReady with
  | ok info => exact DeviceController.isReady_iff.mpr ⟨info, ready⟩
  | error e =>
    simp only [genericMachine, GenericGpuDriver.submit, ready, Exec.ret_bind] at step
    cases step

/-- Work waits only in a driver that has become ready. -/
theorem DriverHistory.ready_of_work {es : List DriverEvent} {v₀ v : DriverView} (h : DriverHistory v₀ es v)
    (start : v₀.work.items = []) : v.work.items ≠ [] → v.controller.IsReady := by
  induction h with
  | start =>
    intro waiting
    exact (waiting start).elim
  | next _ effect ih =>
    cases effect with
    | idle => exact ih
    | loaded offline =>
      intro waiting
      have ready := ih waiting
      simp only [DeviceController.IsReady, offline] at ready
      cases ready
    | started loaded => exact fun _ => rfl
    | allocated ready | wrote ready => exact fun _ => ready
    | submitted ready => exact fun _ => ready
    | returned capacity items =>
      intro _
      apply ih
      rw [items]
      exact List.cons_ne_nil _ _

variable (backend : FifoBackend Q) {queue : Q} {f : SubmissionFifo}

/-- What waits in a driver that started empty is its own work. -/
theorem own_work {t : List (GenericOp × DriverResult (GenericGpuDriver.Error Q))} {driver : GenericGpuDriver Q}
    {v : DriverView} {capacity : Nat} (trace : (genericMachine Q).Trace (.new queue) t driver)
    (shown : GenericGpuDriver.Shows backend driver v) (history : DriverHistory (.fresh capacity) (genericEvents t) v)
    {submission : ValidatedSubmission} (waiting : submission ∈ v.work.items) : OwnWork queue t driver submission := by
  have conserves := history.conserves
  refine ⟨?_, ?_⟩
  · -- its request is among the accepted ones, hence submitted in a step of `t`
    have request : submission.request ∈ acceptedRequests (genericEvents t) := by
      rw [conserves.accounted]
      exact List.mem_map_of_mem (List.mem_append_right _ waiting)
    obtain ⟨e, member, accepted⟩ := List.mem_filterMap.mp request
    obtain ⟨⟨op, r⟩, done, ev⟩ := List.mem_filterMap.mp member
    have call : (op, r) = (.common (.submit submission.bufferId submission.command.toRaw), .done (.ok ())) := by
      cases e with
      | submitted request =>
        cases accepted
        cases op with
        | common op =>
          simp only [genericEvent, driverEvent] at ev
          split at ev <;> cases ev
          rename_i pair
          cases pair
          rfl
        | peekSubmission | isQueueEmpty => cases ev
      | loaded | started | allocated | wrote | returned => cases accepted
    rw [call] at done
    obtain ⟨earlier, later, rfl⟩ := List.append_of_mem done
    obtain ⟨at_, _, before, step, -⟩ := trace.step_at
    exact ⟨earlier, later, at_, rfl, before, GenericGpuDriver.ready_of_submit step⟩
  · obtain ⟨buffer, found, -⟩ := conserves.inBounds submission (List.mem_append_right _ waiting)
    rw [shown.device]
    exact ⟨buffer, found⟩

/-- What leaves a represented driver, or is peeked at, was waiting first. -/
theorem next_waiting {driver after : GenericGpuDriver Q} {v : DriverView} {submission : ValidatedSubmission}
    (shown : GenericGpuDriver.Shows backend driver v)
    (next : driver.nextSubmission = .ret (some submission, after)) : submission ∈ v.work.items := by
  obtain ⟨queue', run, -⟩ := backend.dequeue driver.queue v.work shown.queue
  simp only [GenericGpuDriver.nextSubmission, run, Exec.bind_def, Exec.ret_bind] at next
  rcases v.work.dequeue_cases with ⟨-, empty⟩ | ⟨first, work, taken, -, items⟩
  · rw [empty] at next
    cases next
  · rw [taken] at next
    cases next
    rw [items]
    exact List.mem_cons_self

theorem peek_waiting {driver : GenericGpuDriver Q} {v : DriverView} {submission : ValidatedSubmission}
    (shown : GenericGpuDriver.Shows backend driver v)
    (peek : driver.peekSubmission = .ret (some submission)) : submission ∈ v.work.items := by
  unfold GenericGpuDriver.peekSubmission at peek
  rw [backend.peek driver.queue v.work shown.queue] at peek
  exact List.mem_of_head? (Exec.ret.inj peek)

/-- A driver over an empty queue is a fresh one. -/
theorem shows_fresh (rep : backend.Rep queue f) (empty : f.items = []) :
    GenericGpuDriver.Shows backend (.new queue) (.fresh f.capacity) := by
  have same : f = .empty _ f.capacity := KeyedFifo.ext rfl empty
  rw [same] at rep
  exact ⟨rfl, rfl, rep⟩

theorem hands_out_own_work_iff (rep : backend.Rep queue f) : HandsOutOwnWork queue ↔ f.items = [] := by
  constructor
  · intro own
    cases items : f.items with
    | nil => rfl
    | cons submission rest =>
      -- before any call, the driver hands out the first submission it was given
      obtain ⟨rs, driver, run, out⟩ := own []
      cases run
      obtain ⟨queue', dequeue, -⟩ := backend.dequeue queue f rep
      have next : (GenericGpuDriver.new queue).nextSubmission =
          .ret (some submission, { GenericGpuDriver.new queue with queue := queue' }) := by
        have first := (KeyedFifo.dequeue_cons items).1
        rw [first] at dequeue
        simp only [GenericGpuDriver.nextSubmission, GenericGpuDriver.new, dequeue]
        rfl
      obtain ⟨earlier, later, -, none_, -⟩ := (out.next submission _ next).accepted
      cases earlier <;> cases none_
  · intro empty ops
    have start := shows_fresh backend rep empty
    obtain ⟨rs, driver, v, run, shown, history⟩ := start.run ops
    have trace := Machine.run_trace run
    refine ⟨rs, driver, run, ?_, ?_, ?_⟩
    · intro submission after next
      exact own_work backend trace shown history (next_waiting backend shown next)
    · intro submission peek
      exact own_work backend trace shown history (peek_waiting backend shown peek)
    · intro unready
      have none_ : v.work.items = [] := by
        by_contra waiting
        apply unready
        rw [shown.controller]
        exact history.ready_of_work rfl waiting
      obtain ⟨queue', dequeue, -⟩ := backend.dequeue driver.queue v.work shown.queue
      have peek := backend.peek driver.queue v.work shown.queue
      rw [KeyedFifo.dequeue_nil none_] at dequeue
      rw [KeyedFifo.peek, none_] at peek
      refine ⟨⟨_, by simp only [GenericGpuDriver.nextSubmission, dequeue]; rfl⟩, peek⟩

/-- The typed driver made ready by the shortest accepted image, its queue untouched. -/
def readyDriver (queue : Q) : TypedGenericGpuDriver .ready Q :=
  { inner := { controller := { state := .ready { major := 1, minor := 0 } }, device := .default, queue } }

theorem ready_trace (queue : Q) : TypedGenericTrace (.driver .offline (.new queue))
    [(.common (.loadFirmware (DeviceController.magic ++ [1, 0])), .done (.ok ())), (.common .start, .done (.ok ()))]
    (.driver .ready (readyDriver queue)) := by
  have load : (GenericHandle.driver .offline (.new queue)).call
      (.common (.loadFirmware (DeviceController.magic ++ [1, 0]))) = some (.ret (.done (.ok ()),
        .driver .firmwareLoaded
          { inner := { (GenericGpuDriver.new queue) with
              controller := { state := .firmwareLoaded { major := 1, minor := 0 } } } })) := rfl
  exact .call (.call .nil load) rfl

theorem typed_hands_out_own_work_iff (rep : backend.Rep queue f) : TypedHandsOutOwnWork queue ↔ f.items = [] := by
  constructor
  · intro own
    cases items : f.items with
    | nil => rfl
    | cons submission rest =>
      -- as soon as it is ready, the driver hands out the first submission it was given
      obtain ⟨queue', dequeue, -⟩ := backend.dequeue queue f rep
      have first := (KeyedFifo.dequeue_cons items).1
      rw [first] at dequeue
      have next : (readyDriver queue).nextSubmission .ready =
          .ret (some submission, { inner := { (readyDriver queue).inner with queue := queue' } }) := by
        simp only [TypedGenericGpuDriver.nextSubmission, GenericGpuDriver.nextSubmission, readyDriver, dequeue]
        rfl
      have accepted := ((own _ _ .ready _ (ready_trace queue)).1 submission _ next).accepted
      obtain ⟨earlier, later, -, calls, -⟩ := accepted
      -- neither of the two calls made so far is a submit
      have ops := congrArg (List.map Prod.fst) calls
      simp only [List.map_append, List.map_cons, List.map_nil] at ops
      have member := List.mem_append_right (earlier.map Prod.fst)
        (List.mem_cons_self (a := GenericOp.common (.submit submission.bufferId submission.command.toRaw))
          (l := later.map Prod.fst))
      rw [← ops] at member
      simp at member
  · intro empty t S operational typed trace
    have inner := trace.inner
    obtain ⟨v, shown, history⟩ := (shows_fresh backend rep empty).trace inner
    refine ⟨?_, ?_⟩
    · intro submission after next
      obtain ⟨⟨r, driver⟩, run, next⟩ := Exec.bind_eq_ret.mp next
      cases next
      exact own_work backend inner shown history (next_waiting backend shown run)
    · intro submission peek
      exact own_work backend inner shown history (peek_waiting backend shown peek)

end Provenance

/-- Either driver over `queue` hands out its own work only, exactly if `queue` is empty. -/
def OwnWorkIffEmpty {Q : Type} [SubmissionQueue Q] (queue : Q) : Prop :=
  (HandsOutOwnWork queue ↔ SubmissionQueue.isEmpty queue = .ret true) ∧
  (TypedHandsOutOwnWork queue ↔ SubmissionQueue.isEmpty queue = .ret true)

theorem own_work_iff_empty {Q : Type} [SubmissionQueue Q] (backend : FifoBackend Q) {new queue : Q}
    (built : ClientBuilt new queue) (rep : ∃ f, backend.Rep new f) : OwnWorkIffEmpty queue := by
  obtain ⟨f, rep⟩ := built.represented backend rep
  have empty : SubmissionQueue.isEmpty queue = .ret true ↔ f.items = [] := by
    rw [backend.isEmpty queue f rep, Exec.ret.injEq, List.isEmpty_iff]
  refine ⟨?_, ?_⟩
  · rw [empty]
    exact hands_out_own_work_iff backend rep
  · rw [empty]
    exact typed_hands_out_own_work_iff backend rep

/-- **A generic driver hands out its own work only, exactly if the queue it was given
is empty**: for either backend of capacity `n` and every queue that a client can build. -/
theorem hands_out_own_work_iff_empty (n : Nat) (word : n ≤ usizeMax) :
    (∀ new queue, CommandQueue.new n = .ok new → ClientBuilt new queue → OwnWorkIffEmpty queue) ∧
    (∀ new queue : StaticCommandQueue n, StaticCommandQueue.new n = .ok new → ClientBuilt new queue →
      OwnWorkIffEmpty queue) := by
  refine ⟨?_, ?_⟩
  · intro new queue made built
    exact own_work_iff_empty CommandQueue.backend built ⟨_, CommandQueue.represents_of_new made⟩
  · intro new queue made built
    exact own_work_iff_empty (StaticCommandQueue.backend word) built ⟨_, StaticCommandQueue.represents_of_new made⟩

/-- A well-formed submission on the first buffer of some device. -/
def foreignSubmission : ValidatedSubmission :=
  { bufferId := ⟨0⟩
    command := ⟨⟨1, by decide⟩, ⟨0, 4, rfl, by decide, by decide⟩, ⟨0, by decide⟩⟩ }

/-- A device on which it validates. -/
theorem foreignSubmission_valid : ∃ rs other,
    deviceMachine.run .default [.allocateBuffer 4, .writeBuffer ⟨0⟩ [1, 2, 3, 4]] = .ret (rs, other) ∧
      validateSubmission other foreignSubmission.request = .ret (.ok foreignSubmission) := ⟨_, _, rfl, rfl⟩

/-- Queues of either backend that the client put work into, and took it out of again. -/
theorem hands_out_own_work_iff_empty_two : ∃ deque filled emptied,
    CommandQueue.new 2 = .ok deque ∧ SubmissionQueue.enqueue deque foreignSubmission = .ret (.ok (), filled) ∧
    SubmissionQueue.dequeue filled = .ret (some foreignSubmission, emptied) ∧
    OwnWorkIffEmpty filled ∧ OwnWorkIffEmpty emptied ∧
    ∃ ring filled' emptied' : StaticCommandQueue 2,
      StaticCommandQueue.new 2 = .ok ring ∧ SubmissionQueue.enqueue ring foreignSubmission = .ret (.ok (), filled') ∧
      SubmissionQueue.dequeue filled' = .ret (some foreignSubmission, emptied') ∧
      OwnWorkIffEmpty filled' ∧ OwnWorkIffEmpty emptied' := by
  obtain ⟨-, device, -, valid⟩ := foreignSubmission_valid
  have both := hands_out_own_work_iff_empty 2 (by decide)
  refine ⟨_, _, _, rfl, rfl, rfl, ?_, ?_, _, _, _, rfl, rfl, rfl, ?_, ?_⟩
  · exact both.1 _ _ rfl (.enqueue .new valid rfl)
  · exact both.1 _ _ rfl (.dequeue (.enqueue .new valid rfl) rfl)
  · exact both.2 _ _ rfl (.enqueue .new valid rfl)
  · exact both.2 _ _ rfl (.dequeue (.enqueue .new valid rfl) rfl)

/-- A one-place queue that holds a submission validated over another device is
handed out by a driver that is offline and has no buffer at all. -/
theorem foreign_work_handed_out : ∃ new queue submission after,
    CommandQueue.new 1 = .ok new ∧ ClientBuilt new queue ∧
    (GenericGpuDriver.new queue).state = .offline ∧
    (GenericGpuDriver.new queue).nextSubmission = .ret (some submission, after) ∧
    (GenericGpuDriver.new queue).peekSubmission = .ret (some submission) ∧
    ¬ (GenericGpuDriver.new queue).device.Live submission.bufferId ∧
    ¬ HandsOutOwnWork queue ∧ ¬ TypedHandsOutOwnWork queue := by
  obtain ⟨-, other, -, valid⟩ := foreignSubmission_valid
  obtain ⟨new, made, empty⟩ := CommandQueue.new_represents (show 1 ≠ 0 by decide)
  have put : SubmissionQueue.enqueue new foreignSubmission = .ret (.ok (), (new.enqueue foreignSubmission).2) := by
    cases made
    rfl
  have built : ClientBuilt new (new.enqueue foreignSubmission).2 := .enqueue .new valid put
  obtain ⟨f, rep⟩ := built.represented CommandQueue.backend ⟨_, empty⟩
  have holds : f.items ≠ [] := by
    rw [← CommandQueue.Represents.pending rep]
    cases made
    exact List.cons_ne_nil _ _
  refine ⟨new, _, foreignSubmission, { GenericGpuDriver.new new with queue := new }, made, built, rfl, ?_, ?_, ?_, ?_, ?_⟩
  · cases made
    rfl
  · cases made
    rfl
  · rw [GpuDevice.not_live_iff]
    exact GpuDevice.default_buffers _
  · rw [hands_out_own_work_iff CommandQueue.backend rep]
    exact holds
  · rw [typed_hands_out_own_work_iff CommandQueue.backend rep]
    exact holds

end GpuDriverLab
