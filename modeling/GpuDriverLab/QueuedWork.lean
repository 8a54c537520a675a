import GpuDriverLab.BufferHistory
import GpuDriverLab.DriverSimulation

/-!
# Work between submission and hand-out

The accepted requests of a history are the returned submissions followed by the
pending ones: nothing is lost, duplicated, reordered or altered. Each of them
fits the buffer it names. That it lies within the initialized bytes was checked
once; it stays so until a whole write makes those bytes fewer.
-/

namespace GpuDriverLab
set_option autoImplicit false
open Rust

/-- The requests for which `submit` returned `Ok`, in order. -/
def acceptedRequests (es : List DriverEvent) : List SubmissionRequest :=
  es.filterMap fun e =>
    match e with
    | .submitted request => some request
    | _ => none

/-- The submissions that `next_submission` returned, in order. -/
def returnedSubmissions (es : List DriverEvent) : List ValidatedSubmission :=
  es.filterMap fun e =>
    match e with
    | .returned submission => some submission
    | _ => none

/-- What waits after `es` where `first` waited before: that and what was accepted, in order, less what has left. -/
def WaitsAfter (first : List ValidatedSubmission) (es : List DriverEvent) (pending : List ValidatedSubmission) : Prop :=
  ∃ own : List ValidatedSubmission, returnedSubmissions es ++ pending = first ++ own ∧
    own.map ValidatedSubmission.request = acceptedRequests es

/-- As long as nothing has left. -/
theorem WaitsAfter.all {es : List DriverEvent} {pending : List ValidatedSubmission}
    (waits : WaitsAfter [] es pending) (none_ : returnedSubmissions es = []) :
    pending.map ValidatedSubmission.request = acceptedRequests es := by
  obtain ⟨own, account, requests⟩ := waits
  rw [none_] at account
  rw [show pending = own from account, requests]

/-- What a call to the driver did to its device. -/
def DriverEvent.device : DriverEvent → Option DeviceEvent
  | .allocated id capacity => some (.allocated id capacity)
  | .wrote id data => some (.wrote id data)
  | _ => none

def deviceEvents (es : List DriverEvent) : List DeviceEvent := es.filterMap DriverEvent.device

section Events

variable (es : List DriverEvent)

@[simp] theorem accepted_snoc (e : DriverEvent) :
    acceptedRequests (es ++ [e]) = acceptedRequests es ++ acceptedRequests [e] := List.filterMap_append

@[simp] theorem returned_snoc (e : DriverEvent) :
    returnedSubmissions (es ++ [e]) = returnedSubmissions es ++ returnedSubmissions [e] := List.filterMap_append

@[simp] theorem device_events_snoc (e : DriverEvent) :
    deviceEvents (es ++ [e]) = deviceEvents es ++ (DriverEvent.device e).toList := by
  cases h : DriverEvent.device e <;> simp [deviceEvents, h]

end Events

namespace DriverView

/-- A new driver with an empty queue. -/
def fresh (capacity : Nat) : DriverView :=
  { controller := .default, device := .default, work := .empty _ capacity }

/-- Each waiting submission ends within the initialized bytes of its buffer. -/
def Initialized (v : DriverView) : Prop :=
  ∀ submission ∈ v.work.items, ∃ n, v.device.initializedLen submission.bufferId = .ok n ∧ submission.rangeEnd ≤ n

end DriverView

/-- What a history says about the driver it leads to. -/
structure Conserves (es : List DriverEvent) (v : DriverView) : Prop where
  wf : v.device.WellFormed
  contents : GpuDevice.Contents (deviceEvents es) v.device
  accounted : acceptedRequests es = (returnedSubmissions es ++ v.work.items).map ValidatedSubmission.request
  inBounds : ∀ submission ∈ returnedSubmissions es ++ v.work.items, ∃ buffer,
    v.device.buffers[submission.bufferId]? = some buffer ∧ submission.rangeEnd ≤ buffer.capacity

theorem conserves_fresh (capacity : Nat) : Conserves [] (.fresh capacity) := by
  refine ⟨GpuDevice.default_wellFormed, GpuDevice.contents_default, rfl, ?_⟩
  intro submission member
  cases member

namespace Conserves

variable {es : List DriverEvent} {v : DriverView}

/-- A buffer operation of the driver: the work stays as it is. -/
theorem device_step (h : Conserves es v) {e : DriverEvent} {d : DeviceEvent} {device : GpuDevice}
    (effect : GpuDevice.Effect v.device (some d) device) (mine : e.device = some d)
    (kept : ∀ k, d ≠ .released k) (quiet : acceptedRequests [e] = [] ∧ returnedSubmissions [e] = []) :
    Conserves (es ++ [e]) { v with device } := by
  have contents := effect.contents h.contents
  refine ⟨effect.wellFormed h.wf, ?_, ?_, ?_⟩
  · rw [device_events_snoc, mine]
    exact contents
  · simp only [accepted_snoc, returned_snoc, quiet, List.append_nil]
    exact h.accounted
  · simp only [returned_snoc, quiet, List.append_nil]
    intro submission member
    obtain ⟨buffer, found, fits⟩ := h.inBounds submission member
    obtain ⟨after, found', capacity⟩ := effect.keeps h.wf (by simpa using kept _) found
    exact ⟨after, found', by rw [capacity]; exact fits⟩

/-- **Step lemma.** Every call keeps the account of the work. -/
theorem step (h : Conserves es v) {v' : DriverView} {e : Option DriverEvent} (effect : DriverEffect v e v') :
    Conserves (es ++ e.toList) v' := by
  cases effect with
  | idle => simpa using h
  | loaded offline header | started loaded =>
    refine ⟨h.wf, ?_, ?_, ?_⟩
    · simpa [DriverEvent.device] using h.contents
    · simpa [acceptedRequests, returnedSubmissions] using h.accounted
    · simpa [returnedSubmissions] using h.inBounds
  | allocated ready effect => exact h.device_step effect rfl (by simp) ⟨rfl, rfl⟩
  | wrote ready effect => exact h.device_step effect rfl (by simp) ⟨rfl, rfl⟩
  | @submitted submission work ready valid capacity items =>
    refine ⟨h.wf, ?_, ?_, ?_⟩
    · simpa [DriverEvent.device] using h.contents
    · have one : acceptedRequests [.submitted submission.request] = [submission.request] := rfl
      have none_ : returnedSubmissions [.submitted submission.request] = [] := rfl
      simp only [Option.toList_some, accepted_snoc, returned_snoc, one, none_, h.accounted, items, List.append_nil,
        List.map_append, List.map_singleton, List.append_assoc]
    · have none_ : returnedSubmissions [.submitted submission.request] = [] := rfl
      simp only [Option.toList_some, returned_snoc, none_, items, List.append_nil]
      intro other member
      rw [← List.append_assoc, List.mem_append, List.mem_singleton] at member
      rcases member with old | rfl
      · exact h.inBounds other old
      · -- the initialized bytes, checked now, are inside the buffer
        obtain ⟨-, n, len, inside⟩ := validateSubmission_eq_ok.mp valid
        obtain ⟨buffer, found, rfl⟩ := GpuDevice.initializedLen_eq_ok.mp len
        exact ⟨buffer, found, Nat.le_trans inside (h.wf _ _ found).valid⟩
  | @returned submission work capacity items =>
    have none_ : acceptedRequests [.returned submission] = [] := rfl
    have one : returnedSubmissions [.returned submission] = [submission] := rfl
    have moved : returnedSubmissions es ++ [submission] ++ work.items = returnedSubmissions es ++ v.work.items := by
      rw [items, List.append_assoc]
      rfl
    refine ⟨h.wf, ?_, ?_, ?_⟩
    · simpa [DriverEvent.device] using h.contents
    · simp only [Option.toList_some, accepted_snoc, returned_snoc, one, none_, List.append_nil, moved]
      exact h.accounted
    · simp only [Option.toList_some, returned_snoc, one, moved]
      exact h.inBounds

end Conserves

namespace DriverHistory

variable {es : List DriverEvent} {v₀ v : DriverView}

theorem conserves {capacity : Nat} (h : DriverHistory (.fresh capacity) es v) : Conserves es v := by
  induction h with
  | start => exact conserves_fresh capacity
  | next _ effect ih => exact ih.step effect

theorem capacity (h : DriverHistory v₀ es v) : v.work.capacity = v₀.work.capacity := by
  induction h with
  | start => rfl
  | next _ effect ih =>
    cases effect with
    | idle | loaded | started | allocated | wrote => exact ih
    | submitted ready valid capacity items => exact capacity.trans ih
    | returned capacity items => exact capacity.trans ih

/-- The driver's own work, behind what the queue held at first. -/
theorem accounts (h : DriverHistory v₀ es v) : WaitsAfter v₀.work.items es v.work.items := by
  induction h with
  | start => exact ⟨[], (List.append_nil _).symm, rfl⟩
  | @next es v v' e _ effect ih =>
    obtain ⟨own, account, requests⟩ := ih
    cases effect with
    | idle =>
      rw [Option.toList_none, List.append_nil]
      exact ⟨own, account, requests⟩
    | loaded | started | allocated | wrote =>
      refine ⟨own, ?_, ?_⟩
      · rw [Option.toList_some, returned_snoc]
        simpa [returnedSubmissions] using account
      · rw [Option.toList_some, accepted_snoc]
        simpa [acceptedRequests] using requests
    | @submitted submission work ready valid capacity items =>
      refine ⟨own ++ [submission], ?_, ?_⟩
      · rw [Option.toList_some, returned_snoc]
        have nothing : returnedSubmissions [.submitted submission.request] = [] := rfl
        rw [nothing, List.append_nil, items, ← List.append_assoc, account, List.append_assoc]
      · rw [Option.toList_some, accepted_snoc, List.map_append, requests]
        rfl
    | @returned submission work capacity items =>
      refine ⟨own, ?_, ?_⟩
      · rw [Option.toList_some, returned_snoc, ← account, items, List.append_assoc]
        rfl
      · rw [Option.toList_some, accepted_snoc, ← requests]
        exact (List.append_nil _).symm

end DriverHistory

/-- A waiting submission stays initialized over every call but a whole write that
leaves its buffer fewer initialized bytes than it refers to. -/
theorem DriverEffect.initialized {v v' : DriverView} {e : Option DriverEvent} (effect : DriverEffect v e v')
    (wf : v.device.WellFormed) (before : v.Initialized)
    (kept : ∀ id data, e = some (.wrote id data) →
      ∀ submission ∈ v.work.items, submission.bufferId = id → submission.rangeEnd ≤ data.length) :
    v'.Initialized := by
  cases effect with
  | idle | loaded | started => exact before
  | allocated ready effect =>
    intro submission member
    obtain ⟨n, len, inside⟩ := before submission member
    obtain ⟨buffer, found, rfl⟩ := GpuDevice.initializedLen_eq_ok.mp len
    refine ⟨buffer.used, GpuDevice.initializedLen_eq ?_, inside⟩
    cases effect with
    | allocated nonzero room =>
      have elsewhere : (⟨v.device.nextId⟩ : BufferId) ≠ submission.bufferId := by
        intro here
        have fresh := wf.next_fresh
        rw [here, found] at fresh
        cases fresh
      rw [GpuDevice.buffers_insert, if_neg elsewhere]
      exact found
  | @wrote id data device ready effect =>
    intro submission member
    obtain ⟨n, len, inside⟩ := before submission member
    obtain ⟨buffer, found, rfl⟩ := GpuDevice.initializedLen_eq_ok.mp len
    cases effect with
    | wrote old fits =>
      by_cases here : id = submission.bufferId
      · subst here
        exact ⟨data.length, GpuDevice.initializedLen_eq (GpuDevice.buffers_put_self _ _ _),
          kept _ _ rfl submission member rfl⟩
      · refine ⟨buffer.used, GpuDevice.initializedLen_eq ?_, inside⟩
        rw [GpuDevice.buffers_put_of_ne here]
        exact found
  | submitted ready valid capacity items =>
    intro submission member
    simp only [items, List.mem_append, List.mem_singleton] at member
    rcases member with old | rfl
    · exact before submission old
    · exact (validateSubmission_eq_ok.mp valid).2
  | returned capacity items =>
    intro submission member
    apply before submission
    rw [items]
    exact List.mem_cons_of_mem _ member

namespace SimulatedGpuDriver

/-- The parts of the simulated driver, its queue represented. -/
abbrev Shows (driver : SimulatedGpuDriver) (v : DriverView) : Prop :=
  GenericGpuDriver.Shows CommandQueue.backend driver.generic v

theorem Shows.pending {driver : SimulatedGpuDriver} {v : DriverView} (shows_ : driver.Shows v) :
    driver.queue.pending = v.work.items :=
  CommandQueue.Represents.pending shows_.queue

theorem new_shows {capacity : Nat} (positive : 0 < capacity) :
    ∃ driver, SimulatedGpuDriver.new capacity = .ok driver ∧ driver.Shows (.fresh capacity) := by
  obtain ⟨queue, new, rep⟩ := CommandQueue.new_represents (Nat.pos_iff_ne_zero.mp positive)
  exact ⟨{ controller := .default, device := .default, queue }, by simp only [SimulatedGpuDriver.new, new],
    rfl, rfl, rep⟩

/-- **Step lemma.** Every call on the simulated driver. -/
theorem Shows.step {driver : SimulatedGpuDriver} {v : DriverView} (shows_ : driver.Shows v) (op : DriverOp) :
    ∃ r driver' v', simulatedMachine.step driver op = .ret (r, driver') ∧ driver'.Shows v' ∧
      DriverEffect v (driverEvent (op, r)) v' := by
  obtain ⟨r, g, v', step, shown, effect⟩ := GenericGpuDriver.Shows.step shows_ (.common op)
  have alike := driver.step_generic op
  have same : (commonMachine CommandQueue).step driver.generic op = .ret (r, g) := step
  rw [same] at alike
  obtain ⟨⟨r', driver'⟩, step', result, rfl⟩ := alike.ret_right
  refine ⟨r', driver', v', step', shown, ?_⟩
  rw [result.event op]
  exact effect

/-- **Run lemma.** Every run of the simulated driver returns and is a history. -/
theorem Shows.run {driver : SimulatedGpuDriver} {v : DriverView} (shows_ : driver.Shows v) (ops : List DriverOp) :
    ∃ rs driver' v', simulatedMachine.run driver ops = .ret (rs, driver') ∧ driver'.Shows v' ∧
      DriverHistory v (driverEvents (ops.zip rs)) v' := by
  obtain ⟨rs, g, v', run, shown, history⟩ := GenericGpuDriver.Shows.run shows_ (ops.map .common)
  have alike := driver.run_generic ops
  rw [commonMachine_run, run] at alike
  obtain ⟨⟨rs', driver'⟩, run', results, rfl⟩ := alike.ret_right
  refine ⟨rs', driver', v', run', shown, ?_⟩
  rw [SameDriverResult.events results, ← driverEvents_common]
  exact history

/-- The requests accepted and the submissions returned along `t`, against the driver
it leads to. A part of a run is a run, so this holds when a submission is returned. -/
structure WorkConserved (c : Nat) (t : List (DriverOp × DriverResult DriverApiError))
    (driver : SimulatedGpuDriver) : Prop where
  accounted : acceptedRequests (driverEvents t) =
    (returnedSubmissions (driverEvents t) ++ driver.queue.pending).map ValidatedSubmission.request
  bounded : driver.queue.pending.length ≤ c
  distinct : (driver.queue.pending.map ValidatedSubmission.commandId).Nodup
  live : ∀ submission ∈ returnedSubmissions (driverEvents t), driver.device.Live submission.bufferId
  aligned : ∀ submission ∈ returnedSubmissions (driverEvents t),
    submission.command.range.offset % 4 = 0 ∧ submission.command.range.length ≠ 0
  inCapacity : ∀ submission ∈ returnedSubmissions (driverEvents t), ∃ capacity,
    DeviceEvent.allocated submission.bufferId capacity ∈ deviceEvents (driverEvents t) ∧
    submission.rangeEnd ≤ capacity

/-- **No accepted command is lost, duplicated, reordered or altered.** -/
theorem accepted_work_conserved (c : Nat) (positive : 0 < c) : ∃ driver, SimulatedGpuDriver.new c = .ok driver ∧
    ∀ ops, ∃ rs driver', simulatedMachine.run driver ops = .ret (rs, driver') ∧
      WorkConserved c (ops.zip rs) driver' := by
  obtain ⟨driver, new, shows_⟩ := new_shows positive
  refine ⟨driver, new, ?_⟩
  intro ops
  obtain ⟨rs, driver', v, run, shown, history⟩ := shows_.run ops
  have conserves := history.conserves
  have capacity : v.work.capacity = c := history.capacity
  have device : driver'.device = v.device := shown.device
  refine ⟨rs, driver', run, ?_, ?_, ?_, ?_, ?_, ?_⟩
  · rw [shown.pending]
    exact conserves.accounted
  · rw [shown.pending, ← capacity]
    exact v.work.bounded
  · rw [shown.pending]
    exact v.work.distinct
  · intro submission member
    obtain ⟨buffer, found, -⟩ := conserves.inBounds submission (List.mem_append_left _ member)
    rw [device]
    exact ⟨buffer, found⟩
  · intro submission _
    exact ⟨submission.command.range.aligned, submission.command.range.nonempty⟩
  · intro submission member
    obtain ⟨buffer, found, fits⟩ := conserves.inBounds submission (List.mem_append_left _ member)
    exact ⟨buffer.capacity, conserves.contents.capacity _ buffer found, fits⟩

theorem accepted_work_conserved_two : 0 < 2 ∧ ∃ driver, SimulatedGpuDriver.new 2 = .ok driver ∧
    ∀ ops, ∃ rs driver', simulatedMachine.run driver ops = .ret (rs, driver') ∧
      WorkConserved 2 (ops.zip rs) driver' :=
  ⟨by decide, accepted_work_conserved 2 (by decide)⟩

/-- Everything that waits is initialized, and what is handed out next would be
accepted again. -/
structure QueuedWorkValid (driver : SimulatedGpuDriver) : Prop where
  initialized : ∀ submission ∈ driver.queue.pending, ∃ n,
    driver.device.initializedLen submission.bufferId = .ok n ∧ submission.rangeEnd ≤ n
  revalidates : ∀ submission after, driver.nextSubmission = (some submission, after) →
    validateSubmission driver.device submission.request = .ret (.ok submission)

/-- `op` is not a whole write that succeeds with fewer bytes than a waiting
submission on its buffer refers to. -/
def KeepsQueuedRanges (driver : SimulatedGpuDriver) (op : DriverOp) : Prop :=
  ∀ id data buffer, op = .writeBuffer id data → driver.controller.IsReady →
    driver.device.buffers[id]? = some buffer → data.length ≤ buffer.capacity →
    ∀ submission ∈ driver.queue.pending, submission.bufferId = id → submission.rangeEnd ≤ data.length

theorem Shows.queuedWorkValid {driver : SimulatedGpuDriver} {v : DriverView} (shows_ : driver.Shows v) :
    driver.QueuedWorkValid ↔ v.Initialized := by
  have device : driver.device = v.device := shows_.device
  constructor
  · intro valid submission member
    rw [← device]
    rw [← shows_.pending] at member
    exact valid.initialized submission member
  · intro initialized
    have waiting : ∀ submission ∈ driver.queue.pending, ∃ n,
        driver.device.initializedLen submission.bufferId = .ok n ∧ submission.rangeEnd ≤ n := by
      intro submission member
      rw [device]
      rw [shows_.pending] at member
      exact initialized submission member
    refine ⟨waiting, ?_⟩
    intro submission after next
    refine validateSubmission_eq_ok.mpr ⟨rfl, waiting submission ?_⟩
    simp only [nextSubmission, CommandQueue.dequeue] at next
    cases pending : driver.queue.pending with
    | nil =>
      rw [pending] at next
      cases next
    | cons first rest =>
      rw [pending] at next
      cases next
      exact List.mem_cons_self

/-- A call that keeps the queued ranges keeps the queued work valid. -/
theorem Shows.keeps {driver : SimulatedGpuDriver} {v v' : DriverView} {op : DriverOp}
    {r : DriverResult DriverApiError} (shows_ : driver.Shows v) (wf : v.device.WellFormed)
    (effect : DriverEffect v (driverEvent (op, r)) v') (before : v.Initialized)
    (kept : KeepsQueuedRanges driver op) : v'.Initialized := by
  apply effect.initialized wf before
  intro id data wrote
  rw [wrote] at effect
  have call : op = .writeBuffer id data := by
    unfold driverEvent at wrote
    split at wrote <;> cases wrote
    rename_i pair
    exact congrArg Prod.fst pair
  cases effect with
  | wrote ready effect =>
    cases effect with
    | wrote found fits =>
      rw [← shows_.pending]
      have controller : driver.controller = v.controller := shows_.controller
      have device : driver.device = v.device := shows_.device
      exact kept id data _ call (by rw [controller]; exact ready) (by rw [device]; exact found) fits

/-- **Queued work stays initialized exactly while no whole write cuts it off.** Along
every run, all states reached have valid queued work if and only if no call of the
run leaves a buffer fewer bytes than a waiting submission refers to. -/
theorem queued_work_valid (c : Nat) (positive : 0 < c) : ∃ driver, SimulatedGpuDriver.new c = .ok driver ∧
    ∀ ops,
      (∀ before, before <+: ops → ∃ rs reached, simulatedMachine.run driver before = .ret (rs, reached) ∧
        reached.QueuedWorkValid) ↔
      (∀ before op, before ++ [op] <+: ops → ∀ rs reached,
        simulatedMachine.run driver before = .ret (rs, reached) → reached.KeepsQueuedRanges op) := by
  obtain ⟨driver, new, shows_⟩ := new_shows positive
  refine ⟨driver, new, ?_⟩
  intro ops
  constructor
  · intro valid before op part rs reached run id data buffer call ready found fits submission member named
    -- the write succeeds, and the state after it has valid work
    obtain ⟨info, ensured⟩ := DeviceController.isReady_iff.mp ready
    have write := GpuDevice.writeBuffer_eq found fits
    have step : simulatedMachine.step reached op = .ret (.done (.ok ()), { reached with
        device := reached.device.put id
          { buffer with storage := splice buffer.storage 0 data, used := data.length } }) := by
      simp only [call, simulatedMachine, writeBuffer, ensured, write]
      rfl
    obtain ⟨rs', after, run', work⟩ := valid (before ++ [op]) part
    rw [Machine.run_append, run] at run'
    simp only [Exec.ret_bind, Machine.run, step] at run'
    cases run'
    obtain ⟨n, len, inside⟩ := work.initialized submission member
    rw [named, GpuDevice.initializedLen_eq (GpuDevice.buffers_put_self _ _ _)] at len
    cases len
    exact inside
  · intro kept before part
    induction before using List.reverseRecOn with
    | nil =>
      refine ⟨[], driver, rfl, shows_.queuedWorkValid.mpr ?_⟩
      intro submission member
      cases member
    | append_singleton before op ih =>
      have upto : before <+: ops := (List.prefix_append before [op]).trans part
      obtain ⟨rs, reached, v, run, shown, history⟩ := shows_.run before
      obtain ⟨_, _, again, valid⟩ := ih upto
      rw [run] at again
      cases again
      obtain ⟨r, after, v', step, shown', effect⟩ := shown.step op
      refine ⟨rs ++ [r], after, Machine.run_snoc.mpr ⟨reached, run, step⟩, shown'.queuedWorkValid.mpr ?_⟩
      exact shown.keeps history.conserves.wf effect (shown.queuedWorkValid.mp valid) (kept before op part rs reached run)

theorem queued_work_valid_two : 0 < 2 ∧ ∃ driver, SimulatedGpuDriver.new 2 = .ok driver ∧
    ∀ ops,
      (∀ before, before <+: ops → ∃ rs reached, simulatedMachine.run driver before = .ret (rs, reached) ∧
        reached.QueuedWorkValid) ↔
      (∀ before op, before ++ [op] <+: ops → ∀ rs reached,
        simulatedMachine.run driver before = .ret (rs, reached) → reached.KeepsQueuedRanges op) :=
  ⟨by decide, queued_work_valid 2 (by decide)⟩

/-- Eight bytes are written and submitted, then four written: the submission that
waits is handed out although its own check rejects it now. -/
theorem queued_work_cut_off : ∃ driver rs reached submission after, SimulatedGpuDriver.new 2 = .ok driver ∧
    simulatedMachine.run driver
      [.loadFirmware (DeviceController.magic ++ [1, 0]), .start, .allocateBuffer 8,
        .writeBuffer ⟨0⟩ [1, 2, 3, 4, 5, 6, 7, 8],
        .submit ⟨0⟩ { id := 1, offset := 0, length := 8, priority := 0 },
        .writeBuffer ⟨0⟩ [1, 2, 3, 4]] = .ret (rs, reached) ∧
    reached.nextSubmission = (some submission, after) ∧
    validateSubmission reached.device submission.request = .ret (.error (.rangeExceedsInitialized 8 4)) ∧
    ¬ reached.QueuedWorkValid := by
  refine ⟨_, _, _, _, _, rfl, rfl, rfl, rfl, ?_⟩
  intro valid
  have again := valid.revalidates _ _ rfl
  cases again

end SimulatedGpuDriver

end GpuDriverLab
