import GpuDriverLab.DriverSimulation
import GpuDriverLab.Machine.Unwinding

/-!
# What a driver is for

A driver brings the device up once, keeps account of how large its buffers are
and how much of each is initialized, and passes checked submissions on to a
queue. `DriverSpec` says this without bytes: an image is its verdict, data are
their length, a buffer is its extent. The driver over any queue refines it,
whatever the queue answers, as long as its queries do not change it.
-/

namespace GpuDriverLab
set_option autoImplicit false
open Rust

/-- How far the device has been brought up. -/
inductive Phase where
  | offline
  | loaded (info : FirmwareInfo)
  | ready (info : FirmwareInfo)
deriving DecidableEq, Repr

/-- The device state that a phase shows as; `Faulted` is none of them. -/
def Phase.state : Phase → DeviceState
  | offline => .offline
  | loaded info => .firmwareLoaded info
  | ready info => .ready info

/-- How large a buffer is, and how much of it is initialized. -/
structure Extent where
  capacity : Nat
  initialized : Nat
  nonzero : capacity ≠ 0
  fits : initialized ≤ capacity

/-- A driver without bytes. The buffer with id `n` is the `n`-th one allocated. -/
structure DriverSpec (Q : Type) where
  phase : Phase
  extents : List Extent
  issuable : extents.length < UInt32.size
  queue : Q

/-- What the first bytes of an image amount to. -/
def imageVerdict : List UInt8 → Except StateError FirmwareInfo
  | b0 :: b1 :: b2 :: b3 :: major :: minor :: _ =>
    if [b0, b1, b2, b3] ≠ DeviceController.magic then .error .invalidFirmwareMagic
    else if major ≠ 1 then .error (.unsupportedFirmwareMajor major)
    else .ok { major, minor }
  | short => .error (.firmwareTooShort short.length)

/-- What a driver looks at in a call. -/
inductive SpecOp where
  | loadFirmware (verdict : Except StateError FirmwareInfo)
  | start
  | allocateBuffer (capacity : Nat)
  | writeBuffer (id : BufferId) (length : Nat)
  | submit (bufferId : BufferId) (command : RawCommand)
  | nextSubmission
  | peekSubmission
  | queuedLen
  | isQueueEmpty
  | isQueueFull
  | state

def GenericOp.spec : GenericOp → SpecOp
  | .common (.loadFirmware image) => .loadFirmware (imageVerdict image)
  | .common .start => .start
  | .common (.allocateBuffer capacity) => .allocateBuffer capacity
  | .common (.writeBuffer id data) => .writeBuffer id data.length
  | .common (.submit bufferId command) => .submit bufferId command
  | .common .nextSubmission => .nextSubmission
  | .common .queuedLen => .queuedLen
  | .common .isQueueFull => .isQueueFull
  | .common .state => .state
  | .peekSubmission => .peekSubmission
  | .isQueueEmpty => .isQueueEmpty

namespace DriverSpec

variable {Q : Type}

def new (queue : Q) : DriverSpec Q := { phase := .offline, extents := [], issuable := by decide, queue }

/-- The extent of the buffer with this id. -/
def extent (s : DriverSpec Q) (id : BufferId) : Option Extent := s.extents[id.raw.toNat]?

instance : BufferInfo (DriverSpec Q) where
  initializedLen s id :=
    match s.extent id with
    | none => .error (.unknownBuffer id)
    | some extent => .ok extent.initialized

def load (s : DriverSpec Q) (verdict : Except StateError FirmwareInfo) : Except StateError Unit × DriverSpec Q :=
  match s.phase with
  | .offline =>
    match verdict with
    | .error e => (.error e, s)
    | .ok info => (.ok (), { s with phase := .loaded info })
  | other => (.error (.invalidState "load_firmware" other.state.kind), s)

def start (s : DriverSpec Q) : Except StateError Unit × DriverSpec Q :=
  match s.phase with
  | .loaded info => (.ok (), { s with phase := .ready info })
  | other => (.error (.invalidState "start" other.state.kind), s)

def ensureReady (s : DriverSpec Q) : Except StateError FirmwareInfo :=
  match s.phase with
  | .ready info => .ok info
  | other => .error (.invalidState "ensure_ready" other.state.kind)

/-- The next place in the list, while ids last. -/
def allocate (s : DriverSpec Q) (capacity : Nat) : Except DriverError BufferId × DriverSpec Q :=
  if zero : capacity = 0 then (.error .zeroSizedAllocation, s)
  else if room : s.extents.length + 1 < UInt32.size then
    (.ok ⟨.ofNat s.extents.length⟩,
      { s with
        extents := s.extents ++ [{ capacity, initialized := 0, nonzero := zero, fits := Nat.zero_le _ }]
        issuable := by rw [List.length_append, List.length_singleton]; exact room })
  else (.error .bufferIdExhausted, s)

/-- A whole write that fits sets the initialized length. -/
def write (s : DriverSpec Q) (id : BufferId) (length : Nat) : Except DriverError Unit × DriverSpec Q :=
  match s.extent id with
  | none => (.error (.unknownBuffer id), s)
  | some extent =>
    if fits : length ≤ extent.capacity then
      (.ok (),
        { s with
          extents := s.extents.set id.raw.toNat { extent with initialized := length, fits }
          issuable := by rw [List.length_set]; exact s.issuable })
    else (.error (.writeTooLarge extent.capacity length), s)

/-- Buffer calls leave the phase and the queue alone. -/
theorem allocate_frame (s : DriverSpec Q) (capacity : Nat) :
    (s.allocate capacity).2.phase = s.phase ∧ (s.allocate capacity).2.queue = s.queue := by
  unfold allocate
  split_ifs <;> exact ⟨rfl, rfl⟩

theorem write_frame (s : DriverSpec Q) (id : BufferId) (length : Nat) :
    (s.write id length).2.phase = s.phase ∧ (s.write id length).2.queue = s.queue := by
  unfold write
  cases s.extent id with
  | none => exact ⟨rfl, rfl⟩
  | some extent =>
    dsimp only
    split_ifs <;> exact ⟨rfl, rfl⟩

end DriverSpec

/-- The abstract driver over a queue, as a machine. -/
def specMachine (Q : Type) [SubmissionQueue Q] :
    Machine (DriverSpec Q) SpecOp (DriverResult (GenericGpuDriver.Error Q)) where
  step s
    | .loadFirmware verdict => .ret (.done ((s.load verdict).1.mapError .state), (s.load verdict).2)
    | .start => .ret (.done (s.start.1.mapError .state), s.start.2)
    | .allocateBuffer capacity =>
      match s.ensureReady with
      | .error e => .ret (.allocated (.error (.state e)), s)
      | .ok _ => .ret (.allocated ((s.allocate capacity).1.mapError .buffer), (s.allocate capacity).2)
    | .writeBuffer id length =>
      match s.ensureReady with
      | .error e => .ret (.done (.error (.state e)), s)
      | .ok _ => .ret (.done ((s.write id length).1.mapError .buffer), (s.write id length).2)
    | .submit bufferId command =>
      match s.ensureReady with
      | .error e => .ret (.done (.error (.state e)), s)
      | .ok _ => (validateSubmission s { bufferId, command }).bind fun
        | .error e => .ret (.done (.error (.submission e)), s)
        | .ok submission => (SubmissionQueue.enqueue s.queue submission).bind fun p =>
          .ret (.done (p.1.mapError .queue), { s with queue := p.2 })
    | .nextSubmission => (SubmissionQueue.dequeue s.queue).bind fun p => .ret (.submission p.1, { s with queue := p.2 })
    | .peekSubmission => (SubmissionQueue.peek s.queue).bind fun r => .ret (.submission r, s)
    | .queuedLen => (SubmissionQueue.len s.queue).bind fun n => .ret (.len n, s)
    | .isQueueEmpty => (SubmissionQueue.isEmpty s.queue).bind fun b => .ret (.flag b, s)
    | .isQueueFull => (SubmissionQueue.isFull s.queue).bind fun b => .ret (.flag b, s)
    | .state => .ret (.state s.phase.state, s)

/-- Two buffer providers that report the same lengths validate alike. -/
theorem validateSubmission_congr {B B' : Type} [BufferInfo B] [BufferInfo B'] {buffers : B} {buffers' : B'}
    {request : SubmissionRequest}
    (same : BufferInfo.initializedLen buffers request.bufferId = BufferInfo.initializedLen buffers' request.bufferId) :
    validateSubmission buffers request = validateSubmission buffers' request := by
  unfold validateSubmission
  rw [same]

/-- The verdict is what the controller finds when it loads the image offline. -/
theorem loadFirmware_verdict (controller : DeviceController) (offline : controller.state = .offline)
    (image : List UInt8) :
    controller.loadFirmware image = .ret (
      match imageVerdict image with
      | .error e => (.error e, controller)
      | .ok info => (.ok (), { state := .firmwareLoaded info })) := by
  obtain ⟨state⟩ := controller
  cases offline
  by_cases long : 6 ≤ image.length
  · obtain ⟨b0, b1, b2, b3, major, minor, payload, rfl⟩ := DeviceController.six_bytes long
    have four : index (b0 :: b1 :: b2 :: b3 :: major :: minor :: payload) 4 = .ret major := index_eq rfl
    have five : index (b0 :: b1 :: b2 :: b3 :: major :: minor :: payload) 5 = .ret minor := index_eq rfl
    simp only [DeviceController.loadFirmware, DeviceState.kind, ne_eq, not_true_eq_false, if_false,
      DeviceController.checkImage_header, Exec.bind_def, Exec.ret_bind, Exec.pure_def, four, five, imageVerdict]
    split_ifs <;> rfl
  · have short : imageVerdict image = .error (.firmwareTooShort image.length) := by
      unfold imageVerdict
      split
      · exact (long (by simp)).elim
      · rfl
    have refused : DeviceController.checkImage image = .ret (.error (.firmwareTooShort image.length)) := if_pos (by omega)
    simp only [DeviceController.loadFirmware, DeviceState.kind, ne_eq, not_true_eq_false, if_false, refused,
      Exec.bind_def, Exec.ret_bind, Exec.pure_def, short]

/-- A buffer has this extent. -/
def HasExtent (buffer : GpuBuffer) (extent : Extent) : Prop :=
  buffer.capacity = extent.capacity ∧ buffer.used = extent.initialized

section Table

variable {Q : Type} {device : GpuDevice} {s : DriverSpec Q}

/-- The buffer table as the abstract driver accounts for it. -/
structure GpuDevice.AccountedBy (device : GpuDevice) (s : DriverSpec Q) : Prop where
  issued : device.nextId.toNat = s.extents.length
  extents : ∀ id : BufferId, Option.Rel HasExtent device.buffers[id]? (s.extent id)

namespace GpuDevice.AccountedBy

theorem initializedLen (accounted : device.AccountedBy s) (id : BufferId) :
    BufferInfo.initializedLen device id = BufferInfo.initializedLen s id := by
  have here := accounted.extents id
  show device.initializedLen id = match s.extent id with
    | none => .error (.unknownBuffer id)
    | some extent => .ok extent.initialized
  unfold GpuDevice.initializedLen
  generalize device.buffers[id]? = found at here ⊢
  generalize s.extent id = known at here ⊢
  cases here with
  | none => rfl
  | some has => exact congrArg Except.ok has.2

theorem allocate (accounted : device.AccountedBy s) (capacity : Nat) :
    (device.allocateBuffer capacity).1 = (s.allocate capacity).1 ∧
      (device.allocateBuffer capacity).2.AccountedBy (s.allocate capacity).2 := by
  unfold DriverSpec.allocate
  by_cases zero : capacity = 0
  · subst zero
    rw [dif_pos rfl]
    exact ⟨rfl, accounted⟩
  · rw [dif_neg zero]
    by_cases room : device.nextId.toNat + 1 < UInt32.size
    · have fresh : (⟨device.nextId⟩ : BufferId) = ⟨.ofNat s.extents.length⟩ := by
        rw [← accounted.issued, UInt32.ofNat_toNat]
      have room' := room
      rw [accounted.issued] at room'
      rw [allocateBuffer_eq zero room, dif_pos room']
      refine ⟨congrArg Except.ok fresh, ?_, ?_⟩
      · show (device.nextId + 1).toNat = (s.extents ++ [_]).length
        rw [toNat_succ room, accounted.issued, List.length_append, List.length_singleton]
      · intro id
        rw [buffers_insert]
        show Option.Rel _ _ (s.extents ++ [_])[id.raw.toNat]?
        by_cases new : (⟨device.nextId⟩ : BufferId) = id
        · have last : id.raw.toNat = s.extents.length := by rw [← new, ← accounted.issued]
          rw [if_pos new, last, List.getElem?_concat_length]
          exact .some ⟨List.length_replicate, rfl⟩
        · -- another place of the list
          have apart : id.raw.toNat ≠ s.extents.length := by
            intro same
            rw [← accounted.issued] at same
            exact new (congrArg BufferId.mk (UInt32.toNat_inj.mp same.symm))
          have old := accounted.extents id
          rw [if_neg new]
          by_cases below : id.raw.toNat < s.extents.length
          · rw [List.getElem?_append_left below]
            exact old
          · have beyond : s.extent id = none := List.getElem?_eq_none (by omega)
            rw [List.getElem?_eq_none (by rw [List.length_append, List.length_singleton]; omega)]
            rw [beyond] at old
            exact old
    · have none_ := room
      rw [accounted.issued] at none_
      rw [allocateBuffer_exhausted zero room, dif_neg none_]
      exact ⟨rfl, accounted⟩

theorem write (accounted : device.AccountedBy s) (id : BufferId) (data : List UInt8) :
    ∃ after, device.writeBuffer id data = .ret ((s.write id data.length).1, after) ∧
      after.AccountedBy (s.write id data.length).2 := by
  have here := accounted.extents id
  unfold DriverSpec.write
  cases found : device.buffers[id]? with
  | none =>
    rw [found] at here
    generalize s.extent id = known at here
    cases here
    exact ⟨device, (unknown_buffer found).writeBuffer data, accounted⟩
  | some buffer =>
    rw [found] at here
    generalize recorded : s.extent id = known at here
    cases here with
    | @some _ extent has =>
      dsimp only
      by_cases fits : data.length ≤ extent.capacity
      · have room : data.length ≤ buffer.capacity := by rw [has.1]; exact fits
        rw [dif_pos fits]
        refine ⟨_, writeBuffer_eq found room, ?_, ?_⟩
        · show device.nextId.toNat = (s.extents.set _ _).length
          rw [List.length_set]
          exact accounted.issued
        · intro k
          rw [buffers_put]
          show Option.Rel _ _ (s.extents.set _ _)[k.raw.toNat]?
          by_cases same : id = k
          · have inside : id.raw.toNat < s.extents.length := (List.getElem?_eq_some_iff.mp recorded).1
            rw [if_pos same, ← same, List.getElem?_set_self inside]
            exact .some ⟨(length_splice (buffer.front_fits room)).trans has.1, rfl⟩
          · have apart : id.raw.toNat ≠ k.raw.toNat := by
              intro raw
              exact same (congrArg BufferId.mk (UInt32.toNat_inj.mp raw))
            rw [if_neg same, List.getElem?_set_ne apart]
            exact accounted.extents k
      · rw [dif_neg fits, ← has.1]
        exact ⟨device, writeBuffer_tooLarge found (by rw [has.1]; omega), accounted⟩

end GpuDevice.AccountedBy

end Table

namespace GenericGpuDriver

variable {Q : Type} {driver : GenericGpuDriver Q} {s : DriverSpec Q}

/-- The abstract driver that a driver keeps the account of. -/
structure Refines (driver : GenericGpuDriver Q) (s : DriverSpec Q) : Prop where
  phase : driver.controller.state = s.phase.state
  table : driver.device.AccountedBy s
  queue : driver.queue = s.queue

theorem new_refines (queue : Q) : (new queue).Refines (.new queue) where
  phase := rfl
  table := by
    refine ⟨rfl, ?_⟩
    intro id
    rw [show (new queue).device = .default from rfl, GpuDevice.default_buffers]
    exact .none
  queue := rfl

theorem Refines.ensureReady (refines : driver.Refines s) : driver.controller.ensureReady = s.ensureReady := by
  obtain ⟨phase, -, -⟩ := refines
  unfold DeviceController.ensureReady DriverSpec.ensureReady
  rw [phase]
  cases s.phase <;> rfl

theorem Refines.loadFirmware (refines : driver.Refines s) (image : List UInt8) :
    ∃ controller, driver.controller.loadFirmware image = .ret ((s.load (imageVerdict image)).1, controller) ∧
      { driver with controller }.Refines (s.load (imageVerdict image)).2 := by
  obtain ⟨phase, table, queue⟩ := refines
  unfold DriverSpec.load
  cases bringUp : s.phase with
  | offline =>
    rw [bringUp] at phase
    have run := loadFirmware_verdict driver.controller phase image
    dsimp only
    cases verdict : imageVerdict image with
    | error e =>
      rw [verdict] at run
      exact ⟨_, run, by rw [bringUp]; exact phase, table, queue⟩
    | ok info =>
      rw [verdict] at run
      exact ⟨_, run, rfl, ⟨table.issued, table.extents⟩, queue⟩
  | loaded info | ready info =>
    rw [bringUp] at phase
    refine ⟨driver.controller, ?_, by rw [bringUp]; exact phase, table, queue⟩
    unfold DeviceController.loadFirmware
    rw [phase]
    rfl

theorem Refines.start (refines : driver.Refines s) :
    driver.controller.start.1 = s.start.1 ∧
      { driver with controller := driver.controller.start.2 }.Refines s.start.2 := by
  obtain ⟨phase, table, queue⟩ := refines
  unfold DriverSpec.start DeviceController.start
  rw [phase]
  cases bringUp : s.phase with
  | loaded info => exact ⟨rfl, rfl, ⟨table.issued, table.extents⟩, queue⟩
  | offline | ready info => exact ⟨rfl, by rw [bringUp]; rfl, table, queue⟩

variable [SubmissionQueue Q]

/-- What a call to a driver has in common with the same call to its specification. -/
def Matches (p : DriverResult (Error Q) × GenericGpuDriver Q) (q : DriverResult (Error Q) × DriverSpec Q) : Prop :=
  p.1 = q.1 ∧ p.2.Refines q.2

/-- **Step refinement.** Every call, on the error paths too, whatever the queue does. -/
theorem Refines.step (refines : driver.Refines s) (op : GenericOp) :
    ((genericMachine Q).step driver op).Rel Matches ((specMachine Q).step s op.spec) := by
  have ready := refines.ensureReady
  have table := refines.table
  cases op with
  | common op =>
    cases op with
    | loadFirmware image =>
      obtain ⟨controller, run, after⟩ := refines.loadFirmware image
      simp only [genericMachine, specMachine, GenericOp.spec, GenericGpuDriver.loadFirmware, run, Exec.bind_def,
        Exec.ret_bind]
      exact ⟨rfl, after⟩
    | start =>
      obtain ⟨same, after⟩ := refines.start
      exact ⟨congrArg (fun r => DriverResult.done (Except.mapError _ r)) same, after⟩
    | allocateBuffer capacity =>
      simp only [genericMachine, specMachine, GenericOp.spec, GenericGpuDriver.allocateBuffer, ready]
      cases s.ensureReady with
      | error e => exact ⟨rfl, refines⟩
      | ok info =>
        obtain ⟨same, after⟩ := table.allocate capacity
        obtain ⟨phase, queue⟩ := s.allocate_frame capacity
        exact ⟨congrArg (fun r => DriverResult.allocated (Except.mapError _ r)) same, refines.phase.trans (by rw [phase]),
          after, refines.queue.trans queue.symm⟩
    | writeBuffer id data =>
      simp only [genericMachine, specMachine, GenericOp.spec, GenericGpuDriver.writeBuffer, ready]
      cases s.ensureReady with
      | error e => exact ⟨rfl, refines⟩
      | ok info =>
        obtain ⟨device, run, after⟩ := table.write id data
        obtain ⟨phase, queue⟩ := s.write_frame id data.length
        simp only [run, Exec.bind_def, Exec.ret_bind]
        exact ⟨rfl, refines.phase.trans (by rw [phase]), after, refines.queue.trans queue.symm⟩
    | submit bufferId command =>
      have checks : validateSubmission driver.device { bufferId, command } = validateSubmission s { bufferId, command } :=
        validateSubmission_congr (table.initializedLen bufferId)
      simp only [genericMachine, specMachine, GenericOp.spec, GenericGpuDriver.submit, ready, checks, refines.queue]
      cases s.ensureReady with
      | error e => exact ⟨rfl, refines⟩
      | ok info =>
        cases validateSubmission s { bufferId, command } with
        | panic why => trivial
        | ret checked =>
          cases checked with
          | error e => exact ⟨rfl, refines⟩
          | ok submission =>
            simp only [Exec.bind_def, Exec.ret_bind, Exec.bind_bind, Exec.pure_def]
            cases SubmissionQueue.enqueue s.queue submission with
            | panic why => trivial
            | ret p => exact ⟨rfl, refines.phase, ⟨table.issued, table.extents⟩, rfl⟩
    | nextSubmission =>
      simp only [genericMachine, specMachine, GenericOp.spec, GenericGpuDriver.nextSubmission, refines.queue,
        Exec.bind_def, Exec.bind_bind, Exec.ret_bind, Exec.pure_def]
      cases SubmissionQueue.dequeue s.queue with
      | panic why => trivial
      | ret p => exact ⟨rfl, refines.phase, ⟨table.issued, table.extents⟩, rfl⟩
    | queuedLen =>
      simp only [genericMachine, specMachine, GenericOp.spec, queuedLen, refines.queue]
      cases SubmissionQueue.len s.queue with
      | panic why => trivial
      | ret n => exact ⟨rfl, refines⟩
    | isQueueFull =>
      simp only [genericMachine, specMachine, GenericOp.spec, isQueueFull, refines.queue]
      cases SubmissionQueue.isFull s.queue with
      | panic why => trivial
      | ret b => exact ⟨rfl, refines⟩
    | state => exact ⟨congrArg DriverResult.state refines.phase, refines⟩
  | peekSubmission =>
    simp only [genericMachine, specMachine, GenericOp.spec, peekSubmission, refines.queue]
    cases SubmissionQueue.peek s.queue with
    | panic why => trivial
    | ret r => exact ⟨rfl, refines⟩
  | isQueueEmpty =>
    simp only [genericMachine, specMachine, GenericOp.spec, isQueueEmpty, refines.queue]
    cases SubmissionQueue.isEmpty s.queue with
    | panic why => trivial
    | ret b => exact ⟨rfl, refines⟩

/-- **Run refinement.** -/
theorem Refines.run (refines : driver.Refines s) (ops : List GenericOp) :
    ((genericMachine Q).run driver ops).Rel (fun p q => p.1 = q.1 ∧ p.2.Refines q.2)
      ((specMachine Q).run s (ops.map GenericOp.spec)) := by
  have step : ∀ (a : GenericGpuDriver Q) (b : DriverSpec Q) op, a.Refines b →
      ((genericMachine Q).step a op).Rel (fun p q => p.1 = q.1 ∧ p.2.Refines q.2)
        ((specMachine Q).step b op.spec) := fun a b op here => here.step op
  apply (Machine.run_rel_map step refines ops).mono
  rintro ⟨rs, after⟩ ⟨rs', after'⟩ ⟨same, last⟩
  rw [List.forall₂_eq_eq_eq] at same
  exact ⟨same, last⟩

end GenericGpuDriver

end GpuDriverLab
