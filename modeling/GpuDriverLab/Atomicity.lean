import GpuDriverLab.DriverSimulation
import GpuDriverLab.TypedGenericDriver

/-!
# Failed calls leave nothing behind

At every layer a call that returns an error returns the state it was given, with
all of its fields, and a failed transition gives back the driver it consumed.
This holds in every state, reachable or not.
-/

namespace GpuDriverLab
set_option autoImplicit false
open Rust

/-- The device call returned an error. -/
inductive DeviceResult.Failed : DeviceResult → Prop where
  | done (e : DriverError) : Failed (.done (.error e))
  | allocated (e : DriverError) : Failed (.allocated (.error e))
  | bytes (e : DriverError) : Failed (.bytes (.error e))
  | len (e : DriverError) : Failed (.len (.error e))
  | released (e : DriverError) : Failed (.released (.error e))

/-- The driver call returned an error. -/
inductive DriverResult.Failed {E : Type} : DriverResult E → Prop where
  | done (e : E) : Failed (.done (.error e))
  | allocated (e : E) : Failed (.allocated (.error e))

/-- A refused submission leaves the queue as it was. -/
def AtomicEnqueue (Q : Type) [SubmissionQueue Q] : Prop :=
  ∀ (queue : Q) submission e queue',
    SubmissionQueue.enqueue queue submission = .ret (.error e, queue') → queue' = queue

namespace GpuDevice

/-- A failed call has no event, and without an event there is no effect. -/
theorem failed_atomic {device device' : GpuDevice} {op : DeviceOp} {r : DeviceResult}
    (step : deviceMachine.step device op = .ret (r, device')) (failed : r.Failed) : device' = device := by
  have effect := step_effect step
  have none_ : event (op, r) = none := by
    cases failed <;> cases op <;> rfl
  rw [none_] at effect
  cases effect
  rfl

end GpuDevice

namespace DeviceController

theorem loadFirmware_atomic {controller controller' : DeviceController} {image : List UInt8} {e : StateError}
    (run : controller.loadFirmware image = .ret (.error e, controller')) : controller' = controller := by
  rcases controller.loadFirmware_cases image with ⟨-, -, accepted⟩ | ⟨-, e', refused⟩
  · rw [accepted] at run
    cases run
  · rw [refused] at run
    cases run
    rfl

/-- The state swapped out at first is put back. -/
theorem start_atomic {controller controller' : DeviceController} {e : StateError}
    (run : controller.start = (.error e, controller')) : controller' = controller := by
  rcases controller.start_cases with ⟨info, -, accepted⟩ | ⟨-, refused⟩
  · rw [accepted] at run
    cases run
  · rw [refused] at run
    cases run
    rfl

end DeviceController

theorem CommandQueue.enqueue_atomic {queue queue' : CommandQueue} {submission : ValidatedSubmission} {e : QueueError}
    (run : queue.enqueue submission = (.error e, queue')) : queue' = queue := by
  unfold CommandQueue.enqueue at run
  dsimp only at run
  split at run
  · cases run
    rfl
  · split at run
    · cases run
      rfl
    · cases run

theorem StaticCommandQueue.enqueue_atomic {n : Nat} {queue queue' : StaticCommandQueue n}
    {submission : ValidatedSubmission} {e : StaticQueueError}
    (run : queue.enqueue submission = .ret (.error e, queue')) : queue' = queue := by
  unfold StaticCommandQueue.enqueue at run
  dsimp only at run
  split at run
  · cases run
    rfl
  · split at run
    · cases run
      rfl
    · obtain ⟨tail, -, run⟩ := Exec.bind_eq_ret.mp run
      obtain ⟨stored, -, run⟩ := Exec.bind_eq_ret.mp run
      obtain ⟨len, -, run⟩ := Exec.bind_eq_ret.mp run
      cases run

theorem atomicEnqueue_command : AtomicEnqueue CommandQueue := by
  intro queue submission e queue' run
  exact CommandQueue.enqueue_atomic (Exec.ret.inj run)

theorem atomicEnqueue_static (n : Nat) : AtomicEnqueue (StaticCommandQueue n) := by
  intro queue submission e queue' run
  exact StaticCommandQueue.enqueue_atomic run

namespace GenericGpuDriver

variable {Q : Type} [SubmissionQueue Q] {driver driver' : GenericGpuDriver Q}

theorem loadFirmware_atomic {image : List UInt8} {e : Error Q}
    (run : driver.loadFirmware image = .ret (.error e, driver')) : driver' = driver := by
  obtain ⟨⟨r, controller⟩, part, run⟩ := Exec.bind_eq_ret.mp run
  cases r with
  | ok => cases run
  | error e =>
    cases run
    rw [DeviceController.loadFirmware_atomic part]

theorem start_atomic {e : Error Q} (run : driver.start = (.error e, driver')) : driver' = driver := by
  unfold start at run
  cases part : driver.controller.start with
  | mk r controller =>
    rw [part] at run
    cases r with
    | ok => cases run
    | error e =>
      cases run
      rw [DeviceController.start_atomic part]

theorem allocateBuffer_atomic {capacity : Nat} {e : Error Q}
    (run : driver.allocateBuffer capacity = (.error e, driver')) : driver' = driver := by
  unfold allocateBuffer at run
  cases ready : driver.controller.ensureReady with
  | error e =>
    rw [ready] at run
    cases run
    rfl
  | ok info =>
    have effect := GpuDevice.allocateBuffer_effect driver.device capacity
    cases part : driver.device.allocateBuffer capacity with
    | mk result device =>
      rw [ready, part] at run
      rw [part] at effect
      cases result with
      | ok id => cases run
      | error e =>
        cases run
        cases effect
        rfl

theorem writeBuffer_atomic {id : BufferId} {data : List UInt8} {e : Error Q}
    (run : driver.writeBuffer id data = .ret (.error e, driver')) : driver' = driver := by
  unfold writeBuffer at run
  cases ready : driver.controller.ensureReady with
  | error e =>
    rw [ready] at run
    cases run
    rfl
  | ok info =>
    obtain ⟨result, device, part, effect⟩ := GpuDevice.writeBuffer_effect driver.device id data
    rw [ready, part] at run
    cases result with
    | ok => cases run
    | error e =>
      cases run
      cases effect
      rfl

/-- A refusal by readiness or validation comes before the queue is touched. -/
theorem submit_atomic (atomic : AtomicEnqueue Q) {bufferId : BufferId} {command : RawCommand} {e : Error Q}
    (run : driver.submit bufferId command = .ret (.error e, driver')) : driver' = driver := by
  unfold submit at run
  cases ready : driver.controller.ensureReady with
  | error e =>
    rw [ready] at run
    cases run
    rfl
  | ok info =>
    rw [ready] at run
    obtain ⟨checked, -, run⟩ := Exec.bind_eq_ret.mp run
    cases checked with
    | error e =>
      cases run
      rfl
    | ok submission =>
      obtain ⟨⟨queued, queue⟩, part, run⟩ := Exec.bind_eq_ret.mp run
      cases queued with
      | ok => cases run
      | error e =>
        cases run
        rw [atomic _ _ _ _ part]

/-- **Step lemma.** The error of a part is the error of the call, and the part is as it was. -/
theorem failed_atomic (atomic : AtomicEnqueue Q) {op : GenericOp} {r : DriverResult (Error Q)}
    (step : (genericMachine Q).step driver op = .ret (r, driver')) (failed : r.Failed) : driver' = driver := by
  cases op with
  | common op =>
    cases op with
    | loadFirmware image =>
      obtain ⟨⟨result, after⟩, run, step⟩ := Exec.bind_eq_ret.mp step
      cases step
      cases failed
      exact loadFirmware_atomic run
    | start =>
      cases run : driver.start with
      | mk result after =>
        simp only [genericMachine, run] at step
        cases step
        cases failed
        exact start_atomic run
    | allocateBuffer capacity =>
      cases run : driver.allocateBuffer capacity with
      | mk result after =>
        simp only [genericMachine, run] at step
        cases step
        cases failed
        exact allocateBuffer_atomic run
    | writeBuffer id data =>
      obtain ⟨⟨result, after⟩, run, step⟩ := Exec.bind_eq_ret.mp step
      cases step
      cases failed
      exact writeBuffer_atomic run
    | submit bufferId command =>
      obtain ⟨⟨result, after⟩, run, step⟩ := Exec.bind_eq_ret.mp step
      cases step
      cases failed
      exact submit_atomic atomic run
    | nextSubmission | queuedLen | isQueueFull =>
      obtain ⟨_, -, step⟩ := Exec.bind_eq_ret.mp step
      cases step
      cases failed
    | state =>
      cases step
      cases failed
  | peekSubmission | isQueueEmpty =>
    obtain ⟨_, -, step⟩ := Exec.bind_eq_ret.mp step
    cases step
    cases failed

end GenericGpuDriver

theorem SameDriverResult.failed {E₁ E₂ : Type} {E : E₁ → E₂ → Prop} {r₁ : DriverResult E₁} {r₂ : DriverResult E₂}
    (same : SameDriverResult E r₁ r₂) (failed : r₁.Failed) : r₂.Failed := by
  cases failed with
  | done e =>
    cases same with
    | done same =>
      cases same
      exact .done _
  | allocated e =>
    cases same with
    | allocated same =>
      cases same
      exact .allocated _

namespace SimulatedGpuDriver

theorem generic_injective {a b : SimulatedGpuDriver} (same : a.generic = b.generic) : a = b := by
  cases a
  cases b
  cases same
  rfl

theorem failed_atomic {driver driver' : SimulatedGpuDriver} {op : DriverOp} {r : DriverResult DriverApiError}
    (step : simulatedMachine.step driver op = .ret (r, driver')) (failed : r.Failed) : driver' = driver := by
  have alike := driver.step_generic op
  rw [step] at alike
  obtain ⟨⟨r', after⟩, step', result, same⟩ := alike.ret_left
  have under := GenericGpuDriver.failed_atomic atomicEnqueue_command step' (result.failed failed)
  exact generic_injective (same.trans under)

end SimulatedGpuDriver

section Transitions

/-- A failed transition consumed the driver and gives the same one back. -/
theorem TypedDriver.loadFirmware_atomic {typed : TypedDriver .offline} {image : List UInt8}
    {failure : TransitionError .offline} (run : typed.loadFirmware image = .ret (.error failure)) :
    failure.driver = typed := by
  obtain ⟨⟨r, inner⟩, part, run⟩ := Exec.bind_eq_ret.mp run
  cases r with
  | ok => cases run
  | error e =>
    cases run
    have step : simulatedMachine.step typed.inner (.loadFirmware image) = .ret (.done (.error e), inner) := by
      simp only [simulatedMachine, part, Exec.ret_bind]
    rw [SimulatedGpuDriver.failed_atomic step (.done e)]

theorem TypedDriver.start_atomic {typed : TypedDriver .firmwareLoaded} {failure : TransitionError .firmwareLoaded}
    (run : typed.start = .error failure) : failure.driver = typed := by
  unfold TypedDriver.start at run
  cases part : typed.inner.start with
  | mk r inner =>
    rw [part] at run
    cases r with
    | ok => cases run
    | error e =>
      cases run
      have step : simulatedMachine.step typed.inner .start = .ret (.done (.error e), inner) := by
        simp only [simulatedMachine, part]
      rw [SimulatedGpuDriver.failed_atomic step (.done e)]

variable {Q : Type} [SubmissionQueue Q]

theorem TypedGenericGpuDriver.loadFirmware_atomic {typed : TypedGenericGpuDriver .offline Q} {image : List UInt8}
    {failure : GenericTransitionError .offline Q} (run : typed.loadFirmware image = .ret (.error failure)) :
    failure.driver = typed := by
  obtain ⟨⟨r, inner⟩, part, run⟩ := Exec.bind_eq_ret.mp run
  cases r with
  | ok => cases run
  | error e =>
    cases run
    rw [GenericGpuDriver.loadFirmware_atomic part]

theorem TypedGenericGpuDriver.start_atomic {typed : TypedGenericGpuDriver .firmwareLoaded Q}
    {failure : GenericTransitionError .firmwareLoaded Q} (run : typed.start = .error failure) :
    failure.driver = typed := by
  unfold TypedGenericGpuDriver.start at run
  cases part : typed.inner.start with
  | mk r inner =>
    rw [part] at run
    cases r with
    | ok => cases run
    | error e =>
      cases run
      rw [GenericGpuDriver.start_atomic part]

end Transitions

/-- What a failed call leaves behind, layer by layer. -/
structure FailedCallsAtomic : Prop where
  device : ∀ device op r device', deviceMachine.step device op = .ret (r, device') → r.Failed → device' = device
  loadFirmware : ∀ (controller : DeviceController) image e controller',
    controller.loadFirmware image = .ret (.error e, controller') → controller' = controller
  start : ∀ (controller : DeviceController) e controller',
    controller.start = (.error e, controller') → controller' = controller
  commandQueue : AtomicEnqueue CommandQueue
  staticQueue : ∀ n, AtomicEnqueue (StaticCommandQueue n)
  simulated : ∀ driver op r driver',
    simulatedMachine.step driver op = .ret (r, driver') → r.Failed → driver' = driver
  genericCommand : ∀ driver op r driver',
    (genericMachine CommandQueue).step driver op = .ret (r, driver') → r.Failed → driver' = driver
  genericStatic : ∀ n driver op r driver',
    (genericMachine (StaticCommandQueue n)).step driver op = .ret (r, driver') → r.Failed → driver' = driver
  typedLoad : ∀ (typed : TypedDriver .offline) image failure, typed.loadFirmware image = .ret (.error failure) →
    failure.intoDriver = typed ∧ failure.intoParts.1 = typed
  typedStart : ∀ (typed : TypedDriver .firmwareLoaded) failure, typed.start = .error failure →
    failure.intoDriver = typed ∧ failure.intoParts.1 = typed
  typedGenericLoad : ∀ (Q : Type) [SubmissionQueue Q] (typed : TypedGenericGpuDriver .offline Q) image failure,
    typed.loadFirmware image = .ret (.error failure) → failure.intoDriver = typed ∧ failure.intoParts.1 = typed
  typedGenericStart : ∀ (Q : Type) [SubmissionQueue Q] (typed : TypedGenericGpuDriver .firmwareLoaded Q) failure,
    typed.start = .error failure → failure.intoDriver = typed ∧ failure.intoParts.1 = typed

/-- **Every failed call is atomic at every layer.** -/
theorem failed_calls_atomic : FailedCallsAtomic where
  device _ _ _ _ := GpuDevice.failed_atomic
  loadFirmware _ _ _ _ := DeviceController.loadFirmware_atomic
  start _ _ _ := DeviceController.start_atomic
  commandQueue := atomicEnqueue_command
  staticQueue := atomicEnqueue_static
  simulated _ _ _ _ := SimulatedGpuDriver.failed_atomic
  genericCommand _ _ _ _ := GenericGpuDriver.failed_atomic atomicEnqueue_command
  genericStatic n _ _ _ _ := GenericGpuDriver.failed_atomic (atomicEnqueue_static n)
  typedLoad _ _ _ run := ⟨TypedDriver.loadFirmware_atomic run, TypedDriver.loadFirmware_atomic run⟩
  typedStart _ _ run := ⟨TypedDriver.start_atomic run, TypedDriver.start_atomic run⟩
  typedGenericLoad _ _ _ _ _ run :=
    ⟨TypedGenericGpuDriver.loadFirmware_atomic run, TypedGenericGpuDriver.loadFirmware_atomic run⟩
  typedGenericStart _ _ _ _ run :=
    ⟨TypedGenericGpuDriver.start_atomic run, TypedGenericGpuDriver.start_atomic run⟩

end GpuDriverLab
