import GpuDriverLab.DeviceRun
import GpuDriverLab.GenericDriver
import GpuDriverLab.QueueRefinement

/-!
# Runs of a driver

A driver over a queue that represents the abstract one is seen as its
controller, its device and the work waiting. `DriverEffect` lists what one call
can do to the three, with the checks it passed; every other call leaves all of
them alone. A run of a driver is a `DriverHistory`, and what holds along
histories holds for every backend at once.
-/

namespace GpuDriverLab
set_option autoImplicit false
open Rust

/-- A successful call that changed the driver, as the client sees it. -/
inductive DriverEvent where
  | loaded (image : List UInt8)
  | started
  | allocated (id : BufferId) (capacity : Nat)
  | wrote (id : BufferId) (data : List UInt8)
  | submitted (request : SubmissionRequest)
  | returned (submission : ValidatedSubmission)
deriving DecidableEq

/-- The event of a call and its result; errors and queries have none. -/
def driverEvent {E : Type} : DriverOp × DriverResult E → Option DriverEvent
  | (.loadFirmware image, .done (.ok ())) => some (.loaded image)
  | (.start, .done (.ok ())) => some .started
  | (.allocateBuffer capacity, .allocated (.ok id)) => some (.allocated id capacity)
  | (.writeBuffer id data, .done (.ok ())) => some (.wrote id data)
  | (.submit bufferId command, .done (.ok ())) => some (.submitted { bufferId, command })
  | (.nextSubmission, .submission (some submission)) => some (.returned submission)
  | _ => none

def genericEvent {E : Type} : GenericOp × DriverResult E → Option DriverEvent
  | (.common op, r) => driverEvent (op, r)
  | _ => none

def driverEvents {E : Type} (t : List (DriverOp × DriverResult E)) : List DriverEvent :=
  t.filterMap driverEvent

def genericEvents {E : Type} (t : List (GenericOp × DriverResult E)) : List DriverEvent :=
  t.filterMap genericEvent

/-- What a driver consists of, whatever holds its queue. -/
structure DriverView where
  controller : DeviceController
  device : GpuDevice
  work : SubmissionFifo

/-- Everything one call can do to a driver. -/
inductive DriverEffect : DriverView → Option DriverEvent → DriverView → Prop where
  | idle (v : DriverView) : DriverEffect v none v
  | loaded {v : DriverView} {image : List UInt8} (offline : v.controller.state = .offline)
      (header : DeviceController.WellFormedImage image) :
      DriverEffect v (some (.loaded image)) { v with
        controller.state := .firmwareLoaded { major := 1, minor := DeviceController.imageMinor image } }
  | started {v : DriverView} {info : FirmwareInfo} (loaded : v.controller.state = .firmwareLoaded info) :
      DriverEffect v (some .started) { v with controller.state := .ready info }
  | allocated {v : DriverView} {id : BufferId} {capacity : Nat} {device : GpuDevice}
      (ready : v.controller.IsReady) (effect : GpuDevice.Effect v.device (some (.allocated id capacity)) device) :
      DriverEffect v (some (.allocated id capacity)) { v with device }
  | wrote {v : DriverView} {id : BufferId} {data : List UInt8} {device : GpuDevice}
      (ready : v.controller.IsReady) (effect : GpuDevice.Effect v.device (some (.wrote id data)) device) :
      DriverEffect v (some (.wrote id data)) { v with device }
  | submitted {v : DriverView} {submission : ValidatedSubmission} {work : SubmissionFifo}
      (ready : v.controller.IsReady)
      (valid : validateSubmission v.device submission.request = .ret (.ok submission))
      (capacity : work.capacity = v.work.capacity) (items : work.items = v.work.items ++ [submission]) :
      DriverEffect v (some (.submitted submission.request)) { v with work }
  | returned {v : DriverView} {submission : ValidatedSubmission} {work : SubmissionFifo}
      (capacity : work.capacity = v.work.capacity) (items : v.work.items = submission :: work.items) :
      DriverEffect v (some (.returned submission)) { v with work }

/-- The events `es` lead from `v₀` to the indexed view. -/
inductive DriverHistory (v₀ : DriverView) : List DriverEvent → DriverView → Prop where
  | start : DriverHistory v₀ [] v₀
  | next {es : List DriverEvent} {v v' : DriverView} {e : Option DriverEvent} :
      DriverHistory v₀ es v → DriverEffect v e v' → DriverHistory v₀ (es ++ e.toList) v'

theorem genericEvents_snoc {E : Type} (t : List (GenericOp × DriverResult E)) (op : GenericOp) (r : DriverResult E) :
    genericEvents (t ++ [(op, r)]) = genericEvents t ++ (genericEvent (op, r)).toList := by
  cases h : genericEvent (op, r) <;> simp [genericEvents, h]

namespace GenericGpuDriver

variable {Q : Type} [SubmissionQueue Q]

/-- The driver's parts are those of the view, its queue represented. -/
structure Shows (backend : FifoBackend Q) (driver : GenericGpuDriver Q) (v : DriverView) : Prop where
  controller : driver.controller = v.controller
  device : driver.device = v.device
  queue : backend.Rep driver.queue v.work

/-- One call returns, leaves a represented driver, and has the effect of its event. -/
def Steps (backend : FifoBackend Q) (driver : GenericGpuDriver Q) (v : DriverView) (op : GenericOp) : Prop :=
  ∃ r driver' v', (genericMachine Q).step driver op = .ret (r, driver') ∧ Shows backend driver' v' ∧
    DriverEffect v (genericEvent (op, r)) v'

variable {backend : FifoBackend Q} {driver : GenericGpuDriver Q} {v : DriverView}

namespace Shows

/-- A call that changes nothing. -/
theorem idle (shows_ : Shows backend driver v) {op : GenericOp} {r : DriverResult (Error Q)}
    (step : (genericMachine Q).step driver op = .ret (r, driver)) (quiet : genericEvent (op, r) = none) :
    Steps backend driver v op := by
  refine ⟨r, driver, v, step, shows_, ?_⟩
  rw [quiet]
  exact .idle v

theorem loadFirmware (shows_ : Shows backend driver v) (image : List UInt8) :
    Steps backend driver v (.common (.loadFirmware image)) := by
  rcases driver.controller.loadFirmware_cases image with ⟨offline, header, run⟩ | ⟨-, e, run⟩
  · refine ⟨.done (.ok ()), _, _, by simp only [genericMachine, GenericGpuDriver.loadFirmware, run]; rfl, ?_,
      .loaded (by rw [← shows_.controller]; exact offline) header⟩
    exact ⟨rfl, shows_.device, shows_.queue⟩
  · exact shows_.idle (r := .done (.error (.state e)))
      (by simp only [genericMachine, GenericGpuDriver.loadFirmware, run]; rfl) rfl

theorem start (shows_ : Shows backend driver v) : Steps backend driver v (.common .start) := by
  rcases driver.controller.start_cases with ⟨info, loaded, run⟩ | ⟨-, run⟩
  · refine ⟨.done (.ok ()), _, _, by simp only [genericMachine, GenericGpuDriver.start, run]; rfl, ?_,
      .started (by rw [← shows_.controller]; exact loaded)⟩
    exact ⟨rfl, shows_.device, shows_.queue⟩
  · exact shows_.idle (r := .done (.error (.state _)))
      (by simp only [genericMachine, GenericGpuDriver.start, run]; rfl) rfl

theorem ready (shows_ : Shows backend driver v) {info : FirmwareInfo}
    (ready : driver.controller.ensureReady = .ok info) : v.controller.IsReady := by
  rw [← shows_.controller]
  exact DeviceController.isReady_iff.mpr ⟨info, ready⟩

theorem allocateBuffer (shows_ : Shows backend driver v) (capacity : Nat) :
    Steps backend driver v (.common (.allocateBuffer capacity)) := by
  cases ready : driver.controller.ensureReady with
  | error e =>
    exact shows_.idle (r := .allocated (.error (.state e)))
      (by simp only [genericMachine, GenericGpuDriver.allocateBuffer, ready]) rfl
  | ok info =>
    have effect := GpuDevice.allocateBuffer_effect driver.device capacity
    cases run : driver.device.allocateBuffer capacity with
    | mk result device =>
      rw [run] at effect
      cases result with
      | error e =>
        cases effect
        exact shows_.idle (r := .allocated (.error (.buffer e)))
          (by simp only [genericMachine, GenericGpuDriver.allocateBuffer, ready, run]; rfl) rfl
      | ok id =>
        refine ⟨.allocated (.ok id), _, _,
          by simp only [genericMachine, GenericGpuDriver.allocateBuffer, ready, run]; rfl, ?_,
          .allocated (shows_.ready ready) (by rw [← shows_.device]; exact effect)⟩
        exact ⟨shows_.controller, rfl, shows_.queue⟩

theorem writeBuffer (shows_ : Shows backend driver v) (id : BufferId) (data : List UInt8) :
    Steps backend driver v (.common (.writeBuffer id data)) := by
  cases ready : driver.controller.ensureReady with
  | error e =>
    exact shows_.idle (r := .done (.error (.state e)))
      (by simp only [genericMachine, GenericGpuDriver.writeBuffer, ready]; rfl) rfl
  | ok info =>
    obtain ⟨result, device, run, effect⟩ := GpuDevice.writeBuffer_effect driver.device id data
    cases result with
    | error e =>
      cases effect
      exact shows_.idle (r := .done (.error (.buffer e)))
        (by simp only [genericMachine, GenericGpuDriver.writeBuffer, ready, run]; rfl) rfl
    | ok =>
      refine ⟨.done (.ok ()), _, _, by simp only [genericMachine, GenericGpuDriver.writeBuffer, ready, run]; rfl,
        ?_, .wrote (shows_.ready ready) (by rw [← shows_.device]; exact effect)⟩
      exact ⟨shows_.controller, rfl, shows_.queue⟩

/-- A submission passes readiness, validation and the queue, or leaves no trace. -/
theorem submit (shows_ : Shows backend driver v) (bufferId : BufferId) (command : RawCommand) :
    Steps backend driver v (.common (.submit bufferId command)) := by
  cases ready : driver.controller.ensureReady with
  | error e =>
    exact shows_.idle (r := .done (.error (.state e)))
      (by simp only [genericMachine, GenericGpuDriver.submit, ready]; rfl) rfl
  | ok info =>
    obtain ⟨checked, check⟩ : (validateSubmission driver.device { bufferId, command }).Returns :=
      validateSubmission_returns
    cases checked with
    | error e =>
      exact shows_.idle (r := .done (.error (.submission e)))
        (by simp only [genericMachine, GenericGpuDriver.submit, ready, check]; rfl) rfl
    | ok submission =>
      obtain ⟨queue, run, rep⟩ := backend.enqueue driver.queue v.work shows_.queue submission
      have same : submission.request = { bufferId, command } := (validateSubmission_eq_ok.mp check).1
      rcases v.work.enqueue_cases submission with ⟨why, refused⟩ | ⟨work, accepted, capacity, items⟩
      · rw [refused] at run rep
        refine ⟨.done (.error (.queue (backend.refused why))), { driver with queue }, v,
          by simp only [genericMachine, GenericGpuDriver.submit, ready, check, run, Exec.bind_def, Exec.ret_bind]; rfl,
          ⟨shows_.controller, shows_.device, rep⟩, .idle v⟩
      · rw [accepted] at run rep
        refine ⟨.done (.ok ()), { driver with queue }, { v with work },
          by simp only [genericMachine, GenericGpuDriver.submit, ready, check, run, Exec.bind_def, Exec.ret_bind]; rfl,
          ⟨shows_.controller, shows_.device, rep⟩, ?_⟩
        have effect : DriverEffect v (some (.submitted submission.request)) { v with work } :=
          .submitted (shows_.ready ready) (by rw [same, ← shows_.device]; exact check) capacity items
        rw [same] at effect
        exact effect

theorem nextSubmission (shows_ : Shows backend driver v) :
    Steps backend driver v (.common .nextSubmission) := by
  obtain ⟨queue, run, rep⟩ := backend.dequeue driver.queue v.work shows_.queue
  rcases v.work.dequeue_cases with ⟨-, empty⟩ | ⟨submission, work, taken, capacity, items⟩
  · rw [empty] at run rep
    exact ⟨.submission none, { driver with queue }, v,
      by simp only [genericMachine, GenericGpuDriver.nextSubmission, run, Exec.bind_def, Exec.ret_bind]; rfl,
      ⟨shows_.controller, shows_.device, rep⟩, .idle v⟩
  · rw [taken] at run rep
    exact ⟨.submission (some submission), { driver with queue }, { v with work },
      by simp only [genericMachine, GenericGpuDriver.nextSubmission, run, Exec.bind_def, Exec.ret_bind]; rfl,
      ⟨shows_.controller, shows_.device, rep⟩, .returned capacity items⟩

/-- **Step lemma.** Every call on a represented driver. -/
theorem step (shows_ : Shows backend driver v) (op : GenericOp) : Steps backend driver v op := by
  cases op with
  | common op =>
    cases op with
    | loadFirmware image => exact shows_.loadFirmware image
    | start => exact shows_.start
    | allocateBuffer capacity => exact shows_.allocateBuffer capacity
    | writeBuffer id data => exact shows_.writeBuffer id data
    | submit bufferId command => exact shows_.submit bufferId command
    | nextSubmission => exact shows_.nextSubmission
    | queuedLen =>
      exact shows_.idle (by simp only [genericMachine, queuedLen, backend.len _ _ shows_.queue]; rfl) rfl
    | isQueueFull =>
      exact shows_.idle (by simp only [genericMachine, isQueueFull, backend.isFull _ _ shows_.queue]; rfl) rfl
    | state => exact shows_.idle rfl rfl
  | peekSubmission =>
    exact shows_.idle (by simp only [genericMachine, peekSubmission, backend.peek _ _ shows_.queue]; rfl) rfl
  | isQueueEmpty =>
    exact shows_.idle (by simp only [genericMachine, isQueueEmpty, backend.isEmpty _ _ shows_.queue]; rfl) rfl

/-- **Run lemma.** Every run of a represented driver returns and is a history. -/
theorem run (shows_ : Shows backend driver v) (ops : List GenericOp) :
    ∃ rs driver' v', (genericMachine Q).run driver ops = .ret (rs, driver') ∧ Shows backend driver' v' ∧
      DriverHistory v (genericEvents (ops.zip rs)) v' := by
  induction ops using List.reverseRecOn with
  | nil => exact ⟨[], driver, v, rfl, shows_, .start⟩
  | append_singleton ops op ih =>
    obtain ⟨rs, middle, m, before, shown, history⟩ := ih
    obtain ⟨r, driver', v', step, shown', effect⟩ := shown.step op
    refine ⟨rs ++ [r], driver', v', Machine.run_snoc.mpr ⟨middle, before, step⟩, shown', ?_⟩
    rw [List.zip_append (Machine.run_length before).symm, List.zip_cons_cons, List.zip_nil_left, genericEvents_snoc]
    exact .next history effect

/-- The driver at the end of a given history. -/
theorem trace (shows_ : Shows backend driver v) {t : List (GenericOp × DriverResult (Error Q))}
    {driver' : GenericGpuDriver Q} (h : (genericMachine Q).Trace driver t driver') :
    ∃ v', Shows backend driver' v' ∧ DriverHistory v (genericEvents t) v' := by
  induction h with
  | nil => exact ⟨v, shows_, .start⟩
  | @snoc t m m' op r _ step ih =>
    obtain ⟨middle, shown, history⟩ := ih
    obtain ⟨r', after, v', step', shown', effect⟩ := shown.step op
    rw [step] at step'
    cases step'
    rw [genericEvents_snoc]
    exact ⟨v', shown', .next history effect⟩

end Shows

end GenericGpuDriver

end GpuDriverLab
