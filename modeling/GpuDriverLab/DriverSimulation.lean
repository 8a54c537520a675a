import GpuDriverLab.DriverRun

/-!
# The simulated driver is the generic one

The simulated driver steps as the generic driver over the growable queue, up to
the names of the errors; and generic drivers over related queues step alike.
Both are simulations, so they carry from steps to runs.
-/

namespace GpuDriverLab
set_option autoImplicit false
open Rust

/-- Results of one call to two drivers whose error types differ. -/
inductive SameDriverResult {E₁ E₂ : Type} (E : E₁ → E₂ → Prop) : DriverResult E₁ → DriverResult E₂ → Prop where
  | done {r₁ : Except E₁ Unit} {r₂ : Except E₂ Unit} (same : SameOutcome E r₁ r₂) :
      SameDriverResult E (.done r₁) (.done r₂)
  | allocated {r₁ : Except E₁ BufferId} {r₂ : Except E₂ BufferId} (same : SameOutcome E r₁ r₂) :
      SameDriverResult E (.allocated r₁) (.allocated r₂)
  | submission (r : Option ValidatedSubmission) : SameDriverResult E (.submission r) (.submission r)
  | len (n : Nat) : SameDriverResult E (.len n) (.len n)
  | flag (b : Bool) : SameDriverResult E (.flag b) (.flag b)
  | state (s : DeviceState) : SameDriverResult E (.state s) (.state s)

/-- The errors of the simulated driver and of the generic one, constructor by constructor. -/
inductive SameApiError : DriverApiError → GenericDriverError QueueError → Prop where
  | state (e : StateError) : SameApiError (.state e) (.state e)
  | buffer (e : DriverError) : SameApiError (.buffer e) (.buffer e)
  | submission (e : SubmissionError) : SameApiError (.submission e) (.submission e)
  | queue (e : QueueError) : SameApiError (.queue e) (.queue e)

/-- Generic errors over two backends, the queue's own errors related by `E`. -/
inductive SameGenericError {E₁ E₂ : Type} (E : E₁ → E₂ → Prop) :
    GenericDriverError E₁ → GenericDriverError E₂ → Prop where
  | state (e : StateError) : SameGenericError E (.state e) (.state e)
  | buffer (e : DriverError) : SameGenericError E (.buffer e) (.buffer e)
  | submission (e : SubmissionError) : SameGenericError E (.submission e) (.submission e)
  | queue {e₁ : E₁} {e₂ : E₂} (related : E e₁ e₂) : SameGenericError E (.queue e₁) (.queue e₂)

/-- One result, reported under two error types. -/
theorem SameOutcome.mapError {E₀ E₁ E₂ α : Type} {E : E₁ → E₂ → Prop} {f : E₀ → E₁} {g : E₀ → E₂}
    (related : ∀ e, E (f e) (g e)) (r : Except E₀ α) : SameOutcome E (r.mapError f) (r.mapError g) := by
  cases r with
  | ok a => exact .ok a
  | error e => exact .error (related e)

theorem SameOutcome.mapError_rel {E₁ E₂ F₁ F₂ α : Type} {E : E₁ → E₂ → Prop} {F : F₁ → F₂ → Prop} {f : E₁ → F₁}
    {g : E₂ → F₂} (related : ∀ e₁ e₂, E e₁ e₂ → F (f e₁) (g e₂)) {r₁ : Except E₁ α} {r₂ : Except E₂ α}
    (same : SameOutcome E r₁ r₂) : SameOutcome F (r₁.mapError f) (r₂.mapError g) := by
  cases same with
  | ok a => exact .ok a
  | error e => exact .error (related _ _ e)

/-- Corresponding results are the same event. -/
theorem SameDriverResult.event {E₁ E₂ : Type} {E : E₁ → E₂ → Prop} {r₁ : DriverResult E₁} {r₂ : DriverResult E₂}
    (same : SameDriverResult E r₁ r₂) (op : DriverOp) : driverEvent (op, r₁) = driverEvent (op, r₂) := by
  cases same with
  | done same => cases same <;> cases op <;> rfl
  | allocated same => cases same <;> cases op <;> rfl
  | submission r => cases r <;> cases op <;> rfl
  | len | flag | state => cases op <;> rfl

theorem SameDriverResult.events {E₁ E₂ : Type} {E : E₁ → E₂ → Prop} {rs₁ : List (DriverResult E₁)}
    {rs₂ : List (DriverResult E₂)} (same : List.Forall₂ (SameDriverResult E) rs₁ rs₂) (ops : List DriverOp) :
    driverEvents (ops.zip rs₁) = driverEvents (ops.zip rs₂) := by
  induction same generalizing ops with
  | nil =>
    rw [List.zip_nil_right, List.zip_nil_right]
    rfl
  | cons first _ ih =>
    cases ops with
    | nil => rfl
    | cons op ops =>
      simp only [driverEvents, List.zip_cons_cons, List.filterMap_cons, first.event op] at ih ⊢
      rw [ih ops]

/-- The generic driver under the calls that every driver offers. -/
def commonMachine (Q : Type) [SubmissionQueue Q] :
    Machine (GenericGpuDriver Q) DriverOp (DriverResult (GenericGpuDriver.Error Q)) where
  step driver op := (genericMachine Q).step driver (.common op)

theorem commonMachine_run {Q : Type} [SubmissionQueue Q] (driver : GenericGpuDriver Q) (ops : List DriverOp) :
    (commonMachine Q).run driver ops = (genericMachine Q).run driver (ops.map .common) := by
  induction ops generalizing driver with
  | nil => rfl
  | cons op ops ih =>
    show (((genericMachine Q).step driver (.common op)).bind fun p =>
      ((commonMachine Q).run p.2 ops).bind fun q => .ret (p.1 :: q.1, q.2)) = _
    simp only [ih]
    rfl

theorem driverEvents_common {E : Type} (ops : List DriverOp) (rs : List (DriverResult E)) :
    genericEvents ((ops.map .common).zip rs) = driverEvents (ops.zip rs) := by
  rw [genericEvents, driverEvents, List.zip_map_left, List.filterMap_map]
  rfl

namespace SimulatedGpuDriver

/-- The same parts, as a generic driver over the growable queue. -/
def generic (driver : SimulatedGpuDriver) : GenericGpuDriver CommandQueue :=
  { controller := driver.controller, device := driver.device, queue := driver.queue }

/-- What a call to the simulated driver has in common with the same call to the generic one. -/
def Alike (p : DriverResult DriverApiError × SimulatedGpuDriver)
    (g : DriverResult (GenericGpuDriver.Error CommandQueue) × GenericGpuDriver CommandQueue) : Prop :=
  SameDriverResult SameApiError p.1 g.1 ∧ p.2.generic = g.2

/-- **Step simulation.** Every call, on the error paths too. -/
theorem step_generic (driver : SimulatedGpuDriver) (op : DriverOp) :
    (simulatedMachine.step driver op).Rel Alike ((commonMachine CommandQueue).step driver.generic op) := by
  cases op with
  | loadFirmware image =>
    have part : ∃ r c, driver.controller.loadFirmware image = .ret (r, c) := by
      rcases driver.controller.loadFirmware_cases image with ⟨-, -, run⟩ | ⟨-, e, run⟩
      · exact ⟨_, _, run⟩
      · exact ⟨_, _, run⟩
    obtain ⟨r, c, run⟩ := part
    simp only [simulatedMachine, commonMachine, genericMachine, loadFirmware, GenericGpuDriver.loadFirmware, generic,
      run, Exec.bind_def, Exec.ret_bind]
    exact ⟨.done (.mapError .state r), rfl⟩
  | start => exact ⟨.done (.mapError .state _), rfl⟩
  | allocateBuffer capacity =>
    simp only [simulatedMachine, commonMachine, genericMachine, allocateBuffer, GenericGpuDriver.allocateBuffer,
      generic]
    cases driver.controller.ensureReady with
    | error e => exact ⟨.allocated (.error (.state e)), rfl⟩
    | ok info => exact ⟨.allocated (.mapError .buffer _), rfl⟩
  | writeBuffer id data =>
    obtain ⟨r, device, run, -⟩ := GpuDevice.writeBuffer_effect driver.device id data
    simp only [simulatedMachine, commonMachine, genericMachine, writeBuffer, GenericGpuDriver.writeBuffer, generic,
      run, Exec.bind_def, Exec.ret_bind]
    cases driver.controller.ensureReady with
    | error e => exact ⟨.done (.error (.state e)), rfl⟩
    | ok info => exact ⟨.done (.mapError .buffer r), rfl⟩
  | submit bufferId command =>
    obtain ⟨checked, check⟩ : (validateSubmission driver.device { bufferId, command }).Returns :=
      validateSubmission_returns
    simp only [simulatedMachine, commonMachine, genericMachine, submit, GenericGpuDriver.submit, generic, check,
      Exec.bind_def, Exec.ret_bind]
    cases driver.controller.ensureReady with
    | error e => exact ⟨.done (.error (.state e)), rfl⟩
    | ok info =>
      cases checked with
      | error e => exact ⟨.done (.error (.submission e)), rfl⟩
      | ok submission => exact ⟨.done (.mapError .queue _), rfl⟩
  | nextSubmission => exact ⟨.submission _, rfl⟩
  | queuedLen => exact ⟨.len _, rfl⟩
  | isQueueFull => exact ⟨.flag _, rfl⟩
  | state => exact ⟨.state _, rfl⟩

/-- **Run simulation.** -/
theorem run_generic (driver : SimulatedGpuDriver) (ops : List DriverOp) :
    (simulatedMachine.run driver ops).Rel
      (fun p g => List.Forall₂ (SameDriverResult SameApiError) p.1 g.1 ∧ p.2.generic = g.2)
      ((commonMachine CommandQueue).run driver.generic ops) := by
  have step : ∀ (d : SimulatedGpuDriver) (g : GenericGpuDriver CommandQueue) (op : DriverOp), d.generic = g →
      (simulatedMachine.step d op).Rel Alike ((commonMachine CommandQueue).step g op) := by
    rintro d _ op rfl
    exact d.step_generic op
  exact Machine.run_rel step rfl ops

end SimulatedGpuDriver

namespace QueueBisimulation

variable {Q₁ Q₂ : Type} [SubmissionQueue Q₁] [SubmissionQueue Q₂] {S : Q₁ → Q₂ → Prop}
  {E : SubmissionQueue.Error Q₁ → SubmissionQueue.Error Q₂ → Prop}

/-- Drivers with equal controllers and devices over related queues. -/
structure Drivers (S : Q₁ → Q₂ → Prop) (g₁ : GenericGpuDriver Q₁) (g₂ : GenericGpuDriver Q₂) : Prop where
  controller : g₁.controller = g₂.controller
  device : g₁.device = g₂.device
  queue : S g₁.queue g₂.queue

/-- **Step simulation.** Generic drivers over related queues answer every call alike. -/
theorem driver_step (bisim : QueueBisimulation Q₁ Q₂ S E) (g₁ : GenericGpuDriver Q₁) (g₂ : GenericGpuDriver Q₂)
    (op : GenericOp) (related : Drivers S g₁ g₂) :
    ((genericMachine Q₁).step g₁ op).Rel
      (fun p₁ p₂ => SameDriverResult (SameGenericError E) p₁.1 p₂.1 ∧ Drivers S p₁.2 p₂.2)
      ((genericMachine Q₂).step g₂ op) := by
  obtain ⟨controller, device, q₁⟩ := g₁
  obtain ⟨controller₂, device₂, q₂⟩ := g₂
  obtain ⟨same, same', queues⟩ := related
  cases same
  cases same'
  cases op with
  | common op =>
    cases op with
    | loadFirmware image =>
      simp only [genericMachine, GenericGpuDriver.loadFirmware]
      cases controller.loadFirmware image with
      | panic why => trivial
      | ret p => exact ⟨.done (.mapError .state p.1), rfl, rfl, queues⟩
    | start => exact ⟨.done (.mapError .state _), rfl, rfl, queues⟩
    | allocateBuffer capacity =>
      simp only [genericMachine, GenericGpuDriver.allocateBuffer]
      cases controller.ensureReady with
      | error e => exact ⟨.allocated (.error (.state e)), rfl, rfl, queues⟩
      | ok info => exact ⟨.allocated (.mapError .buffer _), rfl, rfl, queues⟩
    | writeBuffer id data =>
      simp only [genericMachine, GenericGpuDriver.writeBuffer]
      cases controller.ensureReady with
      | error e => exact ⟨.done (.error (.state e)), rfl, rfl, queues⟩
      | ok info =>
        cases device.writeBuffer id data with
        | panic why => trivial
        | ret p => exact ⟨.done (.mapError .buffer p.1), rfl, rfl, queues⟩
    | submit bufferId command =>
      simp only [genericMachine, GenericGpuDriver.submit]
      cases controller.ensureReady with
      | error e => exact ⟨.done (.error (.state e)), rfl, rfl, queues⟩
      | ok info =>
        cases validateSubmission device { bufferId, command } with
        | panic why => trivial
        | ret checked =>
          cases checked with
          | error e => exact ⟨.done (.error (.submission e)), rfl, rfl, queues⟩
          | ok submission =>
            simp only [Exec.bind_def, Exec.ret_bind, Exec.bind_bind, Exec.pure_def]
            apply Exec.Rel.bind (bisim.enqueue q₁ q₂ submission queues)
            rintro ⟨r₁, q₁'⟩ ⟨r₂, q₂'⟩ ⟨outcome, after⟩
            exact ⟨.done (outcome.mapError_rel fun _ _ => .queue), rfl, rfl, after⟩
    | nextSubmission =>
      simp only [genericMachine, GenericGpuDriver.nextSubmission, Exec.bind_def, Exec.ret_bind, Exec.bind_bind,
        Exec.pure_def]
      apply Exec.Rel.bind (bisim.dequeue q₁ q₂ queues)
      rintro ⟨r₁, q₁'⟩ ⟨r₂, q₂'⟩ ⟨outcome, after⟩
      cases outcome
      exact ⟨.submission r₁, rfl, rfl, after⟩
    | queuedLen =>
      apply Exec.Rel.bind (bisim.len q₁ q₂ queues)
      rintro n _ rfl
      exact ⟨.len n, rfl, rfl, queues⟩
    | isQueueFull =>
      apply Exec.Rel.bind (bisim.isFull q₁ q₂ queues)
      rintro b _ rfl
      exact ⟨.flag b, rfl, rfl, queues⟩
    | state => exact ⟨.state _, rfl, rfl, queues⟩
  | peekSubmission =>
    apply Exec.Rel.bind (bisim.peek q₁ q₂ queues)
    rintro r _ rfl
    exact ⟨.submission r, rfl, rfl, queues⟩
  | isQueueEmpty =>
    apply Exec.Rel.bind (bisim.isEmpty q₁ q₂ queues)
    rintro b _ rfl
    exact ⟨.flag b, rfl, rfl, queues⟩

end QueueBisimulation

end GpuDriverLab
