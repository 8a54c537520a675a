import GpuDriverLab.TypedRun

/-!
# Marker and runtime state

`change_state` converts the marker without looking at the driver. That the two
agree is an invariant of the calls that the types admit: the marker moves with
the events of the controller, and both are determined by the images accepted.
-/

namespace GpuDriverLab
set_option autoImplicit false
open Rust

/-- The images for which `load_firmware` returned `Ok`, in order. -/
def acceptedImages (es : List DriverEvent) : List (List UInt8) :=
  es.filterMap fun e =>
    match e with
    | .loaded image => some image
    | _ => none

/-- Marker and runtime state along the lifecycle, given the accepted images. -/
inductive Lifecycle : List (List UInt8) → DriverState → DeviceState → Prop where
  | offline : Lifecycle [] .offline .offline
  | firmwareLoaded (image : List UInt8) :
      Lifecycle [image] .firmwareLoaded (.firmwareLoaded { major := 1, minor := DeviceController.imageMinor image })
  | ready (image : List UInt8) :
      Lifecycle [image] .ready (.ready { major := 1, minor := DeviceController.imageMinor image })

/-- The event is not one of the controller's. -/
def Quiet (e : Option DriverEvent) : Prop := (∀ image, e ≠ some (.loaded image)) ∧ e ≠ some .started

/-- What a call can do to the runtime state, whatever the queue. -/
inductive StateStep : DeviceState → Option DriverEvent → DeviceState → Prop where
  | other {s : DeviceState} {e : Option DriverEvent} (quiet : Quiet e) : StateStep s e s
  | loaded (image : List UInt8) : StateStep .offline (some (.loaded image))
      (.firmwareLoaded { major := 1, minor := DeviceController.imageMinor image })
  | started (info : FirmwareInfo) : StateStep (.firmwareLoaded info) (some .started) (.ready info)

/-- What a typed call can do to the marker. -/
inductive MarkerStep : DriverState → Option DriverEvent → DriverState → Prop where
  | other {S : DriverState} {e : Option DriverEvent} (quiet : Quiet e) : MarkerStep S e S
  | loaded (image : List UInt8) : MarkerStep .offline (some (.loaded image)) .firmwareLoaded
  | started : MarkerStep .firmwareLoaded (some .started) .ready

theorem quiet_none : Quiet none := ⟨by simp, by simp⟩

theorem driverEvent_loaded {E : Type} {op : DriverOp} {r : DriverResult E} {image : List UInt8}
    (same : driverEvent (op, r) = some (.loaded image)) : op = .loadFirmware image := by
  unfold driverEvent at same
  split at same <;> cases same
  rename_i call
  cases call
  rfl

theorem driverEvent_started {E : Type} {op : DriverOp} {r : DriverResult E}
    (same : driverEvent (op, r) = some .started) : op = .start := by
  unfold driverEvent at same
  split at same <;> cases same
  rename_i call
  cases call
  rfl

theorem quiet_of_call {E : Type} {op : DriverOp} {r : DriverResult E} (load : ∀ image, op ≠ .loadFirmware image)
    (start : op ≠ .start) : Quiet (driverEvent (op, r)) :=
  ⟨fun image same => load image (driverEvent_loaded same), fun same => start (driverEvent_started same)⟩

theorem generic_quiet {E : Type} {op : GenericOp} {r : DriverResult E}
    (load : ∀ image, op ≠ .common (.loadFirmware image)) (start : op ≠ .common .start) :
    Quiet (genericEvent (op, r)) := by
  cases op with
  | common op => exact quiet_of_call (fun image h => load image (by rw [h])) (fun h => start (by rw [h]))
  | peekSubmission | isQueueEmpty => exact quiet_none

/-- **Step lemma.** Marker and state move together. -/
theorem Lifecycle.step {images : List (List UInt8)} {S S' : DriverState} {s s' : DeviceState}
    {e : Option DriverEvent} (life : Lifecycle images S s) (state : StateStep s e s') (marker : MarkerStep S e S') :
    Lifecycle (images ++ acceptedImages e.toList) S' s' := by
  cases state with
  | other quiet =>
    have none_ : acceptedImages e.toList = [] := by
      cases e with
      | none => rfl
      | some e =>
        cases e with
        | loaded image => exact (quiet.1 image rfl).elim
        | started | allocated | wrote | submitted | returned => rfl
    rw [none_, List.append_nil]
    cases marker with
    | other => exact life
    | loaded image => exact (quiet.1 image rfl).elim
    | started => exact (quiet.2 rfl).elim
  | loaded image =>
    cases life
    cases marker with
    | other quiet => exact (quiet.1 image rfl).elim
    | loaded => exact .firmwareLoaded image
  | started info =>
    cases life with
    | firmwareLoaded image =>
      cases marker with
      | other quiet => exact (quiet.2 rfl).elim
      | started => exact .ready image

theorem Lifecycle.kind {images : List (List UInt8)} {S : DriverState} {s : DeviceState}
    (life : Lifecycle images S s) : s.kind = S.kind := by
  cases life <;> rfl

namespace GenericGpuDriver

variable {Q : Type} [SubmissionQueue Q] {driver driver' : GenericGpuDriver Q}

/-- Loading moves the state forward or leaves it. -/
theorem loadFirmware_state {image : List UInt8} {r : DriverResult (Error Q)}
    (step : (genericMachine Q).step driver (.common (.loadFirmware image)) = .ret (r, driver')) :
    StateStep driver.state (driverEvent (.loadFirmware image, r)) driver'.state := by
  simp only [genericMachine, loadFirmware] at step
  rcases driver.controller.loadFirmware_cases image with ⟨offline, -, run⟩ | ⟨-, e, run⟩
  · rw [run] at step
    cases step
    rw [show driver.state = .offline from offline]
    exact .loaded image
  · rw [run] at step
    cases step
    exact .other quiet_none

theorem start_state {r : DriverResult (Error Q)}
    (step : (genericMachine Q).step driver (.common .start) = .ret (r, driver')) :
    StateStep driver.state (driverEvent (.start, r)) driver'.state := by
  simp only [genericMachine, start] at step
  rcases driver.controller.start_cases with ⟨info, loaded, run⟩ | ⟨-, run⟩
  · rw [run] at step
    cases step
    rw [show driver.state = .firmwareLoaded info from loaded]
    exact .started info
  · rw [run] at step
    cases step
    exact .other quiet_none

/-- Every other call leaves the controller alone, whatever the queue does. -/
theorem controller_eq {op : GenericOp} {r : DriverResult (Error Q)}
    (step : (genericMachine Q).step driver op = .ret (r, driver')) (load : ∀ image, op ≠ .common (.loadFirmware image))
    (start : op ≠ .common .start) : driver'.controller = driver.controller := by
  cases op with
  | common op =>
    cases op with
    | loadFirmware image => exact (load image rfl).elim
    | start => exact (start rfl).elim
    | allocateBuffer capacity =>
      simp only [genericMachine, allocateBuffer] at step
      split at step <;> cases step <;> rfl
    | writeBuffer id data =>
      simp only [genericMachine, writeBuffer] at step
      split at step
      · cases step
        rfl
      · obtain ⟨_, inner, step⟩ := Exec.bind_eq_ret.mp step
        obtain ⟨_, _, inner⟩ := Exec.bind_eq_ret.mp inner
        cases inner
        cases step
        rfl
    | submit bufferId command =>
      simp only [genericMachine, submit] at step
      split at step
      · cases step
        rfl
      · obtain ⟨_, inner, step⟩ := Exec.bind_eq_ret.mp step
        cases step
        obtain ⟨checked, _, inner⟩ := Exec.bind_eq_ret.mp inner
        cases checked with
        | error e =>
          cases inner
          rfl
        | ok submission =>
          obtain ⟨_, _, inner⟩ := Exec.bind_eq_ret.mp inner
          cases inner
          rfl
    | nextSubmission =>
      obtain ⟨_, inner, step⟩ := Exec.bind_eq_ret.mp step
      cases step
      obtain ⟨_, _, inner⟩ := Exec.bind_eq_ret.mp inner
      cases inner
      rfl
    | queuedLen | isQueueFull =>
      obtain ⟨_, _, step⟩ := Exec.bind_eq_ret.mp step
      cases step
      rfl
    | state =>
      cases step
      rfl
  | peekSubmission | isQueueEmpty =>
    obtain ⟨_, _, step⟩ := Exec.bind_eq_ret.mp step
    cases step
    rfl

theorem step_state {op : GenericOp} {r : DriverResult (Error Q)}
    (step : (genericMachine Q).step driver op = .ret (r, driver')) :
    StateStep driver.state (genericEvent (op, r)) driver'.state := by
  by_cases load : ∃ image, op = .common (.loadFirmware image)
  · obtain ⟨image, rfl⟩ := load
    exact loadFirmware_state step
  · by_cases start : op = .common .start
    · subst start
      exact start_state step
    · have same := controller_eq step (fun image h => load ⟨image, h⟩) start
      unfold GenericGpuDriver.state
      rw [same]
      exact .other (generic_quiet (fun image h => load ⟨image, h⟩) start)

end GenericGpuDriver

/-- The simulated driver's state moves as that of the generic one. -/
theorem SimulatedGpuDriver.step_state {driver driver' : SimulatedGpuDriver} {op : DriverOp}
    {r : DriverResult DriverApiError} (step : simulatedMachine.step driver op = .ret (r, driver')) :
    StateStep driver.state (driverEvent (op, r)) driver'.state := by
  have alike := driver.step_generic op
  rw [step] at alike
  obtain ⟨⟨r', g⟩, step', result, same⟩ := alike.ret_left
  have generic : StateStep driver.generic.state (genericEvent (.common op, r')) g.state :=
    GenericGpuDriver.step_state step'
  have under : driver'.generic = g := same
  rw [← under] at generic
  rw [result.event op]
  exact generic

section StateErrors

/-- A converted error is a value of the conversion. -/
theorem mapError_ne {E F α : Type} {f : E → F} {e : F} (apart : ∀ x, f x ≠ e) (r : Except E α) :
    r.mapError f ≠ .error e := by
  cases r with
  | ok a =>
    intro same
    cases same
  | error x =>
    intro same
    exact apart x (Except.error.inj same)

/-- With the controller ready, the calls that need it never fail on the state. -/
theorem SimulatedGpuDriver.no_state_error {driver : SimulatedGpuDriver} {info : FirmwareInfo}
    (ready : driver.state = .ready info) (e : StateError) :
    (∀ capacity, (driver.allocateBuffer capacity).1 ≠ .error (.state e)) ∧
    (∀ id data p, driver.writeBuffer id data = .ret p → p.1 ≠ .error (.state e)) ∧
    (∀ id command p, driver.submit id command = .ret p → p.1 ≠ .error (.state e)) := by
  have ensured : driver.controller.ensureReady = .ok info := DeviceController.ensureReady_eq_ok.mpr ready
  refine ⟨?_, ?_, ?_⟩
  · intro capacity
    simp only [allocateBuffer, ensured]
    exact mapError_ne (by simp) _
  · intro id data p run
    simp only [writeBuffer, ensured] at run
    obtain ⟨_, _, run⟩ := Exec.bind_eq_ret.mp run
    cases run
    exact mapError_ne (by simp) _
  · intro id command p run
    simp only [submit, ensured] at run
    obtain ⟨checked, _, run⟩ := Exec.bind_eq_ret.mp run
    cases checked with
    | error e =>
      cases run
      simp
    | ok submission =>
      cases run
      exact mapError_ne (by simp) _

theorem GenericGpuDriver.no_state_error {Q : Type} [SubmissionQueue Q] {driver : GenericGpuDriver Q}
    {info : FirmwareInfo} (ready : driver.state = .ready info) (e : StateError) :
    (∀ capacity, (driver.allocateBuffer capacity).1 ≠ .error (.state e)) ∧
    (∀ id data p, driver.writeBuffer id data = .ret p → p.1 ≠ .error (.state e)) ∧
    (∀ id command p, driver.submit id command = .ret p → p.1 ≠ .error (.state e)) := by
  have ensured : driver.controller.ensureReady = .ok info := DeviceController.ensureReady_eq_ok.mpr ready
  refine ⟨?_, ?_, ?_⟩
  · intro capacity
    simp only [allocateBuffer, ensured]
    exact mapError_ne (by simp) _
  · intro id data p run
    simp only [writeBuffer, ensured] at run
    obtain ⟨_, _, run⟩ := Exec.bind_eq_ret.mp run
    cases run
    exact mapError_ne (by simp) _
  · intro id command p run
    simp only [submit, ensured] at run
    obtain ⟨checked, _, run⟩ := Exec.bind_eq_ret.mp run
    cases checked with
    | error e =>
      cases run
      simp
    | ok submission =>
      obtain ⟨_, _, run⟩ := Exec.bind_eq_ret.mp run
      cases run
      exact mapError_ne (by simp) _

end StateErrors

namespace TypedHandle

/-- The marker changes exactly with a successful transition. -/
theorem call_marker {h h' : TypedHandle} {op : DriverOp} {r : DriverResult DriverApiError}
    (call : h.call op = some (.ret (r, h'))) : MarkerStep h.marker (driverEvent (op, r)) h'.marker := by
  obtain ⟨S, typed⟩ := h
  cases S with
  | offline =>
    cases op with
    | loadFirmware image =>
      simp only [TypedHandle.call, Option.some.injEq] at call
      obtain ⟨outcome, _, call⟩ := Exec.bind_eq_ret.mp call
      cases outcome with
      | ok loaded =>
        cases call
        exact .loaded image
      | error failure =>
        cases call
        exact .other quiet_none
    | state =>
      cases call
      exact .other quiet_none
    | start | allocateBuffer | writeBuffer | submit | nextSubmission | queuedLen | isQueueFull => cases call
  | firmwareLoaded =>
    cases op with
    | start =>
      simp only [TypedHandle.call, Option.some.injEq, Exec.ret.injEq] at call
      split at call
      · cases call
        exact .started
      · cases call
        exact .other quiet_none
    | state =>
      cases call
      exact .other quiet_none
    | loadFirmware | allocateBuffer | writeBuffer | submit | nextSubmission | queuedLen | isQueueFull => cases call
  | ready =>
    have stays : h'.marker = .ready := by
      cases op with
      | loadFirmware | start => cases call
      | allocateBuffer | nextSubmission | queuedLen | isQueueFull | state =>
        cases call
        rfl
      | writeBuffer | submit =>
        simp only [TypedHandle.call, Option.some.injEq] at call
        obtain ⟨_, _, call⟩ := Exec.bind_eq_ret.mp call
        cases call
        rfl
    rw [stays]
    apply MarkerStep.other
    apply quiet_of_call
    · rintro image rfl
      cases call
    · rintro rfl
      cases call

end TypedHandle

theorem MarkerStep.ready {e : Option DriverEvent} {S : DriverState} (step : MarkerStep .ready e S) : S = .ready := by
  cases step
  rfl

theorem acceptedImages_append (es es' : List DriverEvent) :
    acceptedImages (es ++ es') = acceptedImages es ++ acceptedImages es' := List.filterMap_append

theorem Lifecycle.firmwareLoaded_inv {images : List (List UInt8)} {s : DeviceState}
    (life : Lifecycle images .firmwareLoaded s) : ∃ image, images = [image] ∧
      s = .firmwareLoaded { major := 1, minor := DeviceController.imageMinor image } := by
  cases life with
  | firmwareLoaded image => exact ⟨image, rfl, rfl⟩

theorem Lifecycle.ready_inv {images : List (List UInt8)} {s : DeviceState} (life : Lifecycle images .ready s) :
    ∃ image, images = [image] ∧ s = .ready { major := 1, minor := DeviceController.imageMinor image } := by
  cases life with
  | ready image => exact ⟨image, rfl, rfl⟩

/-- A ready driver accepts no further image, so its state is settled. -/
theorem Lifecycle.settled {images more : List (List UInt8)} {s s' : DeviceState} (before : Lifecycle images .ready s)
    (after : Lifecycle (images ++ more) .ready s') : s' = s := by
  obtain ⟨image, rfl, rfl⟩ := before.ready_inv
  obtain ⟨image', same, rfl⟩ := after.ready_inv
  cases (List.cons_eq_cons.mp same).1
  rfl

namespace TypedTrace

variable {h₀ h : TypedHandle} {t : List (DriverOp × DriverResult DriverApiError)}

/-- **Run lemma.** -/
theorem lifecycle {images : List (List UInt8)} (trace : TypedTrace h₀ t h)
    (start : Lifecycle images h₀.marker h₀.inner.state) :
    Lifecycle (images ++ acceptedImages (driverEvents t)) h.marker h.inner.state := by
  induction trace with
  | nil => simpa [driverEvents, acceptedImages] using start
  | @call t h h' op r _ call ih =>
    obtain ⟨⟨_, _⟩, step, rfl, rfl⟩ := (h.call_agrees op _ call).ret_left
    have one : driverEvents (t ++ [(op, r)]) = driverEvents t ++ (driverEvent (op, r)).toList := by
      cases e : driverEvent (op, r) <;> simp [driverEvents, e]
    rw [one, acceptedImages_append, ← List.append_assoc]
    exact ih.step (SimulatedGpuDriver.step_state step) (TypedHandle.call_marker call)

theorem marker_ready (trace : TypedTrace h₀ t h) (ready : h₀.marker = .ready) : h.marker = .ready := by
  induction trace with
  | nil => exact ready
  | call _ call ih =>
    have step := TypedHandle.call_marker call
    rw [ih] at step
    exact step.ready

end TypedTrace

namespace GenericHandle

variable {Q : Type} [SubmissionQueue Q]

/-- A call has the marker that all of its outcomes have. -/
theorem marker_of_bind {α : Type} {x : Exec α} {outcome : α → DriverResult (GenericGpuDriver.Error Q) × GenericHandle Q}
    {r : DriverResult (GenericGpuDriver.Error Q)} {h' : GenericHandle Q} {S : DriverState}
    (call : some (x.bind fun a => .ret (outcome a)) = some (.ret (r, h')))
    (all : ∀ a, (outcome a).2.marker = S) : h'.marker = S := by
  obtain ⟨a, -, ended⟩ := Exec.bind_eq_ret.mp (Option.some.inj call)
  have same := all a
  rw [Exec.ret.inj ended] at same
  exact same

/-- Calls other than the two transitions leave the marker alone, through a session too. -/
theorem marker_stays {h h' : GenericHandle Q} {op : GenericOp} {r : DriverResult (GenericGpuDriver.Error Q)}
    (call : h.call op = some (.ret (r, h'))) (load : ∀ image, op ≠ .common (.loadFirmware image))
    (start : op ≠ .common .start) : h'.marker = h.marker := by
  cases h with
  | session S operational borrowed =>
    cases op with
    | common op =>
      cases op with
      | submit | queuedLen | isQueueFull => exact marker_of_bind call fun _ => rfl
      | loadFirmware | start | allocateBuffer | writeBuffer | nextSubmission | state => cases call
    | peekSubmission => cases call
    | isQueueEmpty => exact marker_of_bind call fun _ => rfl
  | driver S typed =>
    cases op with
    | common op =>
      cases op with
      | loadFirmware image => exact (load image rfl).elim
      | start => exact (start rfl).elim
      | state =>
        cases S <;> cases call <;> rfl
      | allocateBuffer =>
        cases S with
        | offline | firmwareLoaded => cases call
        | ready =>
          cases call
          rfl
      | writeBuffer | submit | nextSubmission | queuedLen | isQueueFull =>
        cases S with
        | offline | firmwareLoaded => cases call
        | ready => exact marker_of_bind call fun _ => rfl
    | peekSubmission | isQueueEmpty =>
      cases S with
      | offline | firmwareLoaded => cases call
      | ready => exact marker_of_bind call fun _ => rfl

theorem load_marker {h h' : GenericHandle Q} {image : List UInt8} {r : DriverResult (GenericGpuDriver.Error Q)}
    (call : h.call (.common (.loadFirmware image)) = some (.ret (r, h'))) :
    MarkerStep h.marker (driverEvent (.loadFirmware image, r)) h'.marker := by
  cases h with
  | session S operational borrowed => cases call
  | driver S typed =>
    cases S with
    | offline =>
      simp only [GenericHandle.call, Option.some.injEq] at call
      obtain ⟨outcome, _, call⟩ := Exec.bind_eq_ret.mp call
      cases outcome with
      | ok loaded =>
        cases call
        exact .loaded image
      | error failure =>
        cases call
        exact .other quiet_none
    | firmwareLoaded | ready => cases call

theorem start_marker {h h' : GenericHandle Q} {r : DriverResult (GenericGpuDriver.Error Q)}
    (call : h.call (.common .start) = some (.ret (r, h'))) :
    MarkerStep h.marker (driverEvent (.start, r)) h'.marker := by
  cases h with
  | session S operational borrowed => cases call
  | driver S typed =>
    cases S with
    | firmwareLoaded =>
      simp only [GenericHandle.call, Option.some.injEq, Exec.ret.injEq] at call
      split at call
      · cases call
        exact .started
      · cases call
        exact .other quiet_none
    | offline | ready => cases call

/-- The marker changes exactly with a successful transition. -/
theorem call_marker {h h' : GenericHandle Q} {op : GenericOp} {r : DriverResult (GenericGpuDriver.Error Q)}
    (call : h.call op = some (.ret (r, h'))) : MarkerStep h.marker (genericEvent (op, r)) h'.marker := by
  by_cases load : ∃ image, op = .common (.loadFirmware image)
  · obtain ⟨image, rfl⟩ := load
    exact load_marker call
  · by_cases start : op = .common .start
    · subst start
      exact start_marker call
    · rw [marker_stays call (fun image h => load ⟨image, h⟩) start]
      exact .other (generic_quiet (fun image h => load ⟨image, h⟩) start)

end GenericHandle

namespace TypedGenericTrace

variable {Q : Type} [SubmissionQueue Q] {h₀ h : GenericHandle Q}
  {t : List (GenericOp × DriverResult (GenericGpuDriver.Error Q))}

/-- **Run lemma.** -/
theorem lifecycle {images : List (List UInt8)} (trace : TypedGenericTrace h₀ t h)
    (start : Lifecycle images h₀.marker h₀.inner.state) :
    Lifecycle (images ++ acceptedImages (genericEvents t)) h.marker h.inner.state := by
  induction trace with
  | nil => simpa [genericEvents, acceptedImages] using start
  | @call t h h' op r _ call ih =>
    obtain ⟨⟨_, _⟩, step, rfl, rfl⟩ := (h.call_agrees op _ call).ret_left
    rw [genericEvents_snoc, acceptedImages_append, ← List.append_assoc]
    exact ih.step (GenericGpuDriver.step_state step) (GenericHandle.call_marker call)
  | beginSession operational _ ih => exact ih
  | finish _ ih => exact ih

theorem marker_ready (trace : TypedGenericTrace h₀ t h) (ready : h₀.marker = .ready) : h.marker = .ready := by
  induction trace with
  | nil => exact ready
  | call _ call ih =>
    have step := GenericHandle.call_marker call
    rw [ih] at step
    exact step.ready
  | beginSession operational _ ih => exact ih
  | finish _ ih => exact ih

end TypedGenericTrace

/-- A typed driver in step with its marker: starting it succeeds. -/
theorem TypedDriver.start_ok {images : List (List UInt8)} {typed : TypedDriver .firmwareLoaded}
    (life : Lifecycle images .firmwareLoaded typed.inner.state) : ∃ ready, typed.start = .ok ready := by
  obtain ⟨image, -, runtime⟩ := life.firmwareLoaded_inv
  have state : typed.inner.controller.state = _ := runtime
  simp only [TypedDriver.start, SimulatedGpuDriver.start, DeviceController.start, state]
  exact ⟨_, rfl⟩

theorem TypedDriver.no_state_error {images : List (List UInt8)} {S : DriverState} {typed : TypedDriver S}
    (operational : Operational S) (life : Lifecycle images S typed.inner.state) (e : StateError) :
    (∀ capacity, (typed.allocateBuffer operational capacity).1 ≠ .error (.state e)) ∧
    (∀ id data p, typed.writeBuffer operational id data = .ret p → p.1 ≠ .error (.state e)) ∧
    (∀ id command p, typed.submit operational id command = .ret p → p.1 ≠ .error (.state e)) := by
  cases operational
  obtain ⟨image, -, runtime⟩ := life.ready_inv
  obtain ⟨allocate, write, submit⟩ := SimulatedGpuDriver.no_state_error runtime e
  refine ⟨allocate, ?_, ?_⟩
  · intro id data p run
    obtain ⟨q, inner, run⟩ := Exec.bind_eq_ret.mp run
    cases run
    exact write id data q inner
  · intro id command p run
    obtain ⟨q, inner, run⟩ := Exec.bind_eq_ret.mp run
    cases run
    exact submit id command q inner

theorem TypedGenericGpuDriver.start_ok {Q : Type} [SubmissionQueue Q] {images : List (List UInt8)}
    {typed : TypedGenericGpuDriver .firmwareLoaded Q} (life : Lifecycle images .firmwareLoaded typed.inner.state) :
    ∃ ready, typed.start = .ok ready := by
  obtain ⟨image, -, runtime⟩ := life.firmwareLoaded_inv
  have state : typed.inner.controller.state = _ := runtime
  simp only [TypedGenericGpuDriver.start, GenericGpuDriver.start, DeviceController.start, state]
  exact ⟨_, rfl⟩

theorem TypedGenericGpuDriver.no_state_error {Q : Type} [SubmissionQueue Q] {images : List (List UInt8)}
    {S : DriverState} {typed : TypedGenericGpuDriver S Q} (operational : Operational S)
    (life : Lifecycle images S typed.inner.state) (e : StateError) :
    (∀ capacity, (typed.allocateBuffer operational capacity).1 ≠ .error (.state e)) ∧
    (∀ id data p, typed.writeBuffer operational id data = .ret p → p.1 ≠ .error (.state e)) ∧
    (∀ id command p, typed.submit operational id command = .ret p → p.1 ≠ .error (.state e)) := by
  cases operational
  obtain ⟨image, -, runtime⟩ := life.ready_inv
  obtain ⟨allocate, write, submit⟩ := GenericGpuDriver.no_state_error runtime e
  refine ⟨allocate, ?_, ?_⟩
  · intro id data p run
    obtain ⟨q, inner, run⟩ := Exec.bind_eq_ret.mp run
    cases run
    exact write id data q inner
  · intro id command p run
    obtain ⟨q, inner, run⟩ := Exec.bind_eq_ret.mp run
    cases run
    exact submit id command q inner

/-- What marker and runtime state have in common after the typed calls `t`. -/
structure TypedHandle.Agrees (t : List (DriverOp × DriverResult DriverApiError)) (h : TypedHandle) : Prop where
  kind : h.driver.runtimeState.kind = h.marker.kind
  start : ∀ typed : TypedDriver .firmwareLoaded, h = ⟨.firmwareLoaded, typed⟩ → ∃ ready, typed.start = .ok ready
  noStateError : ∀ (operational : Operational h.marker) (e : StateError),
    (∀ capacity, (h.driver.allocateBuffer operational capacity).1 ≠ .error (.state e)) ∧
    (∀ id data p, h.driver.writeBuffer operational id data = .ret p → p.1 ≠ .error (.state e)) ∧
    (∀ id command p, h.driver.submit operational id command = .ret p → p.1 ≠ .error (.state e))
  firmware : h.marker = .ready → ∃ image, acceptedImages (driverEvents t) = [image] ∧
    h.driver.runtimeState = .ready { major := 1, minor := DeviceController.imageMinor image }
  forever : h.marker = .ready → ∀ later h', TypedTrace h later h' →
    h'.marker = .ready ∧ h'.driver.runtimeState = h.driver.runtimeState

theorem TypedTrace.agrees {h₀ h : TypedHandle} {t : List (DriverOp × DriverResult DriverApiError)}
    (trace : TypedTrace h₀ t h) (new : Lifecycle [] h₀.marker h₀.inner.state) : h.Agrees t := by
  have life := trace.lifecycle new
  rw [List.nil_append] at life
  refine ⟨life.kind, ?_, ?_, ?_, ?_⟩
  · rintro typed rfl
    exact TypedDriver.start_ok life
  · intro operational e
    exact TypedDriver.no_state_error operational life e
  · intro ready
    rw [ready] at life
    exact life.ready_inv
  · intro ready later h' extension
    have marker := extension.marker_ready ready
    have after := extension.lifecycle life
    rw [ready] at life
    rw [marker] at after
    exact ⟨marker, life.settled after⟩

namespace GenericHandle

variable {Q : Type} [SubmissionQueue Q]

/-- The typed driver that the client holds or has lent to a session. -/
def typed : (h : GenericHandle Q) → TypedGenericGpuDriver h.marker Q
  | driver _ typed => typed
  | session _ _ borrowed => borrowed.finish

/-- What marker and runtime state have in common after the typed calls `t`. -/
structure Agrees (t : List (GenericOp × DriverResult (GenericGpuDriver.Error Q))) (h : GenericHandle Q) :
    Prop where
  kind : h.typed.runtimeState.kind = h.marker.kind
  start : ∀ loaded : TypedGenericGpuDriver .firmwareLoaded Q, h = .driver .firmwareLoaded loaded →
    ∃ ready, loaded.start = .ok ready
  noStateError : ∀ (operational : Operational h.marker) (e : StateError),
    (∀ capacity, (h.typed.allocateBuffer operational capacity).1 ≠ .error (.state e)) ∧
    (∀ id data p, h.typed.writeBuffer operational id data = .ret p → p.1 ≠ .error (.state e)) ∧
    (∀ id command p, h.typed.submit operational id command = .ret p → p.1 ≠ .error (.state e))
  noSessionError : ∀ S operational (borrowed : SubmissionSession S Q), h = .session S operational borrowed →
    ∀ e id command p, borrowed.submit operational id command = .ret p → p.1 ≠ .error (.state e)
  firmware : h.marker = .ready → ∃ image, acceptedImages (genericEvents t) = [image] ∧
    h.typed.runtimeState = .ready { major := 1, minor := DeviceController.imageMinor image }
  forever : h.marker = .ready → ∀ later h', TypedGenericTrace h later h' →
    h'.marker = .ready ∧ h'.typed.runtimeState = h.typed.runtimeState

omit [SubmissionQueue Q] in
theorem typed_inner (h : GenericHandle Q) : h.typed.inner = h.inner := by
  cases h <;> rfl

end GenericHandle

theorem TypedGenericTrace.agrees {Q : Type} [SubmissionQueue Q] {h₀ h : GenericHandle Q}
    {t : List (GenericOp × DriverResult (GenericGpuDriver.Error Q))} (trace : TypedGenericTrace h₀ t h)
    (new : Lifecycle [] h₀.marker h₀.inner.state) : h.Agrees t := by
  have life := trace.lifecycle new
  rw [List.nil_append] at life
  have typedLife : Lifecycle (acceptedImages (genericEvents t)) h.marker h.typed.inner.state := by
    rw [h.typed_inner]
    exact life
  refine ⟨typedLife.kind, ?_, ?_, ?_, ?_, ?_⟩
  · rintro loaded rfl
    exact TypedGenericGpuDriver.start_ok typedLife
  · intro operational e
    exact TypedGenericGpuDriver.no_state_error operational typedLife e
  · rintro S operational borrowed rfl e id command p run
    obtain ⟨q, inner, run⟩ := Exec.bind_eq_ret.mp run
    cases run
    exact (TypedGenericGpuDriver.no_state_error operational typedLife e).2.2 id command q inner
  · intro ready
    unfold TypedGenericGpuDriver.runtimeState
    rw [h.typed_inner]
    rw [ready] at life
    exact life.ready_inv
  · intro ready later h' extension
    have marker := extension.marker_ready ready
    have after := extension.lifecycle life
    rw [ready] at life
    rw [marker] at after
    refine ⟨marker, ?_⟩
    unfold TypedGenericGpuDriver.runtimeState
    rw [h.typed_inner, h'.typed_inner]
    exact life.settled after

/-- **Compile-time and runtime lifecycle never diverge**, for either typed driver and
any backend, after any calls, failed transitions and sessions from `new`. -/
theorem lifecycles_agree :
    (∀ c driver, TypedDriver.new c = .ok driver → ∀ t h, TypedTrace ⟨.offline, driver⟩ t h → h.Agrees t) ∧
    (∀ (Q : Type) [SubmissionQueue Q] (queue : Q) t h,
      TypedGenericTrace (.driver .offline (.new queue)) t h → h.Agrees t) := by
  refine ⟨?_, ?_⟩
  · intro c driver new t h trace
    apply trace.agrees
    have state : driver.inner.state = .offline := by
      unfold TypedDriver.new SimulatedGpuDriver.new at new
      cases made : CommandQueue.new c with
      | error e =>
        rw [made] at new
        cases new
      | ok queue =>
        rw [made] at new
        cases new
        rfl
    show Lifecycle [] .offline driver.inner.state
    rw [state]
    exact .offline
  · intro Q _ queue t h trace
    exact trace.agrees .offline

end GpuDriverLab
