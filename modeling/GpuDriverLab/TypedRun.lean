import GpuDriverLab.DriverSimulation
import GpuDriverLab.TypedGenericDriver

/-!
# Runs that the lifecycle types admit

What a client of a typed driver holds is a handle: a driver with some marker,
or a session on one. `call` makes one call on a handle where the types admit it;
a failed transition leaves the handle on the driver that its error gives back.
A typed trace is any sequence of such calls, and of sessions begun and ended.
-/

namespace GpuDriverLab
set_option autoImplicit false
open Rust

/-- The runtime state that a marker names. -/
def DriverState.kind : DriverState → StateKind
  | offline => .offline
  | firmwareLoaded => .firmwareLoaded
  | ready => .ready

/-- A typed driver with the marker it currently has. -/
structure TypedHandle where
  marker : DriverState
  driver : TypedDriver marker

namespace TypedHandle

/-- One call, where `TypedDriver<S>` has the method. -/
def call : TypedHandle → DriverOp → Option (Exec (DriverResult DriverApiError × TypedHandle))
  | ⟨.offline, driver⟩, .loadFirmware image => some do
    match ← driver.loadFirmware image with
    | .ok loaded => return (.done (.ok ()), ⟨.firmwareLoaded, loaded⟩)
    | .error failure => return (.done (.error failure.intoParts.2), ⟨.offline, failure.intoParts.1⟩)
  | ⟨.firmwareLoaded, driver⟩, .start => some (.ret (
    match driver.start with
    | .ok ready => (.done (.ok ()), ⟨.ready, ready⟩)
    | .error failure => (.done (.error failure.intoParts.2), ⟨.firmwareLoaded, failure.intoParts.1⟩)))
  | ⟨.ready, driver⟩, .allocateBuffer capacity => some (.ret (
    .allocated (driver.allocateBuffer .ready capacity).1, ⟨.ready, (driver.allocateBuffer .ready capacity).2⟩))
  | ⟨.ready, driver⟩, .writeBuffer id data =>
    some ((driver.writeBuffer .ready id data).bind fun p => .ret (.done p.1, ⟨.ready, p.2⟩))
  | ⟨.ready, driver⟩, .submit bufferId command =>
    some ((driver.submit .ready bufferId command).bind fun p => .ret (.done p.1, ⟨.ready, p.2⟩))
  | ⟨.ready, driver⟩, .nextSubmission => some (.ret (
    .submission (driver.nextSubmission .ready).1, ⟨.ready, (driver.nextSubmission .ready).2⟩))
  | ⟨.ready, driver⟩, .queuedLen => some (.ret (.len (driver.queuedLen .ready), ⟨.ready, driver⟩))
  | ⟨.ready, driver⟩, .isQueueFull => some (.ret (.flag (driver.isQueueFull .ready), ⟨.ready, driver⟩))
  | ⟨S, driver⟩, .state => some (.ret (.state driver.runtimeState, ⟨S, driver⟩))
  | _, _ => none

/-- The untyped driver under the handle. -/
def inner (h : TypedHandle) : SimulatedGpuDriver := h.driver.inner

end TypedHandle

/-- The calls `t`, made one after the other, lead from `h₀` to the indexed handle. -/
inductive TypedTrace (h₀ : TypedHandle) : List (DriverOp × DriverResult DriverApiError) → TypedHandle → Prop where
  | nil : TypedTrace h₀ [] h₀
  | call {t : List (DriverOp × DriverResult DriverApiError)} {h h' : TypedHandle} {op : DriverOp}
      {r : DriverResult DriverApiError} :
      TypedTrace h₀ t h → h.call op = some (.ret (r, h')) → TypedTrace h₀ (t ++ [(op, r)]) h'

/-- A typed generic driver, or a session that borrows it. -/
inductive GenericHandle (Q : Type) where
  | driver (marker : DriverState) (typed : TypedGenericGpuDriver marker Q)
  | session (marker : DriverState) (operational : Operational marker) (borrowed : SubmissionSession marker Q)

namespace GenericHandle

variable {Q : Type}

def marker : GenericHandle Q → DriverState
  | driver marker _ => marker
  | session marker _ _ => marker

/-- The untyped driver under the handle. -/
def inner : GenericHandle Q → GenericGpuDriver Q
  | driver _ typed => typed.inner
  | session _ _ borrowed => borrowed.driver.inner

variable [SubmissionQueue Q]

/-- One call, where the driver or the session has the method. -/
def call : GenericHandle Q → GenericOp →
    Option (Exec (DriverResult (GenericGpuDriver.Error Q) × GenericHandle Q))
  | .driver .offline typed, .common (.loadFirmware image) => some do
    match ← typed.loadFirmware image with
    | .ok loaded => return (.done (.ok ()), .driver .firmwareLoaded loaded)
    | .error failure => return (.done (.error failure.intoParts.2), .driver .offline failure.intoParts.1)
  | .driver .firmwareLoaded typed, .common .start => some (.ret (
    match typed.start with
    | .ok ready => (.done (.ok ()), .driver .ready ready)
    | .error failure => (.done (.error failure.intoParts.2), .driver .firmwareLoaded failure.intoParts.1)))
  | .driver .ready typed, .common (.allocateBuffer capacity) => some (.ret (
    .allocated (typed.allocateBuffer .ready capacity).1, .driver .ready (typed.allocateBuffer .ready capacity).2))
  | .driver .ready typed, .common (.writeBuffer id data) =>
    some ((typed.writeBuffer .ready id data).bind fun p => .ret (.done p.1, .driver .ready p.2))
  | .driver .ready typed, .common (.submit bufferId command) =>
    some ((typed.submit .ready bufferId command).bind fun p => .ret (.done p.1, .driver .ready p.2))
  | .driver .ready typed, .common .nextSubmission =>
    some ((typed.nextSubmission .ready).bind fun p => .ret (.submission p.1, .driver .ready p.2))
  | .driver .ready typed, .peekSubmission =>
    some ((typed.peekSubmission .ready).bind fun r => .ret (.submission r, .driver .ready typed))
  | .driver .ready typed, .common .queuedLen =>
    some ((typed.queuedLen .ready).bind fun n => .ret (.len n, .driver .ready typed))
  | .driver .ready typed, .isQueueEmpty =>
    some ((typed.isQueueEmpty .ready).bind fun b => .ret (.flag b, .driver .ready typed))
  | .driver .ready typed, .common .isQueueFull =>
    some ((typed.isQueueFull .ready).bind fun b => .ret (.flag b, .driver .ready typed))
  | .driver S typed, .common .state => some (.ret (.state typed.runtimeState, .driver S typed))
  | .session S operational borrowed, .common (.submit bufferId command) =>
    some ((borrowed.submit operational bufferId command).bind fun p => .ret (.done p.1, .session S operational p.2))
  | .session S operational borrowed, .common .queuedLen =>
    some ((borrowed.queuedLen operational).bind fun n => .ret (.len n, .session S operational borrowed))
  | .session S operational borrowed, .isQueueEmpty =>
    some ((borrowed.isQueueEmpty operational).bind fun b => .ret (.flag b, .session S operational borrowed))
  | .session S operational borrowed, .common .isQueueFull =>
    some ((borrowed.isQueueFull operational).bind fun b => .ret (.flag b, .session S operational borrowed))
  | _, _ => none

end GenericHandle

/-- The calls `t`, directly or through sessions, lead from `h₀` to the indexed handle. -/
inductive TypedGenericTrace {Q : Type} [SubmissionQueue Q] (h₀ : GenericHandle Q) :
    List (GenericOp × DriverResult (GenericGpuDriver.Error Q)) → GenericHandle Q → Prop where
  | nil : TypedGenericTrace h₀ [] h₀
  | call {t : List (GenericOp × DriverResult (GenericGpuDriver.Error Q))} {h h' : GenericHandle Q} {op : GenericOp}
      {r : DriverResult (GenericGpuDriver.Error Q)} :
      TypedGenericTrace h₀ t h → h.call op = some (.ret (r, h')) → TypedGenericTrace h₀ (t ++ [(op, r)]) h'
  | beginSession {t : List (GenericOp × DriverResult (GenericGpuDriver.Error Q))} {S : DriverState}
      {driver : TypedGenericGpuDriver S Q} (operational : Operational S) :
      TypedGenericTrace h₀ t (.driver S driver) →
      TypedGenericTrace h₀ t (.session S operational (driver.beginSubmissionSession operational))
  | finish {t : List (GenericOp × DriverResult (GenericGpuDriver.Error Q))} {S : DriverState}
      {operational : Operational S} {session : SubmissionSession S Q} :
      TypedGenericTrace h₀ t (.session S operational session) →
      TypedGenericTrace h₀ t (.driver S session.finish)

namespace TypedHandle

/-- A typed call ends as the untyped one does, with the same result, on the same driver. -/
def CallAgrees (h : TypedHandle) (op : DriverOp) : Prop :=
  ∀ x, h.call op = some x →
    x.Rel (fun p q => p.1 = q.1 ∧ p.2.inner = q.2) (simulatedMachine.step h.inner op)

theorem call_agrees (h : TypedHandle) (op : DriverOp) : h.CallAgrees op := by
  obtain ⟨S, inner⟩ := h
  intro x call
  cases S with
  | offline =>
    cases op with
    | loadFirmware image =>
      cases call
      simp only [simulatedMachine, TypedDriver.loadFirmware, TypedHandle.inner]
      cases run : inner.inner.loadFirmware image with
      | panic why => trivial
      | ret p =>
        obtain ⟨r, after⟩ := p
        cases r with
        | ok => exact ⟨rfl, rfl⟩
        | error e => exact ⟨rfl, rfl⟩
    | state =>
      cases call
      exact ⟨rfl, rfl⟩
    | start | allocateBuffer | writeBuffer | submit | nextSubmission | queuedLen | isQueueFull => cases call
  | firmwareLoaded =>
    cases op with
    | start =>
      cases call
      simp only [simulatedMachine, TypedDriver.start, TypedHandle.inner]
      cases run : inner.inner.start with
      | mk r after =>
        cases r with
        | ok => exact ⟨rfl, rfl⟩
        | error e => exact ⟨rfl, rfl⟩
    | state =>
      cases call
      exact ⟨rfl, rfl⟩
    | loadFirmware | allocateBuffer | writeBuffer | submit | nextSubmission | queuedLen | isQueueFull => cases call
  | ready =>
    cases op with
    | loadFirmware | start => cases call
    | allocateBuffer | nextSubmission | queuedLen | isQueueFull | state =>
      cases call
      exact ⟨rfl, rfl⟩
    | writeBuffer id data =>
      cases call
      simp only [simulatedMachine, TypedDriver.writeBuffer, TypedHandle.inner]
      cases inner.inner.writeBuffer id data with
      | panic why => trivial
      | ret p => exact ⟨rfl, rfl⟩
    | submit bufferId command =>
      cases call
      simp only [simulatedMachine, TypedDriver.submit, TypedHandle.inner]
      cases inner.inner.submit bufferId command with
      | panic why => trivial
      | ret p => exact ⟨rfl, rfl⟩

end TypedHandle

/-- **The typed driver refines the untyped one.** -/
theorem TypedTrace.inner {h₀ h : TypedHandle} {t : List (DriverOp × DriverResult DriverApiError)}
    (trace : TypedTrace h₀ t h) : simulatedMachine.Trace h₀.inner t h.inner := by
  induction trace with
  | nil => exact .nil
  | @call t h h' op r _ call ih =>
    obtain ⟨⟨r', after⟩, step, rfl, rfl⟩ := (h.call_agrees op _ call).ret_left
    exact .snoc ih step

namespace GenericHandle

variable {Q : Type} [SubmissionQueue Q]

def CallAgrees (h : GenericHandle Q) (op : GenericOp) : Prop :=
  ∀ x, h.call op = some x →
    x.Rel (fun p q => p.1 = q.1 ∧ p.2.inner = q.2) ((genericMachine Q).step h.inner op)

/-- A call that wraps what the untyped call returns. -/
theorem rel_wrap {α : Type} {x : Exec α} {f : α → DriverResult (GenericGpuDriver.Error Q) × GenericHandle Q}
    {g : α → DriverResult (GenericGpuDriver.Error Q) × GenericGpuDriver Q}
    (same : ∀ a, (f a).1 = (g a).1 ∧ (f a).2.inner = (g a).2) :
    (x.bind fun a => .ret (f a)).Rel (fun p q => p.1 = q.1 ∧ p.2.inner = q.2) (x.bind fun a => .ret (g a)) := by
  cases x with
  | panic why => trivial
  | ret a => exact same a

theorem session_agrees {S : DriverState} (operational : Operational S) (borrowed : SubmissionSession S Q)
    (op : GenericOp) : (GenericHandle.session S operational borrowed).CallAgrees op := by
  intro x call
  cases op with
  | common op =>
    cases op with
    | submit bufferId command =>
      cases call
      simp only [genericMachine, SubmissionSession.submit, TypedGenericGpuDriver.submit, inner, Exec.bind_def,
        Exec.bind_bind, Exec.pure_def, Exec.ret_bind]
      exact rel_wrap fun _ => ⟨rfl, rfl⟩
    | queuedLen | isQueueFull =>
      cases call
      exact rel_wrap fun _ => ⟨rfl, rfl⟩
    | loadFirmware | start | allocateBuffer | writeBuffer | nextSubmission | state => cases call
  | peekSubmission => cases call
  | isQueueEmpty =>
    cases call
    exact rel_wrap fun _ => ⟨rfl, rfl⟩

theorem ready_agrees (typed : TypedGenericGpuDriver .ready Q) (op : GenericOp) :
    (GenericHandle.driver .ready typed).CallAgrees op := by
  intro x call
  cases op with
  | common op =>
    cases op with
    | loadFirmware | start => cases call
    | allocateBuffer | state =>
      cases call
      exact ⟨rfl, rfl⟩
    | writeBuffer id data =>
      cases call
      simp only [genericMachine, TypedGenericGpuDriver.writeBuffer, inner, Exec.bind_def, Exec.bind_bind,
        Exec.pure_def, Exec.ret_bind]
      exact rel_wrap fun _ => ⟨rfl, rfl⟩
    | submit bufferId command =>
      cases call
      simp only [genericMachine, TypedGenericGpuDriver.submit, inner, Exec.bind_def, Exec.bind_bind, Exec.pure_def,
        Exec.ret_bind]
      exact rel_wrap fun _ => ⟨rfl, rfl⟩
    | nextSubmission =>
      cases call
      simp only [genericMachine, TypedGenericGpuDriver.nextSubmission, inner, Exec.bind_def, Exec.bind_bind,
        Exec.pure_def, Exec.ret_bind]
      exact rel_wrap fun _ => ⟨rfl, rfl⟩
    | queuedLen | isQueueFull =>
      cases call
      exact rel_wrap fun _ => ⟨rfl, rfl⟩
  | peekSubmission | isQueueEmpty =>
    cases call
    exact rel_wrap fun _ => ⟨rfl, rfl⟩

theorem offline_agrees (typed : TypedGenericGpuDriver .offline Q) (op : GenericOp) :
    (GenericHandle.driver .offline typed).CallAgrees op := by
  intro x call
  cases op with
  | common op =>
    cases op with
    | loadFirmware image =>
      cases call
      simp only [genericMachine, TypedGenericGpuDriver.loadFirmware, inner]
      cases typed.inner.loadFirmware image with
      | panic why => trivial
      | ret p =>
        obtain ⟨r, after⟩ := p
        cases r with
        | ok => exact ⟨rfl, rfl⟩
        | error e => exact ⟨rfl, rfl⟩
    | state =>
      cases call
      exact ⟨rfl, rfl⟩
    | start | allocateBuffer | writeBuffer | submit | nextSubmission | queuedLen | isQueueFull => cases call
  | peekSubmission | isQueueEmpty => cases call

theorem firmwareLoaded_agrees (typed : TypedGenericGpuDriver .firmwareLoaded Q) (op : GenericOp) :
    (GenericHandle.driver .firmwareLoaded typed).CallAgrees op := by
  intro x call
  cases op with
  | common op =>
    cases op with
    | start =>
      cases call
      simp only [genericMachine, TypedGenericGpuDriver.start, inner]
      cases typed.inner.start with
      | mk r after =>
        cases r with
        | ok => exact ⟨rfl, rfl⟩
        | error e => exact ⟨rfl, rfl⟩
    | state =>
      cases call
      exact ⟨rfl, rfl⟩
    | loadFirmware | allocateBuffer | writeBuffer | submit | nextSubmission | queuedLen | isQueueFull => cases call
  | peekSubmission | isQueueEmpty => cases call

theorem call_agrees (h : GenericHandle Q) (op : GenericOp) : h.CallAgrees op := by
  cases h with
  | session S operational borrowed => exact session_agrees operational borrowed op
  | driver S typed =>
    cases S with
    | offline => exact offline_agrees typed op
    | firmwareLoaded => exact firmwareLoaded_agrees typed op
    | ready => exact ready_agrees typed op

end GenericHandle

/-- **The typed generic driver refines the untyped one**, through any number of sessions. -/
theorem TypedGenericTrace.inner {Q : Type} [SubmissionQueue Q] {h₀ h : GenericHandle Q}
    {t : List (GenericOp × DriverResult (GenericGpuDriver.Error Q))} (trace : TypedGenericTrace h₀ t h) :
    (genericMachine Q).Trace h₀.inner t h.inner := by
  induction trace with
  | nil => exact .nil
  | @call t h h' op r _ call ih =>
    obtain ⟨⟨r', after⟩, step, rfl, rfl⟩ := (h.call_agrees op _ call).ret_left
    exact .snoc ih step
  | beginSession operational _ ih => exact ih
  | finish _ ih => exact ih

end GpuDriverLab
