import GpuDriverLab.Backpressure

/-!
# What a whole run of a driver looks like

Seen through its successful calls, a run is one load, one start, then work; the
device never shows as faulted. What the calls return is accounted for whatever
the queue held at first: it drains before the driver's own work, in order. A
session only ever appends.
-/

namespace GpuDriverLab
set_option autoImplicit false
open Rust

/-- The firmware that a well-formed image declares. -/
def declared (image : List UInt8) : FirmwareInfo := { major := 1, minor := DeviceController.imageMinor image }

/-- Work that a ready device does. -/
def DriverEvent.IsWork : DriverEvent → Prop
  | .loaded _ | .started => False
  | .allocated _ _ | .wrote _ _ | .submitted _ | .returned _ => True

/-- The events that can lead to a device state. -/
inductive Protocol : DeviceState → List DriverEvent → Prop where
  | offline : Protocol .offline []
  | loaded {image : List UInt8} (header : DeviceController.WellFormedImage image) :
      Protocol (.firmwareLoaded (declared image)) [.loaded image]
  | ready {image : List UInt8} {work : List DriverEvent} (header : DeviceController.WellFormedImage image)
      (works : ∀ e ∈ work, e.IsWork) : Protocol (.ready (declared image)) (.loaded image :: .started :: work)

/-- A ready device goes on working. -/
theorem Protocol.work {controller : DeviceController} {es : List DriverEvent} (protocol : Protocol controller.state es)
    (ready : controller.IsReady) {e : DriverEvent} (works : e.IsWork) : Protocol controller.state (es ++ [e]) := by
  unfold DeviceController.IsReady at ready
  generalize controller.state = state at protocol ready ⊢
  cases protocol with
  | offline | loaded => cases ready
  | @ready image work header earlier =>
    refine .ready header ?_
    intro e' member
    obtain before | last := List.mem_append.mp member
    · exact earlier e' before
    · rw [List.mem_singleton.mp last]
      exact works

namespace DriverHistory

variable {v₀ v : DriverView} {es : List DriverEvent}

/-- **Run lemma.** From a new driver with an empty queue. -/
theorem protocol (h : DriverHistory v₀ es v) (offline : v₀.controller.state = .offline)
    (empty : v₀.work.items = []) : Protocol v.controller.state es := by
  induction h with
  | start =>
    rw [offline]
    exact .offline
  | @next es v v' e before effect ih =>
    cases effect with
    | idle =>
      rw [Option.toList_none, List.append_nil]
      exact ih
    | loaded offline header =>
      rw [offline] at ih
      cases ih
      exact .loaded header
    | started loaded =>
      rw [loaded] at ih
      cases ih with
      | loaded header => exact .ready header nofun
    | allocated ready | wrote ready => exact ih.work ready trivial
    | submitted ready => exact ih.work ready trivial
    | returned capacity items =>
      have ready : v.controller.IsReady := before.ready_of_work empty (by rw [items]; exact List.cons_ne_nil _ _)
      exact ih.work ready trivial

end DriverHistory

section Sessions

variable {Q : Type} [SubmissionQueue Q] {S : DriverState}

/-- The calls `t`, all made through one session, lead from `s₀` to the indexed session. -/
inductive WithinSession (operational : Operational S) (s₀ : SubmissionSession S Q) :
    List (GenericOp × DriverResult (GenericGpuDriver.Error Q)) → SubmissionSession S Q → Prop where
  | begin : WithinSession operational s₀ [] s₀
  | call {t : List (GenericOp × DriverResult (GenericGpuDriver.Error Q))} {s s' : SubmissionSession S Q} {op : GenericOp}
      {r : DriverResult (GenericGpuDriver.Error Q)} :
      WithinSession operational s₀ t s →
      (GenericHandle.session S operational s).call op = some (.ret (r, .session S operational s')) →
      WithinSession operational s₀ (t ++ [(op, r)]) s'

/-- A session submits and looks at the queue; its calls have no other event. -/
theorem session_event {operational : Operational S} {s : SubmissionSession S Q} {op : GenericOp}
    {x : Exec (DriverResult (GenericGpuDriver.Error Q) × GenericHandle Q)}
    (call : (GenericHandle.session S operational s).call op = some x)
    (r : DriverResult (GenericGpuDriver.Error Q)) :
    genericEvent (op, r) = none ∨ ∃ request, genericEvent (op, r) = some (.submitted request) := by
  cases op with
  | common op =>
    cases op with
    | submit bufferId command =>
      cases r with
      | done result =>
        cases result with
        | ok => exact Or.inr ⟨_, rfl⟩
        | error e => exact Or.inl rfl
      | allocated | submission | len | flag | state => exact Or.inl rfl
    | queuedLen | isQueueFull => exact Or.inl rfl
    | loadFirmware | start | allocateBuffer | writeBuffer | nextSubmission | state => cases call
  | peekSubmission => cases call
  | isQueueEmpty => exact Or.inl rfl

variable {backend : FifoBackend Q} {v : DriverView}

/-- **A session only appends** what it was told was accepted. -/
theorem WithinSession.appends {operational : Operational S} {s₀ s : SubmissionSession S Q}
    {t : List (GenericOp × DriverResult (GenericGpuDriver.Error Q))} (within : WithinSession operational s₀ t s)
    (shows_ : GenericGpuDriver.Shows backend s₀.finish.inner v) : ∃ v' own,
    GenericGpuDriver.Shows backend s.finish.inner v' ∧ v'.controller = v.controller ∧ v'.device = v.device ∧
      v'.work.capacity = v.work.capacity ∧ v'.work.items = v.work.items ++ own ∧
      own.map ValidatedSubmission.request = acceptedRequests (genericEvents t) := by
  induction within with
  | begin => exact ⟨v, [], shows_, rfl, rfl, rfl, (List.append_nil _).symm, rfl⟩
  | @call t s s' op r _ call ih =>
    obtain ⟨m, own, shown, controller, device, capacity, items, requests⟩ := ih
    obtain ⟨⟨r', after⟩, step, same, same'⟩ :=
      ((GenericHandle.session S operational s).call_agrees op _ call).ret_left
    obtain ⟨r'', last, v', step', shown', effect⟩ := shown.step op
    have one : (genericMachine Q).step s.finish.inner op = .ret (r', after) := step
    rw [step'] at one
    cases one
    cases same
    cases same'
    rw [genericEvents_snoc]
    obtain quiet | ⟨request, accepted⟩ := session_event call r
    · rw [quiet] at effect ⊢
      cases effect
      rw [Option.toList_none, List.append_nil]
      exact ⟨m, own, shown', controller, device, capacity, items, requests⟩
    · rw [accepted] at effect ⊢
      cases effect with
      | @submitted submission work ready valid capacity' items' =>
        refine ⟨_, own ++ [submission], shown', controller, device, capacity'.trans capacity, ?_, ?_⟩
        · rw [items', items, List.append_assoc]
        · rw [Option.toList_some, accepted_snoc, List.map_append, requests]
          rfl

end Sessions

section Runs

variable {Q : Type} [SubmissionQueue Q]

/-- What the successful calls `es` on a driver over a queue that held `first` say of the driver. -/
def Accounted (backend : FifoBackend Q) (first : SubmissionFifo) (es : List DriverEvent) (driver : GenericGpuDriver Q) :
    Prop :=
  ∃ pending own, GenericGpuDriver.Backlog backend driver first.capacity pending ∧
    returnedSubmissions es ++ pending = first.items ++ own ∧
    own.map ValidatedSubmission.request = acceptedRequests es

/-- The account of a driver in use, directly and through sessions. -/
structure WorkAccounted (backend : FifoBackend Q) (queue : Q) (first : SubmissionFifo) : Prop where
  generic : ∀ ops, ∃ rs driver, (genericMachine Q).run (.new queue) ops = .ret (rs, driver) ∧
    Accounted backend first (genericEvents (ops.zip rs)) driver
  typed : ∀ t h, TypedGenericTrace (.driver .offline (.new queue)) t h →
    Accounted backend first (genericEvents t) h.inner
  /-- What waits when a session is finished: the backlog it found, then what it submitted. -/
  session : ∀ t S (operational : Operational S) typed, TypedGenericTrace (.driver .offline (.new queue)) t (.driver S typed) →
    ∀ t' session, WithinSession operational (typed.beginSubmissionSession operational) t' session →
      session.finish.inner.controller = typed.inner.controller ∧ session.finish.inner.device = typed.inner.device ∧
      ∃ pending own, GenericGpuDriver.Backlog backend typed.inner first.capacity pending ∧
        GenericGpuDriver.Backlog backend session.finish.inner first.capacity (pending ++ own) ∧
        own.map ValidatedSubmission.request = acceptedRequests (genericEvents t')

variable {backend : FifoBackend Q} {queue : Q} {f : SubmissionFifo}

theorem accounted {driver : GenericGpuDriver Q} {v : DriverView} {es : List DriverEvent}
    (shown : GenericGpuDriver.Shows backend driver v) (history : DriverHistory (.over f) es v) :
    Accounted backend f es driver := by
  obtain ⟨own, account, requests⟩ := history.accounts
  have capacity : v.work.capacity = f.capacity := history.capacity
  refine ⟨v.work.items, own, ?_, account, requests⟩
  rw [← capacity]
  exact shown.backlog

/-- **All work is accounted for**: what the queue held at first leaves first, then the driver's
own accepted work, each once and in order. -/
theorem work_accounted (backend : FifoBackend Q) {queue : Q} {f : SubmissionFifo} (rep : backend.Rep queue f) :
    WorkAccounted backend queue f where
  generic := by
    intro ops
    obtain ⟨rs, driver, v, run, shown, history⟩ := (GenericGpuDriver.new_shows rep).run ops
    exact ⟨rs, driver, run, accounted shown history⟩
  typed := by
    intro t h trace
    obtain ⟨v, shown, history⟩ := (GenericGpuDriver.new_shows rep).trace trace.inner
    exact accounted shown history
  session := by
    intro t S operational typed trace t' session within
    obtain ⟨v, shown, history⟩ := (GenericGpuDriver.new_shows rep).trace trace.inner
    have borrowed : GenericGpuDriver.Shows backend (typed.beginSubmissionSession operational).finish.inner v := shown
    obtain ⟨v', own, shown', controller, device, same, items, requests⟩ := within.appends borrowed
    have capacity : v.work.capacity = f.capacity := history.capacity
    refine ⟨?_, ?_, v.work.items, own, ?_, ?_, requests⟩
    · rw [shown'.controller, controller]
      exact shown.controller.symm
    · rw [shown'.device, device]
      exact shown.device.symm
    · rw [← capacity]
      exact shown.backlog
    · have backlog := shown'.backlog
      rw [same, capacity, items] at backlog
      exact backlog

/-- A queue that holds a submission before the driver gets it. -/
theorem work_accounted_two : ∃ queue filled first, CommandQueue.new 2 = .ok queue ∧
    SubmissionQueue.enqueue queue foreignSubmission = .ret (.ok (), filled) ∧ first.items = [foreignSubmission] ∧
    WorkAccounted CommandQueue.backend filled first := by
  obtain ⟨queue, new, rep⟩ := CommandQueue.new_represents (show 2 ≠ 0 by decide)
  obtain ⟨filled, put, rep'⟩ := CommandQueue.backend.enqueue queue _ rep foreignSubmission
  exact ⟨queue, filled, _, new, put, rfl, work_accounted CommandQueue.backend rep'⟩

/-- The runs of a driver follow the protocol, directly and through the typed wrapper. -/
structure FollowsProtocol (queue : Q) : Prop where
  generic : ∀ ops, ∃ rs driver, (genericMachine Q).run (.new queue) ops = .ret (rs, driver) ∧
    Protocol driver.state (genericEvents (ops.zip rs))
  typed : ∀ t h, TypedGenericTrace (.driver .offline (.new queue)) t h → Protocol h.inner.state (genericEvents t)

/-- **One load, one start, then work.** -/
theorem driver_follows_protocol (backend : FifoBackend Q) {queue : Q} {f : SubmissionFifo} (rep : backend.Rep queue f)
    (empty : f.items = []) : FollowsProtocol queue where
  generic := by
    intro ops
    obtain ⟨rs, driver, v, run, shown, history⟩ := (GenericGpuDriver.new_shows rep).run ops
    refine ⟨rs, driver, run, ?_⟩
    show Protocol driver.controller.state _
    rw [shown.controller]
    exact history.protocol rfl empty
  typed := by
    intro t h trace
    obtain ⟨v, shown, history⟩ := (GenericGpuDriver.new_shows rep).trace trace.inner
    show Protocol h.inner.controller.state _
    rw [shown.controller]
    exact history.protocol rfl empty

theorem driver_follows_protocol_three : ∃ queue, StaticCommandQueue.new 3 = .ok queue ∧ FollowsProtocol queue := by
  obtain ⟨queue, new, rep⟩ := StaticCommandQueue.new_represents (show 3 ≠ 0 by decide)
  exact ⟨queue, new, driver_follows_protocol (StaticCommandQueue.backend (by decide)) rep rfl⟩

end Runs

end GpuDriverLab
